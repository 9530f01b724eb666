import FindSelect.Config
import FindSelect.Schema.Settings
import Mathlib.Data.List.Forall2

/-!
# What settings describe

A text of settings is a table. It describes a configuration, or a schema, by what stands under a few
of its keys; no other key counts.

* `Table.optional_eq_some_iff`, `Table.required_eq_some_iff`: the setting under a key;
* `Config.DescribedBy`, `Config.ofToml_eq_some_iff`: configurations;
* `Node.DescribesColumn`, `Node.DescribesTable`, `Schema.DescribedBy`, `Schema.ofToml_eq_some_iff`:
  schemas.
-/

namespace FindSelect

open Toml

namespace Toml

/-! ## Settings under a key -/

theorem Node.string?_eq_some_iff {n : Node} {s : String} : n.string? = some s ↔ n = .string s := by
  cases n <;> simp [Node.string?]

theorem Node.boolean?_eq_some_iff {n : Node} {b : Bool} :
    n.boolean? = some b ↔ n = .boolean b := by
  cases n <;> simp [Node.boolean?]

section Access

variable {α : Type} {make : α → Node} {t : Table} {key : String}

theorem Table.optional_eq_some_iff (read : Node → Option α) {part : Option α} :
    t.optional key read = some part ↔ (t.lookup key = none ∧ part = none) ∨
      ∃ n a, t.lookup key = some n ∧ read n = some a ∧ part = some a := by
  unfold Table.optional
  cases t.lookup key with
  | none => simp [eq_comm]
  | some n => simp [eq_comm]

/-- A setting that may be missing, when each value is written in one way. -/
theorem Table.optional_eq_some_iff_of_make {read : Node → Option α}
    (h : ∀ n a, read n = some a ↔ n = make a) {part : Option α} :
    t.optional key read = some part ↔ t.lookup key = part.map make := by
  rw [Table.optional_eq_some_iff]
  cases part with
  | none => simp
  | some a => simp [h]

theorem Table.required_eq_some_iff (read : Node → Option α) {a : α} :
    t.required key read = some a ↔ ∃ n, t.lookup key = some n ∧ read n = some a := by
  unfold Table.required
  exact Option.bind_eq_some_iff

end Access

theorem Table.optional_string_eq_some_iff {t : Table} {key : String} {part : Option String} :
    t.optional key Node.string? = some part ↔ t.lookup key = part.map .string :=
  Table.optional_eq_some_iff_of_make fun _ _ => Node.string?_eq_some_iff

theorem Table.optional_boolean_eq_some_iff {t : Table} {key : String} {part : Option Bool} :
    t.optional key Node.boolean? = some part ↔ t.lookup key = part.map .boolean :=
  Table.optional_eq_some_iff_of_make fun _ _ => Node.boolean?_eq_some_iff

theorem Table.required_string_eq_some_iff {t : Table} {key s : String} :
    t.required key Node.string? = some s ↔ t.lookup key = some (.string s) := by
  simp only [Table.required_eq_some_iff, Node.string?_eq_some_iff, exists_eq_right]

/-- The items of a value describe the members of a list, one by one. -/
def Node.DescribesList {α : Type} (describes : Node → α → Prop) (n : Node) (as : List α) : Prop :=
  ∃ items, n.items? = some items ∧ List.Forall₂ describes items as

theorem mapM_eq_some_iff {α β : Type} {f : α → Option β} {xs : List α} {ys : List β} :
    xs.mapM f = some ys ↔ List.Forall₂ (fun x y => f x = some y) xs ys := by
  induction xs generalizing ys with
  | nil => cases ys <;> simp
  | cons x xs ih =>
    simp only [List.mapM_cons, Option.bind_eq_bind, Option.bind_eq_some_iff, ih, Option.pure_def,
      Option.some.injEq, List.forall₂_cons_left_iff]
    constructor
    · rintro ⟨y, hy, zs, hzs, rfl⟩
      exact ⟨y, zs, hy, hzs, rfl⟩
    · rintro ⟨y, zs, hy, hzs, rfl⟩
      exact ⟨y, hy, zs, hzs, rfl⟩

end Toml

/-! ## Configurations -/

/-- A value asks for a format: it is the name of the format, or a table with this name as its only
key and nothing under it. -/
inductive Toml.Node.AsksFor : Node → OutputFormat → Prop
  | name (format : OutputFormat) : AsksFor (.string format.name) format
  | key (origin : Origin) (format : OutputFormat) {n : Node} : n.isHollow = true →
      AsksFor (.table origin [(format.name, n)]) format

/-- A text of settings describes a configuration: it gives the path of the schema, or none, and asks
for the format, which is pretty when it asks for none. -/
def Config.DescribedBy (text : String) (config : Config) : Prop :=
  ∃ t, Toml.parse text = some t ∧ t.lookup "schema_path" = config.schemaPath.map .string ∧
    ((t.lookup "format" = none ∧ config.format = .pretty) ∨
      ∃ n, t.lookup "format" = some n ∧ n.AsksFor config.format)

theorem OutputFormat.ofName?_eq_some_iff {s : String} {format : OutputFormat} :
    ofName? s = some format ↔ s = format.name := by
  constructor
  · intro h
    unfold ofName? at h
    split at h
    · cases h
      rfl
    · cases h
      rfl
    · cases h
  · rintro rfl
    cases format <;> rfl

theorem OutputFormat.ofNode_eq_some_iff {n : Node} {format : OutputFormat} :
    ofNode n = some format ↔ n.AsksFor format := by
  constructor
  · intro h
    unfold ofNode at h
    split at h
    · rw [ofName?_eq_some_iff] at h
      subst h
      exact .name format
    next origin key n =>
      split_ifs at h with hollow
      rw [ofName?_eq_some_iff] at h
      subst h
      exact .key origin format hollow
    · cases h
  · rintro (_ | ⟨origin, _, hollow⟩)
    · exact ofName?_eq_some_iff.2 rfl
    · exact (if_pos hollow).trans (ofName?_eq_some_iff.2 rfl)

/-- **A configuration is read from exactly the texts that describe it.** -/
theorem Config.ofToml_eq_some_iff {text : String} {config : Config} :
    ofToml text = some config ↔ config.DescribedBy text := by
  unfold ofToml DescribedBy
  simp only [Option.bind_eq_bind, Option.bind_eq_some_iff, Option.pure_def, Option.some.injEq,
    Table.optional_string_eq_some_iff, Table.optional_eq_some_iff OutputFormat.ofNode,
    OutputFormat.ofNode_eq_some_iff]
  refine exists_congr fun t => and_congr_right fun _ => ?_
  constructor
  · rintro ⟨path, hpath, part, hpart, rfl⟩
    refine ⟨hpath, ?_⟩
    rcases hpart with ⟨hnone, rfl⟩ | ⟨n, format, hn, hformat, rfl⟩
    · exact .inl ⟨hnone, rfl⟩
    · exact .inr ⟨n, hn, hformat⟩
  · obtain ⟨path, format⟩ := config
    rintro ⟨hpath, ⟨hnone, hpretty⟩ | ⟨n, hn, hformat⟩⟩
    · exact ⟨path, hpath, none, .inl ⟨hnone, rfl⟩, congrArg _ hpretty.symm⟩
    · exact ⟨path, hpath, some format, .inr ⟨n, format, hn, hformat, rfl⟩, rfl⟩

/-! ## Schemas -/

/-- A value describes a column: a table with its name, its type under one of two keys if it has one,
and whether it may be null; or an array of these parts, of which the last ones may be missing. -/
inductive Toml.Node.DescribesColumn : Node → ColumnDef → Prop
  | table {origin : Origin} {t : Table} {name : String} {type typ : Option String}
      {nullable : Option Bool} :
      t.lookup "name" = some (.string name) → t.lookup "type" = type.map .string →
      t.lookup "typ" = typ.map .string → type = none ∨ typ = none →
      t.lookup "nullable" = nullable.map .boolean →
      DescribesColumn (.table origin t) ⟨name, type.or typ, nullable.getD false⟩
  | name (name : String) : DescribesColumn (.array [.string name]) ⟨name, none, false⟩
  | type (name type : String) :
      DescribesColumn (.array [.string name, .string type]) ⟨name, some type, false⟩
  | nullable (name type : String) (nullable : Bool) (rest : List Node) :
      DescribesColumn (.array (.string name :: .string type :: .boolean nullable :: rest))
        ⟨name, some type, nullable⟩

/-- A value describes a table: a table with its name and its columns, or an array of these parts. -/
inductive Toml.Node.DescribesTable : Node → TableDef → Prop
  | table {origin : Origin} {t : Table} {name : String} {n : Node} {columns : List ColumnDef} :
      t.lookup "name" = some (.string name) → t.lookup "columns" = some n →
      n.DescribesList DescribesColumn columns → DescribesTable (.table origin t) ⟨name, columns⟩
  | array {name : String} {n : Node} {columns : List ColumnDef} (rest : List Node) :
      n.DescribesList DescribesColumn columns →
      DescribesTable (.array (.string name :: n :: rest)) ⟨name, columns⟩

/-- A text of settings describes a schema: it gives the list of its tables. -/
def Schema.DescribedBy (text : String) (s : Schema) : Prop :=
  ∃ t n, Toml.parse text = some t ∧ t.lookup "tables" = some n ∧
    n.DescribesList Node.DescribesTable s.tables

theorem ColumnDef.ofNode_table {origin : Origin} {t : Table} {c : ColumnDef} :
    ofNode (.table origin t) = some c ↔ (Node.table origin t).DescribesColumn c := by
  unfold ofNode
  simp only [Node.entries?, Option.bind_eq_bind, Option.bind_eq_some_iff, Option.pure_def,
    Table.required_string_eq_some_iff, Table.optional_string_eq_some_iff,
    Table.optional_boolean_eq_some_iff]
  constructor
  · rintro ⟨name, hname, type, htype, typ, htyp, nullable, hnullable, h⟩
    split_ifs at h with hboth
    cases h
    refine .table hname htype htyp ?_ hnullable
    cases type <;> cases typ <;> simp_all
  · rintro ⟨hname, htype, htyp, hone, hnullable⟩
    refine ⟨_, hname, _, htype, _, htyp, _, hnullable, if_neg ?_⟩
    rintro ⟨htype', htyp'⟩
    rcases hone with rfl | rfl
    · cases htype'
    · cases htyp'

theorem ColumnDef.ofNode_array {items : List Node} {c : ColumnDef} :
    ofNode (.array items) = some c ↔ (Node.array items).DescribesColumn c := by
  unfold ofNode
  match items with
  | [] => exact iff_of_false nofun nofun
  | [n] =>
    simp only [Node.entries?, Node.items?, Option.bind_eq_bind, Option.bind_eq_some_iff,
      Option.pure_def, Node.string?_eq_some_iff, Option.some.injEq]
    constructor
    · rintro ⟨name, rfl, rfl⟩
      exact .name name
    · rintro ⟨⟩
      exact ⟨_, rfl, rfl⟩
  | [n, m] =>
    simp only [Node.entries?, Node.items?, Option.bind_eq_bind, Option.bind_eq_some_iff,
      Option.pure_def, Node.string?_eq_some_iff, Option.some.injEq]
    constructor
    · rintro ⟨name, rfl, type, rfl, rfl⟩
      exact .type name type
    · rintro ⟨⟩
      exact ⟨_, rfl, _, rfl, rfl⟩
  | n :: m :: k :: rest =>
    simp only [Node.entries?, Node.items?, Option.bind_eq_bind, Option.bind_eq_some_iff,
      Option.pure_def, Node.string?_eq_some_iff, Node.boolean?_eq_some_iff, Option.some.injEq]
    constructor
    · rintro ⟨name, rfl, type, rfl, nullable, rfl, rfl⟩
      exact .nullable name type nullable rest
    · rintro ⟨⟩
      exact ⟨_, rfl, _, rfl, _, rfl, rfl⟩

theorem ColumnDef.ofNode_eq_some_iff {n : Node} {c : ColumnDef} :
    ofNode n = some c ↔ n.DescribesColumn c := by
  cases n with
  | table origin t => exact ofNode_table
  | array items => exact ofNode_array
  | tables elements =>
    refine iff_of_false (fun h => ?_) nofun
    match elements with
    | [] => cases h
    | [_] => cases h
    | [_, _] => cases h
    | _ :: _ :: _ :: _ => cases h
  | string s => exact iff_of_false nofun nofun
  | boolean b => exact iff_of_false nofun nofun
  | quantity => exact iff_of_false nofun nofun

theorem Toml.Node.describesList_iff {α : Type} {read : Node → Option α}
    {describes : Node → α → Prop} (h : ∀ n a, read n = some a ↔ describes n a) {n : Node}
    {as : List α} :
    (n.items? >>= fun items => items.mapM read) = some as ↔ n.DescribesList describes as := by
  unfold DescribesList
  simp only [Option.bind_eq_bind, Option.bind_eq_some_iff, mapM_eq_some_iff, h]

theorem ColumnDef.listOfNode_eq_some_iff {n : Node} {columns : List ColumnDef} :
    listOfNode n = some columns ↔ n.DescribesList Node.DescribesColumn columns :=
  Node.describesList_iff fun _ _ => ofNode_eq_some_iff

theorem TableDef.ofNode_eq_some_iff {n : Node} {d : TableDef} :
    ofNode n = some d ↔ n.DescribesTable d := by
  unfold ofNode
  cases n with
  | table origin t =>
    simp only [Node.entries?, Option.bind_eq_bind, Option.bind_eq_some_iff, Option.pure_def,
      Table.required_string_eq_some_iff, Table.required_eq_some_iff ColumnDef.listOfNode,
      ColumnDef.listOfNode_eq_some_iff, Option.some.injEq]
    constructor
    · rintro ⟨name, hname, columns, ⟨n, hn, hcolumns⟩, rfl⟩
      exact .table hname hn hcolumns
    · rintro ⟨hname, hn, hcolumns⟩
      exact ⟨_, hname, _, ⟨_, hn, hcolumns⟩, rfl⟩
  | array items =>
    match items with
    | [] => exact iff_of_false nofun nofun
    | [_] => exact iff_of_false nofun nofun
    | n :: m :: rest =>
      simp only [Node.entries?, Node.items?, Option.bind_eq_bind, Option.bind_eq_some_iff,
        Option.pure_def, Node.string?_eq_some_iff, ColumnDef.listOfNode_eq_some_iff,
        Option.some.injEq]
      constructor
      · rintro ⟨name, rfl, columns, hcolumns, rfl⟩
        exact .array rest hcolumns
      · intro h
        cases h with
        | array rest hcolumns => exact ⟨_, rfl, _, hcolumns, rfl⟩
  | tables elements =>
    refine iff_of_false (fun h => ?_) nofun
    match elements with
    | [] => cases h
    | [_] => cases h
    | _ :: _ :: _ => cases h
  | string s => exact iff_of_false nofun nofun
  | boolean b => exact iff_of_false nofun nofun
  | quantity => exact iff_of_false nofun nofun

/-- **A schema is read from exactly the texts of settings that describe it.** -/
theorem Schema.ofToml_eq_some_iff {text : String} {s : Schema} :
    ofToml text = some s ↔ s.DescribedBy text := by
  have hlist : ∀ n tables, TableDef.listOfNode n = some tables ↔
      n.DescribesList Node.DescribesTable tables :=
    fun _ _ => Node.describesList_iff fun _ _ => TableDef.ofNode_eq_some_iff
  unfold ofToml DescribedBy
  simp only [Option.bind_eq_bind, Option.bind_eq_some_iff, Option.pure_def, Option.some.injEq,
    Table.required_eq_some_iff TableDef.listOfNode, hlist]
  constructor
  · rintro ⟨t, ht, tables, ⟨n, hn, htables⟩, rfl⟩
    exact ⟨t, n, ht, hn, htables⟩
  · rintro ⟨t, n, ht, hn, htables⟩
    exact ⟨t, ht, s.tables, ⟨n, hn, htables⟩, rfl⟩

end FindSelect
