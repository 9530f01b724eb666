import FindSelect.Proofs.Json.Records
import FindSelect.Schema.Codec

/-!
# Schemas read back

A schema may be written as many documents. The type of a column stands under either of two keys, and
a part of a column that says no more than its absence may be left out, for each column anew. All
these documents are read as the same schema, with repeated tables and columns where they were. Of
several tables of one name the first is the one that is found.

* `ColumnDef.WrittenAs`, `TableDef.WrittenAs`, `Schema.WrittenAs`: the documents of a column, of a
  table and of a schema;
* `fills_optionalEntry`: what an entry that may be left out fills in;
* `decodes_columnDef`, `decodes_tableDef`, `decodes_schema`: columns, tables and schemas are read
  back from each of their documents;
* `Schema.columns_eq_ok_iff`, `Schema.columns_eq_error_iff`: the columns of the first table of a
  name;
* **`Schema.parse_and_columns`**: the text of a schema gives the schema back, with the columns of
  every name.
-/

namespace FindSelect

open Reader

/-! ## The documents of a schema -/

/-- The entries that may stand for a value: one under any of its keys, or none where the value goes
without saying. -/
inductive OptionalEntry (keys : List String) (v : Json) (implied : Prop) : Entries → Prop
  | given {key : String} : key ∈ keys → OptionalEntry keys v implied [(key, v)]
  | omitted : implied → OptionalEntry keys v implied []

/-- The documents that a column may be written as. A column without a type need not say so, nor one
that is never null. -/
inductive ColumnDef.WrittenAs (c : ColumnDef) : Json → Prop
  | document {type nullable : Entries} :
    OptionalEntry ["type", "typ"] (.ofOption .string c.type) (c.type = none) type →
    OptionalEntry ["nullable"] (.boolean c.nullable) (c.nullable = false) nullable →
    ColumnDef.WrittenAs c (.document (("name", .string c.name) :: (type ++ nullable)))

/-- The documents that a table may be written as. -/
inductive TableDef.WrittenAs (t : TableDef) : Json → Prop
  | document {columns : List Json} : List.Forall₂ ColumnDef.WrittenAs t.columns columns →
    TableDef.WrittenAs t (.document [("name", .string t.name), ("columns", .list columns)])

/-- The documents that a schema may be written as. -/
inductive Schema.WrittenAs (s : Schema) : Json → Prop
  | document {tables : List Json} : List.Forall₂ TableDef.WrittenAs s.tables tables →
    Schema.WrittenAs s (.document [("tables", .list tables)])

theorem ColumnDef.writtenAs_toJson (c : ColumnDef) : c.WrittenAs c.toJson :=
  .document (.given List.mem_cons_self) (.given List.mem_cons_self)

theorem TableDef.writtenAs_toJson (t : TableDef) : t.WrittenAs t.toJson := by
  refine .document ?_
  rw [List.forall₂_map_right_iff, List.forall₂_same]
  exact fun c _ => c.writtenAs_toJson

theorem Schema.writtenAs_toJson (s : Schema) : s.WrittenAs s.toJson := by
  refine .document ?_
  rw [List.forall₂_map_right_iff, List.forall₂_same]
  exact fun t _ => t.writtenAs_toJson

/-! ## Reading them -/

/-- An entry that may be left out fills its place in the draft, or leaves it empty; both times the
place stands for the same value. -/
theorem fills_optionalEntry {α σ : Type} {keys : List String} {v : Json} {a default : α}
    {entries : Entries} (h : OptionalEntry keys v (a = default) entries)
    (entry : String → σ → Reader σ) (draft : Option α → σ)
    (henter : ∀ key ∈ keys, Enters (entry key (draft none)) v (.ok (draft (some a)))) :
    ∃ place : Option α, place.getD default = a ∧
      ∀ {rest : Entries} {outcome : Except Fault σ}, Fills entry (draft place) rest outcome →
        Fills entry (draft none) (entries ++ rest) outcome := by
  cases h with
  | given hkey => exact ⟨some a, rfl, fun hrest => .cons (henter _ hkey) hrest⟩
  | omitted himplied => exact ⟨none, himplied.symm, id⟩

theorem decodes_columnDef (levels : Nat) {c : ColumnDef} {v : Json} (h : c.WrittenAs v) :
    Decodes (ColumnDef.reader (levels + 1)) v (.ok c) := by
  cases h with
  | document htype hnullable =>
    have hname := enters_field "name" (ColumnDef.Draft.mk · none none) (decodes_string c.name)
    -- both keys of the type are those of one field
    have htypeKeys : ∀ key ∈ ["type", "typ"],
        Enters (ColumnDef.shape.field levels key ⟨c.name, none, none⟩) (.ofOption .string c.type)
          (.ok ⟨c.name, some c.type, none⟩) := by
      have henter := enters_field "type" (ColumnDef.Draft.mk c.name · none)
        (decodes_ofOption decodes_string (fun _ => rfl) c.type)
      rw [List.forall_mem_cons, List.forall_mem_singleton]
      exact ⟨henter, henter⟩
    obtain ⟨type, htypeEq, hfillsType⟩ := fills_optionalEntry htype
      (ColumnDef.shape.field levels) (ColumnDef.Draft.mk c.name · none) htypeKeys
    have henter := enters_field "nullable" (ColumnDef.Draft.mk c.name type)
      (decodes_truth c.nullable)
    obtain ⟨nullable, hnullableEq, hfillsNullable⟩ := fills_optionalEntry hnullable
      (ColumnDef.shape.field levels) (ColumnDef.Draft.mk c.name type)
      (List.forall_mem_singleton.2 henter)
    have hfills := hfillsType (hfillsNullable .nil)
    rw [List.append_nil] at hfills
    have hfinish : ColumnDef.shape.finish ⟨c.name, type, nullable⟩ = .ok c := by
      have hjoin : type.join = type.getD none := by
        cases type with
        | none => rfl
        | some type => rfl
      change Except.ok (ColumnDef.mk c.name type.join (nullable.getD false)) = _
      rw [hjoin, htypeEq, hnullableEq]
    exact decodes_record (.cons hname hfills) (congrArg (Except.mapError Fault.mismatch) hfinish)

theorem decodes_tableDef (levels : Nat) {t : TableDef} {v : Json} (h : t.WrittenAs v) :
    Decodes (TableDef.reader (levels + 3)) v (.ok t) := by
  cases h with
  | document hcolumns =>
    have hname := enters_field "name" (TableDef.Draft.mk · none) (decodes_string t.name)
    have hcolumns := enters_field "columns" (TableDef.Draft.mk t.name)
      (decodes_listOf_forall₂ (hcolumns.imp fun _ _ hc => decodes_columnDef levels hc))
    exact decodes_record (.cons hname (.cons hcolumns .nil)) rfl

theorem decodes_schema (levels : Nat) {s : Schema} {v : Json} (h : s.WrittenAs v) :
    Decodes (Schema.reader (levels + 5)) v (.ok s) := by
  cases h with
  | @document tables htables =>
    have hlist := decodes_listOf_forall₂ (htables.imp fun _ _ ht => decodes_tableDef levels ht)
    have htables : Enters (fieldValue "tables" none (listOf (levels + 4) TableDef.reader))
        (.list tables) (.ok (some s.tables)) := (hlist.map some).enters
    exact decodes_record (.cons htables .nil) rfl

theorem Schema.parse_of_writtenAs {s : Schema} {v : Json} {text : String} (hv : s.WrittenAs v)
    (h : Holds text v) : Schema.parse text = .ok s :=
  run_of_holds (decodes_schema 122 hv) h

theorem Schema.parse_of_holds {s : Schema} {text : String} (h : Holds text s.toJson) :
    Schema.parse text = .ok s :=
  parse_of_writtenAs s.writtenAs_toJson h

/-! ## Tables of a name -/

theorem Schema.columns_eq_ok_iff {s : Schema} {name : String} {cs : List Column} :
    s.columns name = .ok cs ↔ ∃ before t after, s.tables = before ++ t :: after ∧
      (∀ u ∈ before, u.name ≠ name) ∧ t.name = name ∧ t.columnNames = cs := by
  have hfind : ∀ t, s.table? name = some t ↔ t.name = name ∧ ∃ before after,
      s.tables = before ++ t :: after ∧ ∀ u ∈ before, u.name ≠ name := by
    intro t
    simp [table?, List.find?_eq_some_iff_append]
  unfold Schema.columns
  constructor
  · intro h
    split at h
    next t ht =>
      obtain ⟨hname, before, after, htables, hbefore⟩ := (hfind t).1 ht
      cases h
      exact ⟨before, t, after, htables, hbefore, hname, rfl⟩
    next => cases h
  · rintro ⟨before, t, after, htables, hbefore, hname, rfl⟩
    rw [(hfind t).2 ⟨hname, before, after, htables, hbefore⟩]

theorem Schema.columns_eq_error_iff {s : Schema} {name : String} {e : CallError} :
    s.columns name = .error e ↔ (∀ t ∈ s.tables, t.name ≠ name) ∧ e = .unknownTable name := by
  have hnone : s.table? name = none ↔ ∀ t ∈ s.tables, t.name ≠ name := by
    simp [table?, List.find?_eq_none]
  rw [← hnone]
  unfold Schema.columns
  constructor
  · intro h
    split at h
    next => cases h
    next hfind =>
      cases h
      exact ⟨hfind, rfl⟩
  · rintro ⟨hfind, rfl⟩
    rw [hfind]

/-! ## The written schema -/

namespace Schema

/-- **Schemas read back.** The compact text of a schema gives the same schema back, and so does the
compact text of every other document that it may be written as. Under every name the schema has the
columns, in order, of its first table of that name; an error says that the name is that of no
table. -/
theorem parse_and_columns (s : Schema) :
    parse s.compact = .ok s ∧ (∀ v, s.WrittenAs v → parse v.compact = .ok s) ∧
      ∀ name,
        (∀ cs, s.columns name = .ok cs ↔ ∃ before t after, s.tables = before ++ t :: after ∧
          (∀ u ∈ before, u.name ≠ name) ∧ t.name = name ∧
            (t.columns.map fun c => (⟨c.name⟩ : Column)) = cs) ∧
        ∀ e, s.columns name = .error e ↔
          (∀ t ∈ s.tables, t.name ≠ name) ∧ e = .unknownTable name := by
  refine ⟨?_, fun v hv => ?_, fun name => ⟨fun cs => ?_, fun e => ?_⟩⟩
  · exact parse_of_holds (holds_compact s.toJson)
  · exact parse_of_writtenAs hv (holds_compact v)
  · exact columns_eq_ok_iff
  · exact columns_eq_error_iff

/-- Two tables of one name, and a name that has to be escaped. -/
def repeatedTables : Schema :=
  ⟨[⟨"users", [⟨"id", some "int", false⟩, ⟨"grö\"ße\n", none, true⟩, ⟨"id", none, false⟩]⟩,
    ⟨"users", []⟩]⟩

/-- Their document, in which each column is written in another way. -/
def repeatedTablesDocument : Json :=
  .document [("tables", .list [
    .document [("name", .string "users"), ("columns", .list [
      .document [("name", .string "id"), ("typ", .string "int"), ("nullable", .boolean false)],
      .document [("name", .string "grö\"ße\n"), ("type", .null), ("nullable", .boolean true)],
      .document [("name", .string "id")]])],
    .document [("name", .string "users"), ("columns", .list [])]])]

theorem writtenAs_repeatedTablesDocument : repeatedTables.WrittenAs repeatedTablesDocument := by
  have hid : ColumnDef.WrittenAs ⟨"id", some "int", false⟩ _ :=
    .document (.given (List.mem_cons_of_mem _ List.mem_cons_self)) (.given List.mem_cons_self)
  have hsize : ColumnDef.WrittenAs ⟨"grö\"ße\n", none, true⟩ _ :=
    .document (.given List.mem_cons_self) (.given List.mem_cons_self)
  have hplain : ColumnDef.WrittenAs ⟨"id", none, false⟩ _ :=
    .document (.omitted rfl) (.omitted rfl)
  have hfirst : TableDef.WrittenAs ⟨"users", _⟩ _ :=
    .document (.cons hid (.cons hsize (.cons hplain .nil)))
  have hsecond : TableDef.WrittenAs ⟨"users", []⟩ _ := .document .nil
  exact .document (.cons hfirst (.cons hsecond .nil))

theorem parse_and_columns_repeated :
    repeatedTables.WrittenAs repeatedTablesDocument ∧
      parse repeatedTablesDocument.compact = .ok repeatedTables ∧
      repeatedTables.columns "users" = .ok [⟨"id"⟩, ⟨"grö\"ße\n"⟩, ⟨"id"⟩] ∧
      repeatedTables.columns "orders" = .error (.unknownTable "orders") := by
  obtain ⟨-, hparse, hcolumns⟩ := parse_and_columns repeatedTables
  refine ⟨writtenAs_repeatedTablesDocument, hparse _ writtenAs_repeatedTablesDocument, ?_, ?_⟩
  · exact ((hcolumns "users").1 _).2 ⟨[], _, _, rfl, List.forall_mem_nil _, rfl, rfl⟩
  · exact ((hcolumns "orders").2 _).2 ⟨by decide, rfl⟩

end Schema

end FindSelect
