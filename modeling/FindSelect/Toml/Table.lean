/-!
# Tables of settings

The tree that a text of settings describes, and the rules by which its lines put values into it.

A table is defined once. A header defines a table, and implies those on the way to it, which may
still get a header of their own; a dotted key defines the tables on its way, which only dotted keys
beside it may extend; a table in braces is complete.

* `Node`, `Table`: the tree;
* `Table.putDotted`: puts a value under a dotted key;
* `Table.within`: changes the table that a header leads to.
-/

namespace FindSelect.Toml

/-- How a table came about. -/
inductive Origin
  /-- Written in braces, complete. -/
  | inline
  /-- By a header of its own. -/
  | header
  /-- On the way of a header to another table. -/
  | implied
  /-- On the way of a dotted key. -/
  | dotted
  deriving DecidableEq, Repr

/-- A value of a setting. Numbers, dates and times are checked for their form and then stand for
themselves alone, as no setting takes one. -/
inductive Node
  | string (s : String)
  | boolean (b : Bool)
  | quantity
  | array (items : List Node)
  | table (origin : Origin) (entries : List (String × Node))
  | tables (elements : List (List (String × Node)))
  deriving Repr, Inhabited

/-- The settings of a table, in order. -/
abbrev Table := List (String × Node)

namespace Table

/-- The table with another value under a key that it has. -/
def set (t : Table) (key : String) (n : Node) : Table :=
  t.map fun e => if e.1 == key then (key, n) else e

/-- The table without a key. -/
def without (t : Table) (key : String) : Table := t.filter fun e => e.1 != key

/-- Whether a table has a key. -/
def has (t : Table) (key : String) : Bool := (t.lookup key).isSome

/-- Puts a value under a new key. -/
def putNew (t : Table) (key : String) (n : Node) : Option Table :=
  if t.has key then none else some (t ++ [(key, n)])

/-- Puts a value under a dotted key: `path` are the tables on its way. The last of them must have
come about by a dotted key. -/
def putDotted (key : String) (n : Node) : (path : List String) → Table → Option Table
  | [], t => t.putNew key n
  | p :: path, t =>
    match t.lookup p with
    | none => do return t ++ [(p, .table .dotted (← putDotted key n path []))]
    | some (.table .dotted inner) => do
      return t.set p (.table .dotted (← putDotted key n path inner))
    | some (.table .implied inner) =>
      if path.isEmpty then none
      else do return t.set p (.table .implied (← putDotted key n path inner))
    | some (.tables elements) =>
      match path.isEmpty, elements.getLast? with
      | false, some inner => do
        return t.set p (.tables (elements.dropLast ++ [← putDotted key n path inner]))
      | _, _ => none
    | some _ => none

/-- Changes the table at the end of a path of a header and gives something else as well. A table
that is not there is implied; of a list of tables the last one is meant. -/
def within {α : Type} (change : Table → Option (Table × α)) :
    (path : List String) → Table → Option (Table × α)
  | [], t => change t
  | p :: path, t =>
    match t.lookup p with
    | none => do
      let (inner, a) ← within change path []
      return (t ++ [(p, .table .implied inner)], a)
    | some (.table .inline _) => none
    | some (.table origin inner) => do
      let (inner, a) ← within change path inner
      return (t.set p (.table origin inner), a)
    | some (.tables elements) =>
      match elements.getLast? with
      | some inner => do
        let (inner, a) ← within change path inner
        return (t.set p (.tables (elements.dropLast ++ [inner])), a)
      | none => none
    | some _ => none

end Table

/-! ## Documents under construction -/

/-- Where the settings of the lines to come belong. -/
inductive Place
  | root
  | table (path : List String) (key : String)
  | element (path : List String) (key : String)
  deriving DecidableEq, Repr

/-- A document under construction: the tables that are complete, and the one that lines add to. -/
structure Draft where
  root : Table := []
  current : Table := []
  place : Place := .root
  deriving Repr

namespace Draft

/-- Adds a setting to the current table. -/
def put (d : Draft) (path : List String) (key : String) (n : Node) : Option Draft := do
  return { d with current := ← Table.putDotted key n path d.current }

/-- The document with its current table in its place. -/
def close (d : Draft) : Option Table :=
  match d.place with
  | .root => some d.current
  | .table path key => do
    let (root, _) ← Table.within
      (fun t => do return (← t.putNew key (.table .header d.current), ()))
      path d.root
    return root
  | .element path key => do
    let (root, _) ← Table.within
      (fun t =>
        match t.lookup key with
        | some (.tables elements) => some (t.set key (.tables (elements ++ [d.current])), ())
        | _ => none)
      path d.root
    return root

/-- Opens the table of a header: it must not be there, or only be implied. -/
def openTable (d : Draft) (path : List String) (key : String) : Option Draft := do
  let root ← d.close
  let (root, current) ← Table.within
    (fun t =>
      match t.lookup key with
      | none => some (t, [])
      | some (.table .implied inner) => some (t.without key, inner)
      | some _ => none)
    path root
  return ⟨root, current, .table path key⟩

/-- Opens a new element of the list of tables of a header. -/
def openElement (d : Draft) (path : List String) (key : String) : Option Draft := do
  let root ← d.close
  let (root, _) ← Table.within
    (fun t =>
      match t.lookup key with
      | none => some (t ++ [(key, .tables [])], ())
      | some (.tables _) => some (t, ())
      | some _ => none)
    path root
  return ⟨root, [], .element path key⟩

end Draft

end FindSelect.Toml
