import FindSelect.Json.Reader

/-!
# Reading records

Readers for values of a known shape: strings, booleans, words, lists, records and choices by name.

A record is written as a document, in which keys that are not fields are skipped, or as the list of
its fields in order, in which fields with a default may be left off at the end. A choice is written
as its name, or as a document with the name as its only key and a payload under it.
-/

namespace FindSelect.Reader

variable {α σ ρ κ : Type}

/-! ## Scalars -/

/-- Fails with the kind of the value that stands next. A scalar is read to its end first. -/
def unexpected (expected : Expected) : Reader α := do
  match ← next with
  | none => throw .incomplete
  | some 'n' => word "null".toList; mismatch (.wrongKind .null expected)
  | some 't' => word "true".toList; mismatch (.wrongKind (.boolean true) expected)
  | some 'f' => word "false".toList; mismatch (.wrongKind (.boolean false) expected)
  | some '"' =>
    advance
    mismatch (.wrongKind (.string (← stringTail)) expected)
  | some '[' => mismatch (.wrongKind .list expected)
  | some '{' => mismatch (.wrongKind .document expected)
  | some c =>
    if startsNumber c then
      match ← number with
      | .integer i => mismatch (.wrongKind (.integer i.val) expected)
      | .real x => mismatch (.wrongKind (.real x) expected)
    else throw .malformed

/-- A string. -/
def string : Reader String := do
  match ← next with
  | some '"' => advance; stringTail
  | _ => unexpected .string

/-- A boolean. -/
def boolean : Reader Bool := do
  match ← next with
  | some 't' => word "true".toList; return true
  | some 'f' => word "false".toList; return false
  | _ => unexpected .boolean

/-- An integer of a word: `ofWide?` gives the word of an integer that is in its range. -/
def wordOf (expected : Expected) (ofWide? : WideInt → Option α) : Reader α := do
  match ← next with
  | none => throw .incomplete
  | some c =>
    if startsNumber c then
      match ← number with
      | .real x => mismatch (.wrongKind (.real x) expected)
      | .integer i =>
        match ofWide? i with
        | some n => return n
        | none => mismatch (.outOfRange i.val expected)
    else unexpected expected

/-- An unsigned word. -/
def unsigned : Reader UInt64 := wordOf .unsigned WideInt.toUInt64?

/-- A signed word. -/
def signed : Reader Int64 := wordOf .signed WideInt.toInt64?

/-- Null. -/
def null : Reader Unit := do
  match ← next with
  | some 'n' => word "null".toList
  | _ => unexpected .null

/-- Null, which stands for an absent value, or a value. -/
def optional (reader : Reader α) : Reader (Option α) := do
  match ← next with
  | some 'n' => word "null".toList; return none
  | _ => return some (← reader)

/-! ## Lists -/

/-- What remains of a number of levels inside a bracket: none is left at the deepest. -/
def inside (levels : Nat) : Reader Nat :=
  match levels with
  | 0 => throw .malformed
  | levels + 1 => do
    advance
    return levels

/-- A list of values of one shape. -/
def listOf (levels : Nat) (item : Nat → Reader α) : Reader (List α) := do
  match ← next with
  | some '[' =>
    let levels ← inside levels
    let vs ← items (item levels)
    closeList
    return vs
  | _ => unexpected .list

/-! ## Records -/

/-- The shape of a record: its name and number of fields, how it is read as a list, and how it is
read as a document from a draft of its fields. -/
structure RecordShape (σ ρ : Type) where
  name : String
  ofList : (levels : Nat) → Reader ρ
  empty : σ
  field : (levels : Nat) → (key : String) → σ → Reader σ
  finish : σ → Except Mismatch ρ

/-- The record of a draft, which must be complete, and the closing brace. -/
def RecordShape.close (shape : RecordShape σ ρ) (draft : σ) : Reader ρ :=
  match shape.finish draft with
  | .ok r => do closeDocument; return r
  | .error m => mismatch m

/-- A record. -/
def record (shape : RecordShape σ ρ) (levels : Nat) : Reader ρ := do
  match ← next with
  | some '[' =>
    let levels ← inside levels
    let r ← shape.ofList levels
    closeList
    return r
  | some '{' =>
    let levels ← inside levels
    let draft ← entries stringTail (shape.field levels) shape.empty
    shape.close draft
  | _ => unexpected (.record shape.name)

/-- The value of a field whose key was read: it must not have been given before. -/
def fieldValue (name : String) (slot : Option α) (reader : Reader α) : Reader (Option α) := do
  if slot.isSome then mismatch (.repeatedField name)
  else
    colon
    return some (← reader)

/-- The value under a key that is no field. -/
def skipField (draft : σ) : Reader σ := do
  colon
  skip
  return draft

/-- The field of a record as a list that must be there: `place` counts the fields before it. -/
def requiredItem (name : String) (fields place : Nat) (reader : Reader α) : Reader α := do
  if ← another (place == 0) then reader else mismatch (.tooFew place name fields)

/-- The field of a record as a list that may be left off. -/
def optionalItem (place : Nat) (default : α) (reader : Reader α) : Reader α := do
  if ← another (place == 0) then reader else return default

/-- The value of a field that must have been given. -/
def required (name : String) (slot : Option α) : Except Mismatch α :=
  match slot with
  | some a => .ok a
  | none => .error (.missingField name)

/-! ## Choices -/

/-- The name of a choice, of which `pick` finds the variant. What is no string cannot stand in its
place, be it alone or between braces, so it is malformed and no value of another kind. -/
def variant (pick : String → Except Mismatch κ) : Reader κ := do
  match ← next with
  | none => throw .incomplete
  | some '"' =>
    advance
    match pick (← stringTail) with
    | .ok k => return k
    | .error m => mismatch m
  | some _ => throw .malformed

/-- A choice by name. `pick` finds the variant of a name, `bare` gives the value of a name alone,
and `payload` reads what stands under the name in a document. -/
def choice (pick : String → Except Mismatch κ) (bare : κ → Reader α)
    (payload : (levels : Nat) → κ → Reader α) (levels : Nat) : Reader α := do
  match ← next with
  | some '{' =>
    let levels ← inside levels
    let k ← variant pick
    colon
    let a ← payload levels k
    closeDocument
    return a
  | _ => bare (← variant pick)

end FindSelect.Reader
