import FindSelect.SortSpec
import FindSelect.Json.Record

/-!
# Find calls

A call names a collection and may have a filter, a projection, a limit, a number of rows to skip and
a sort argument.

* `FindCall`, built from a collection by `FindCall.set`;
* `FindCall.toJson`, `FindCall.reader`, `FindCall.parse`: its written form and the reading of a
  text;
* `FindCall.ofJson`: the reading of a value that is already there.
-/

namespace FindSelect

/-- A call to find rows. -/
structure FindCall where
  collection : String
  filter : Option Json := none
  projection : Option Json := none
  limit : Option UInt64 := none
  skip : Option UInt64 := none
  sort : Option SortSpec := none
  deriving Repr

/-! ## Building -/

/-- A part that a call may be given. -/
inductive CallPart
  | filter (v : Json)
  | projection (v : Json)
  | limit (n : UInt64)
  | skip (n : UInt64)
  | sort (spec : SortSpec)
  deriving Repr

namespace FindCall

/-- The call of a collection, with no parts. -/
def of (collection : String) : FindCall := { collection }

/-- The call with a part, in place of any other of its kind. -/
def set (call : FindCall) : CallPart → FindCall
  | .filter v => { call with filter := some v }
  | .projection v => { call with projection := some v }
  | .limit n => { call with limit := some n }
  | .skip n => { call with skip := some n }
  | .sort spec => { call with sort := some spec }

/-- The call of a collection with the given parts, in the order in which they are given. -/
def build (collection : String) (parts : List CallPart) : FindCall :=
  parts.foldl set (of collection)

/-- Calls are alike when they differ only in the order of the entries of documents. -/
def alike (c d : FindCall) : Bool :=
  let optionAlike : Option Json → Option Json → Bool
    | none, none => true
    | some v, some w => v.alike w
    | _, _ => false
  c.collection == d.collection && optionAlike c.filter d.filter &&
    optionAlike c.projection d.projection && c.limit == d.limit && c.skip == d.skip &&
    c.sort == d.sort

/-! ## Writing -/

/-- A call is written as a record of all its parts; an absent part is null. -/
def toJson (call : FindCall) : Json :=
  .document
    [("collection", .string call.collection),
      ("filter", .ofOption id call.filter),
      ("projection", .ofOption id call.projection),
      ("limit", .ofOption Json.ofUInt64 call.limit),
      ("skip", .ofOption Json.ofUInt64 call.skip),
      ("sort", .ofOption SortSpec.toJson call.sort)]

/-- The compact text of a call. -/
def compact (call : FindCall) : String := call.toJson.compact

/-! ## Reading a text -/

open Reader

/-- Reads a sort argument: a whole value, which is then checked. -/
def sortReader (levels : Nat) : Reader SortSpec := do
  match SortSpec.ofJson (← Reader.value levels) with
  | .ok spec => return spec
  | .error e => mismatch (.refused e.message)

/-- The fields of a call that have been read. -/
structure Draft where
  collection : Option String := none
  filter : Option (Option Json) := none
  projection : Option (Option Json) := none
  limit : Option (Option UInt64) := none
  skip : Option (Option UInt64) := none
  sort : Option (Option SortSpec) := none

/-- The call of the fields that have been read: only the collection must be among them. -/
def Draft.finish (draft : Draft) : Except Mismatch FindCall := do
  let collection ← required "collection" draft.collection
  return ⟨collection, draft.filter.join, draft.projection.join, draft.limit.join, draft.skip.join,
    draft.sort.join⟩

/-- The shape of a call: all but the collection may be missing. -/
def shape : RecordShape Draft FindCall where
  name := "FindCall"
  ofList levels := do
    let collection ← requiredItem "FindCall" 6 0 string
    let filter ← optionalItem 1 none (optional (Reader.value levels))
    let projection ← optionalItem 2 none (optional (Reader.value levels))
    let limit ← optionalItem 3 none (optional unsigned)
    let skip ← optionalItem 4 none (optional unsigned)
    let sort ← optionalItem 5 none (optional (sortReader levels))
    return ⟨collection, filter, projection, limit, skip, sort⟩
  empty := {}
  field levels key draft :=
    match key with
    | "collection" => do
      return { draft with collection := ← fieldValue "collection" draft.collection string }
    | "filter" => do
      return { draft with
        filter := ← fieldValue "filter" draft.filter (optional (Reader.value levels)) }
    | "projection" => do
      return { draft with
        projection := ← fieldValue "projection" draft.projection (optional (Reader.value levels)) }
    | "limit" => do
      return { draft with limit := ← fieldValue "limit" draft.limit (optional unsigned) }
    | "skip" => do
      return { draft with skip := ← fieldValue "skip" draft.skip (optional unsigned) }
    | "sort" => do
      return { draft with sort := ← fieldValue "sort" draft.sort (optional (sortReader levels)) }
    | _ => skipField draft
  finish := Draft.finish

/-- Reads a call. -/
def reader (levels : Nat) : Reader FindCall := record shape levels

/-- The call that a text is. -/
def parse (text : String) : Except Fault FindCall := (reader maxNesting).run text

/-! ## Reading a value -/

/-- The string that a value is. -/
def stringOf : Json → Except Mismatch String
  | .string s => .ok s
  | v => .error (.wrongKind v.found .string)

/-- The unsigned word that a value is. -/
def unsignedOf : Json → Except Mismatch UInt64
  | .number (.integer i) =>
    match i.toUInt64? with
    | some n => .ok n
    | none => .error (.outOfRange i.val .unsigned)
  | v => .error (.wrongKind v.found .unsigned)

/-- The sort argument that a value is. -/
def sortOf (v : Json) : Except Mismatch SortSpec :=
  match SortSpec.ofJson v with
  | .ok spec => .ok spec
  | .error e => .error (.refused e.message)

/-- What a value is, unless it is null. -/
def optionalOf {α : Type} (f : Json → Except Mismatch α) : Json → Except Mismatch (Option α)
  | .null => .ok none
  | v => some <$> f v

/-- The field of a value, which must not have been given before. -/
def fieldOf {α : Type} (name : String) (slot : Option α) (f : Json → Except Mismatch α) (v : Json) :
    Except Mismatch (Option α) :=
  if slot.isSome then .error (.repeatedField name) else some <$> f v

/-- Takes an entry of a document into the fields that have been read. -/
def Draft.enter (draft : Draft) : String × Json → Except Mismatch Draft
  | ("collection", v) => do
    return { draft with collection := ← fieldOf "collection" draft.collection stringOf v }
  | ("filter", v) => do
    return { draft with filter := ← fieldOf "filter" draft.filter (optionalOf .ok) v }
  | ("projection", v) => do
    return { draft with
      projection := ← fieldOf "projection" draft.projection (optionalOf .ok) v }
  | ("limit", v) => do
    return { draft with limit := ← fieldOf "limit" draft.limit (optionalOf unsignedOf) v }
  | ("skip", v) => do
    return { draft with skip := ← fieldOf "skip" draft.skip (optionalOf unsignedOf) v }
  | ("sort", v) => do
    return { draft with sort := ← fieldOf "sort" draft.sort (optionalOf sortOf) v }
  | _ => .ok draft

/-- The call that a list of fields in order is. -/
def ofItems (items : List Json) : Except Mismatch FindCall := do
  let field {α : Type} (place : Nat) (f : Json → Except Mismatch α) : Except Mismatch (Option α) :=
    match items[place]? with
    | some v => optionalOf f v
    | none => .ok none
  let collection ← match items.head? with
    | some v => stringOf v
    | none => .error (.tooFew 0 "FindCall" 6)
  let filter ← field 1 .ok
  let projection ← field 2 .ok
  let limit ← field 3 unsignedOf
  let skip ← field 4 unsignedOf
  let sort ← field 5 sortOf
  if 6 < items.length then .error (.tooMany items.length)
  else return ⟨collection, filter, projection, limit, skip, sort⟩

/-- The call that a value is. -/
def ofJson : Json → Except Mismatch FindCall
  | .document entries => do (← entries.foldlM Draft.enter {}).finish
  | .list items => ofItems items
  | v => .error (.wrongKind v.found (.record "FindCall"))

end FindCall

end FindSelect
