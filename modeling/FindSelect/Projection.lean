import FindSelect.Statement.Basic
import FindSelect.Error

/-!
# Projections

A projection is a document whose keys name columns, all to be given or all to be left out. It is
resolved by a walk along the columns of the table, so that the result keeps their order; keys that
are no columns are ignored.

* `ProjectionMode.ofJson?`: the mode that a value stands for;
* `resolveProjection`: the columns that a projection gives, or none when no key is a column;
* `decodeProjection`: a statement with the columns of a projection.
-/

namespace FindSelect

/-- The mode that a value stands for: one or true includes, minus one, zero or false excludes. -/
def ProjectionMode.ofJson? : Json → Option ProjectionMode
  | .boolean true => some .inclusion
  | .boolean false => some .exclusion
  | .number (.integer i) =>
    if i.val = 1 then some .inclusion
    else if i.val = -1 ∨ i.val = 0 then some .exclusion
    else none
  | _ => none

/-- What a walk along the columns has found: the mode of the columns met so far, and those
columns. -/
structure ProjectionScan where
  mode : Option ProjectionMode := none
  matched : List Column := []
  deriving Repr

/-- One step of the walk. A column that the projection names must have a mode, and the mode of the
columns before it. -/
def ProjectionScan.step (projection : Entries) (scan : ProjectionScan) (c : Column) :
    Except CallError ProjectionScan :=
  match projection.lookup c.name with
  | none => .ok scan
  | some v =>
    match ProjectionMode.ofJson? v with
    | none => .error (.invalidProjection (.notMode c.name v))
    | some current =>
      match scan.mode with
      | none => .ok ⟨some current, scan.matched ++ [c]⟩
      | some first =>
        if first = current then .ok ⟨some current, scan.matched ++ [c]⟩
        else .error (.modeConflict first current)

/-- The columns that a finished walk gives: those met, in the mode that includes, and all others, in
the mode that excludes. -/
def ProjectionScan.fields (columns : List Column) (scan : ProjectionScan) : Option (List Column) :=
  match scan.mode with
  | none => none
  | some .inclusion => some scan.matched
  | some .exclusion => some (columns.filter fun c => !scan.matched.contains c)

/-- The columns that a projection gives, or none when none of its keys is a column. -/
def resolveProjection (projection : Entries) (columns : List Column) :
    Except CallError (Option (List Column)) :=
  (ProjectionScan.fields columns) <$> columns.foldlM (ProjectionScan.step projection) {}

/-- The columns that an optional projection gives. An absent projection and null give none; anything
else must be a document. -/
def projectedColumns (projection : Option Json) (columns : List Column) :
    Except CallError (Option (List Column)) :=
  match projection with
  | none => .ok none
  | some .null => .ok none
  | some (.document entries) => resolveProjection entries columns
  | some v => .error (.invalidProjection (.notDocument v))

/-- The statement with the columns of a projection, or as it was when the projection gives none. -/
def decodeProjection (s : Statement) (projection : Option Json) (columns : List Column) :
    Except CallError Statement := do
  match ← projectedColumns projection columns with
  | some fields => return { s with fields := .only fields }
  | none => return s

end FindSelect
