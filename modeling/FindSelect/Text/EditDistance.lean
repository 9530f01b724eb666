/-!
# Edit distance

The least number of insertions, deletions and replacements of one character that turn one text into
another, by the usual table, kept one row at a time.

* `editDistance`: the distance of two texts, counted in characters.
-/

namespace FindSelect.Text

/-- The row of the table under `above`, for the character `a` against the characters `bs`: `corner`
is the entry of `above` that the list `above` starts after, and `left` the entry before the next
one. -/
def nextRow (a : Char) (corner left : Nat) : List Char → List Nat → List Nat
  | b :: bs, up :: above =>
    let entry := min (min left up + 1) (corner + if a = b then 0 else 1)
    entry :: nextRow a up entry bs above
  | _, _ => []

/-- The last entry of the table, from the row reached so far: the row's first entry is `first`, the
others are `row`. -/
def lastEntry (bs : List Char) : List Char → Nat → List Nat → Nat
  | [], first, row => row.getLastD first
  | a :: rest, first, row => lastEntry bs rest (first + 1) (nextRow a first (first + 1) bs row)

/-- The edit distance of two lists of characters. -/
def charDistance (cs bs : List Char) : Nat :=
  lastEntry bs cs 0 ((List.range bs.length).map (· + 1))

/-- The edit distance of two texts. -/
def editDistance (s t : String) : Nat := charDistance s.toList t.toList

end FindSelect.Text
