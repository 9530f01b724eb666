import FindSelect.Decimal.Binary64

/-!
# Documents

The values of the data format: null, booleans, numbers, strings, lists, and documents whose entries
keep their order.

* `WideInt`: the integers that a signed or an unsigned 64-bit word can hold;
* `Json`: the values;
* `Json.nesting`: how many lists and documents enclose the innermost value;
* `Json.DistinctKeys`: no document in the value repeats a key;
* `Json.alike`: equality that ignores the order of the entries of documents.
-/

namespace FindSelect

/-! ## Numbers -/

/-- An integer that a signed or an unsigned 64-bit word can hold. -/
structure WideInt where
  val : Int
  lower : -0x8000000000000000 ≤ val
  upper : val < 0x10000000000000000
  deriving DecidableEq, Repr

namespace WideInt

/-- The integer, if it is in range. -/
def ofInt? (i : Int) : Option WideInt :=
  if h : -0x8000000000000000 ≤ i ∧ i < 0x10000000000000000 then some ⟨i, h.1, h.2⟩ else none

/-- The value of an unsigned word. -/
def ofUInt64 (n : UInt64) : WideInt :=
  ⟨n.toNat, by omega, by have := n.toNat_lt; omega⟩

/-- The value of a signed word. -/
def ofInt64 (n : Int64) : WideInt :=
  ⟨n.toInt, by have := n.le_toInt; omega, by have := n.toInt_lt; omega⟩

/-- The signed word of this value, if there is one. -/
def toInt64? (i : WideInt) : Option Int64 :=
  if i.val < 0x8000000000000000 then some (Int64.ofInt i.val) else none

/-- The unsigned word of this value, if there is one. -/
def toUInt64? (i : WideInt) : Option UInt64 :=
  if 0 ≤ i.val then some (UInt64.ofNat i.val.toNat) else none

/-- Every unsigned word is read back. -/
@[simp] theorem toUInt64?_ofUInt64 (n : UInt64) : (ofUInt64 n).toUInt64? = some n := by
  simp [toUInt64?, ofUInt64]

/-- Every signed word is read back. -/
@[simp] theorem toInt64?_ofInt64 (n : Int64) : (ofInt64 n).toInt64? = some n := by
  have hn : n.toInt < 0x8000000000000000 := n.toInt_lt
  unfold toInt64? ofInt64
  rw [if_pos hn, Int64.ofInt_toInt]

theorem val_of_ofInt? {i : Int} {w : WideInt} (h : ofInt? i = some w) : w.val = i := by
  unfold ofInt? at h
  split at h
  · cases h; rfl
  · cases h

end WideInt

/-- A number is an integer or a floating-point number; `1` and `1.0` differ. -/
inductive Number
  | integer (i : WideInt)
  | real (x : Binary64)
  deriving DecidableEq, Repr

/-- Equality of numbers of one kind by value. -/
def Number.alike : Number → Number → Bool
  | .integer i, .integer j => i == j
  | .real x, .real y => x.sameValue y
  | _, _ => false

/-! ## Values -/

/-- A value of the data format. -/
inductive Json
  | null
  | boolean (b : Bool)
  | number (n : Number)
  | string (s : String)
  | list (items : List Json)
  | document (entries : List (String × Json))
  deriving Repr, Inhabited

/-- The entries of a document, in order. -/
abbrev Entries := List (String × Json)

namespace Json

/-- An integer as a value. -/
def int (i : WideInt) : Json := .number (.integer i)

/-- An unsigned word as a value. -/
def ofUInt64 (n : UInt64) : Json := int (.ofUInt64 n)

/-- A signed word as a value. -/
def ofInt64 (n : Int64) : Json := int (.ofInt64 n)

/-- A finite number as a value; what is not finite becomes null. -/
def ofReal? : Option Binary64 → Json
  | some x => .number (.real x)
  | none => .null

/-- The value of an optional part: null when it is absent. -/
def ofOption {α : Type} (f : α → Json) : Option α → Json
  | none => .null
  | some a => f a

/-- The signed word that a value is, if it is one. -/
def toInt64? : Json → Option Int64
  | .number (.integer i) => i.toInt64?
  | _ => none

/-- Whether a value is null. -/
def isNull : Json → Bool
  | .null => true
  | _ => false

mutual

/-- The number of lists and documents around the innermost value. -/
def nesting : Json → Nat
  | .list items => nestingItems items + 1
  | .document entries => nestingEntries entries + 1
  | _ => 0

/-- The deepest nesting among the items of a list. -/
def nestingItems : List Json → Nat
  | [] => 0
  | v :: items => max (nesting v) (nestingItems items)

/-- The deepest nesting among the values of a document. -/
def nestingEntries : List (String × Json) → Nat
  | [] => 0
  | (_, v) :: entries => max (nesting v) (nestingEntries entries)

end

mutual

/-- No document inside the value has a key twice. -/
def DistinctKeys : Json → Prop
  | .list items => DistinctKeysItems items
  | .document entries => (entries.map Prod.fst).Nodup ∧ DistinctKeysEntries entries
  | _ => True

/-- The items of a list have distinct keys throughout. -/
def DistinctKeysItems : List Json → Prop
  | [] => True
  | v :: items => DistinctKeys v ∧ DistinctKeysItems items

/-- The values of a document have distinct keys throughout. -/
def DistinctKeysEntries : List (String × Json) → Prop
  | [] => True
  | (_, v) :: entries => DistinctKeys v ∧ DistinctKeysEntries entries

end

mutual

/-- Equality that ignores the order of the entries of documents, at every depth; lists are compared
in order. -/
def alike : Json → Json → Bool
  | .null, .null => true
  | .boolean a, .boolean b => a == b
  | .number m, .number n => m.alike n
  | .string s, .string t => s == t
  | .list xs, .list ys => alikeItems xs ys
  | .document es, .document fs => es.length == fs.length && alikeEntries es fs
  | _, _ => false

/-- Lists are alike when their items are, one by one. -/
def alikeItems : List Json → List Json → Bool
  | [], [] => true
  | x :: xs, y :: ys => alike x y && alikeItems xs ys
  | _, _ => false

/-- Every entry of the first document has its like under the same key of the second. -/
def alikeEntries : List (String × Json) → List (String × Json) → Bool
  | [], _ => true
  | (k, v) :: es, fs =>
    (match fs.lookup k with
      | some w => alike v w
      | none => false) && alikeEntries es fs

end

end Json

/-- Puts a value under a key. A new key goes to the end; a key that is there keeps its place. -/
def Entries.put (entries : Entries) (key : String) (v : Json) : Entries :=
  if entries.any (·.1 == key) then entries.map fun e => if e.1 == key then (key, v) else e
  else entries ++ [(key, v)]

/-- A new key goes to the end. -/
theorem Entries.put_of_not_mem {entries : Entries} {key : String} (v : Json)
    (h : key ∉ entries.map Prod.fst) : entries.put key v = entries ++ [(key, v)] := by
  have : entries.any (·.1 == key) = false := by
    rw [List.any_eq_false]
    intro e he hk
    exact h (List.mem_map.2 ⟨e, he, eq_of_beq hk⟩)
  simp [put, this]

theorem Entries.lookup_cons_of_ne {key : String} {e : String × Json} (h : e.1 ≠ key)
    (entries : Entries) : (e :: entries).lookup key = entries.lookup key := by
  have : (key == e.1) = false := beq_eq_false_iff_ne.2 h.symm
  rw [List.lookup_cons, this]

/-- Under a key stands what was put there last. -/
theorem Entries.lookup_put (entries : Entries) (key : String) (v : Json) :
    (entries.put key v).lookup key = some v := by
  unfold put
  split
  · rename_i h
    induction entries with
    | nil => simp at h
    | cons e es ih =>
      by_cases hk : e.1 = key
      · simp [hk]
      · have hes : es.any (·.1 == key) = true := by
          rw [List.any_cons, beq_eq_false_iff_ne.2 hk, Bool.false_or] at h
          exact h
        rw [List.map_cons, if_neg (by simpa using hk), lookup_cons_of_ne hk]
        exact ih hes
  · rename_i h
    induction entries with
    | nil => simp
    | cons e es ih =>
      rw [List.any_cons, Bool.or_eq_true, not_or, beq_iff_eq] at h
      rw [List.cons_append, lookup_cons_of_ne h.1]
      exact ih h.2

end FindSelect
