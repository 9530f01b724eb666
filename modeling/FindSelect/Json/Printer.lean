import FindSelect.Json.Basic
import FindSelect.Decimal.Shortest

/-!
# Written values

The two texts of a value: the compact one, without any blank, and the indented one, with two blanks
for each level. Both keep the order of the entries.

* `Json.chars`, `Json.compact`: the compact text;
* `Json.indentedChars`, `Json.indented`: the indented text.
-/

namespace FindSelect

/-! ## Scalars -/

/-- The digit of a number below sixteen, in lower case. -/
def hexDigit (n : Nat) : Char := Nat.digitChar n

/-- A character inside a string: quotes, backslashes and controls are escaped, nothing else is. -/
def escapedChar (c : Char) : List Char :=
  match c with
  | '"' => ['\\', '"']
  | '\\' => ['\\', '\\']
  | '\n' => ['\\', 'n']
  | '\r' => ['\\', 'r']
  | '\t' => ['\\', 't']
  | '\x08' => ['\\', 'b']
  | '\x0c' => ['\\', 'f']
  | c =>
    if c.toNat < 0x20 then
      ['\\', 'u', '0', '0', hexDigit (c.toNat / 16), hexDigit (c.toNat % 16)]
    else [c]

/-- A string between its quotes. -/
def stringChars (s : String) : List Char :=
  '"' :: (s.toList.flatMap escapedChar ++ ['"'])

/-- A whole number in decimal. -/
def intChars (i : Int) : List Char :=
  if i < 0 then '-' :: Nat.toDigits 10 i.natAbs else Nat.toDigits 10 i.natAbs

/-- A number: an integer without a point, a floating-point number always with a point or an
exponent. -/
def Number.chars : Number → List Char
  | .integer i => intChars i.val
  | .real x => x.chars

/-- A boolean. -/
def boolChars (b : Bool) : List Char := if b then "true".toList else "false".toList

namespace Json

/-! ## The compact text -/

mutual

/-- The compact text of a value. -/
def chars : Json → List Char
  | .null => "null".toList
  | .boolean b => boolChars b
  | .number n => n.chars
  | .string s => stringChars s
  | .list items => '[' :: (itemsChars items ++ [']'])
  | .document entries => '{' :: (entriesChars entries ++ ['}'])

/-- The items of a list, with commas between them. -/
def itemsChars : List Json → List Char
  | [] => []
  | [v] => chars v
  | v :: w :: items => chars v ++ ',' :: itemsChars (w :: items)

/-- The entries of a document, with commas between them. -/
def entriesChars : List (String × Json) → List Char
  | [] => []
  | [(k, v)] => stringChars k ++ ':' :: chars v
  | (k, v) :: e :: entries =>
    stringChars k ++ ':' :: (chars v ++ ',' :: entriesChars (e :: entries))

end

/-- The compact text of a value. -/
def compact (v : Json) : String := String.ofList v.chars

/-! ## The indented text -/

/-- A new line that begins at a level. -/
def newLine (level : Nat) : List Char := '\n' :: List.replicate (2 * level) ' '

mutual

/-- The indented text of a value whose first line stands at a level. An empty list or document has
no line of its own. -/
def indentedChars (level : Nat) : Json → List Char
  | .list [] => ['[', ']']
  | .list (v :: items) => '[' :: (indentedItems (level + 1) (v :: items) ++ newLine level ++ [']'])
  | .document [] => ['{', '}']
  | .document (e :: entries) =>
    '{' :: (indentedEntries (level + 1) (e :: entries) ++ newLine level ++ ['}'])
  | .null => "null".toList
  | .boolean b => boolChars b
  | .number n => n.chars
  | .string s => stringChars s

/-- The items of a list, each on a line of its own. -/
def indentedItems (level : Nat) : List Json → List Char
  | [] => []
  | [v] => newLine level ++ indentedChars level v
  | v :: w :: items =>
    newLine level ++ indentedChars level v ++ ',' :: indentedItems level (w :: items)

/-- The entries of a document, each on a line of its own. -/
def indentedEntries (level : Nat) : List (String × Json) → List Char
  | [] => []
  | [(k, v)] => newLine level ++ stringChars k ++ ':' :: ' ' :: indentedChars level v
  | (k, v) :: e :: entries =>
    newLine level ++ stringChars k ++ ':' :: ' ' ::
      (indentedChars level v ++ ',' :: indentedEntries level (e :: entries))

end

/-- The indented text of a value. -/
def indented (v : Json) : String := String.ofList (v.indentedChars 0)

end Json

end FindSelect
