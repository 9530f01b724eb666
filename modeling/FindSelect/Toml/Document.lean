import FindSelect.Toml.Scalar

/-!
# Documents of settings

A document is a row of lines: settings, headers of tables, headers of elements of lists of tables,
comments and empty lines.

* `Scanner.value`: a value, with at most a given number of levels of brackets and braces;
* `parse`: a whole text as one table.
-/

namespace FindSelect.Toml

namespace Scanner

/-! ## Comments and keys -/

/-- A comment, up to the end of its line. -/
def comment : Scanner Unit := do
  char '#'
  let _ ← many isPlain

/-- The end of a line, or of the text. -/
def lineEnd : Scanner Unit
  | [] => some ((), [])
  | cs => newline cs

/-- What may follow a setting or a header on its line. -/
def lineRest : Scanner Unit := do
  blanks
  let _ ← optional comment
  lineEnd

/-- The blanks, line ends and comments between the items of an array. The argument bounds their
number. -/
def gapWithin : Nat → Scanner Unit
  | 0 => failure
  | bound + 1 => do
    blanks
    match ← look with
    | some '#' => comment; newline; gapWithin bound
    | some '\n' => newline; gapWithin bound
    | some '\r' => newline; gapWithin bound
    | _ => return ()

/-- The blanks, line ends and comments between the items of an array. -/
def gap : Scanner Unit := fun cs => gapWithin (cs.length + 1) cs

/-- A character of a key without quotes. -/
def isKeyChar (c : Char) : Bool := c.isAlphanum || c == '_' || c == '-'

/-- A key without dots. -/
def simpleKey : Scanner String := do
  match ← look with
  | some '"' => basicString
  | some '\'' => literalString
  | _ =>
    let c ← oneOf isKeyChar
    return String.ofList (c :: (← many isKeyChar))

/-- The keys of a dotted key after the first. The argument bounds their number. -/
def moreKeys : Nat → Scanner (List String)
  | 0 => failure
  | bound + 1 => do
    blanks
    match ← look with
    | some '.' =>
      char '.'
      blanks
      let k ← simpleKey
      return k :: (← moreKeys bound)
    | _ => return []

/-- The number of keys that a dotted key stays below. -/
def maxKeys : Nat := 80

/-- A dotted key: the keys on its way and the last one. Blanks may surround each. -/
def dottedKey : Scanner (List String × String) := do
  blanks
  let first ← simpleKey
  let rest ← fun cs => moreKeys (cs.length + 1) cs
  let keys := first :: rest
  if keys.length < maxKeys then return (keys.dropLast, keys.getLastD first) else failure

/-! ## Values -/

/-- The items of an array, at most `bound` of them, up to its closing bracket. A comma may follow
the last. -/
def arrayItems (item : Scanner Node) : Nat → Scanner (List Node)
  | 0 => failure
  | bound + 1 => do
    gap
    match ← look with
    | some ']' => return []
    | _ =>
      let n ← item
      gap
      match ← look with
      | some ',' =>
        char ','
        return n :: (← arrayItems item bound)
      | _ => return [n]

/-- The settings of a table in braces, at most `bound` of them, each after the comma that must stand
before it; all stand on one line. -/
def inlineEntries (item : Scanner Node) : Nat → Table → Scanner Table
  | 0, _ => failure
  | bound + 1, t => do
    let (path, key) ← dottedKey
    char '='
    blanks
    let n ← item
    blanks
    let t ← (Table.putDotted key n path t : Option Table)
    match ← look with
    | some ',' =>
      char ','
      inlineEntries item bound t
    | _ => return t

/-- An array, with `item` for its items. -/
def arrayOf (item : Scanner Node) : Scanner Node := do
  char '['
  let items ← fun cs => arrayItems item (cs.length + 1) cs
  char ']'
  return .array items

/-- A table in braces, with `item` for its values. -/
def tableOf (item : Scanner Node) : Scanner Node := do
  char '{'
  blanks
  match ← look with
  | some '}' => char '}'; return .table .inline []
  | _ =>
    let t ← fun cs => inlineEntries item (cs.length + 1) [] cs
    char '}'
    return .table .inline t

/-- A value, with `array` and `table` for the kinds that nest. -/
def valueWith (array table : Scanner Node) : Scanner Node := do
  match ← look with
  | some '[' => array
  | some '{' => table
  | _ =>
    (do return .string (← string)) <|> (do return .boolean (← boolean)) <|>
      (do quantity; return .quantity)

/-- A value with at most the given number of levels. -/
def value : (levels : Nat) → Scanner Node
  | 0 => valueWith failure failure
  | levels + 1 => valueWith (arrayOf (value levels)) (tableOf (value levels))

/-- The number of levels that a value may have. -/
def maxLevels : Nat := 79

/-! ## Lines -/

/-- A line, which takes the document that the lines before it make a step further. -/
def line (d : Draft) : Scanner Draft := do
  match ← look with
  | some '#' => comment; lineEnd; return d
  | some '[' =>
    char '['
    match ← look with
    | some '[' =>
      char '['
      let (path, key) ← dottedKey
      word [']', ']']
      lineRest
      (d.openElement path key : Option Draft)
    | _ =>
      let (path, key) ← dottedKey
      char ']'
      lineRest
      (d.openTable path key : Option Draft)
  | some '\n' => newline; return d
  | some '\r' => newline; return d
  | _ =>
    let (path, key) ← dottedKey
    char '='
    blanks
    let n ← value maxLevels
    lineRest
    (d.put path key n : Option Draft)

/-- The lines of a document, at most `bound` of them. -/
def lines : Nat → Draft → Scanner Draft
  | 0, _ => failure
  | bound + 1, d => do
    blanks
    match ← look with
    | none => return d
    | some _ => lines bound (← line d)

end Scanner

/-- The table that a text describes. A byte order mark at its start does not count. -/
def parse (text : String) : Option Table :=
  let cs := match text.toList with
    | '\uFEFF' :: cs => cs
    | cs => cs
  match Scanner.lines (cs.length + 1) {} cs with
  | some (d, _) => d.close
  | none => none

end FindSelect.Toml
