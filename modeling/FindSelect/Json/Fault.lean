import FindSelect.Json.Printer
import FindSelect.Text.Quoted

/-!
# What a reader can find wrong

A text is read from left to right and the first problem met is the one reported.

* `Mismatch`: well-formed so far, but not of the shape that was asked for, with its wording;
* `Fault`: the text ended too early, was malformed at some character, or was a mismatch.
-/

namespace FindSelect

/-- The kind of value that stood in the text. -/
inductive Found
  | integer (i : Int)
  | real (x : Binary64)
  | boolean (b : Bool)
  | string (s : String)
  | null
  | list
  | document
  | bareVariant
  deriving DecidableEq, Repr

/-- The kind of value that was asked for. -/
inductive Expected
  | string
  | boolean
  | unsigned
  | signed
  | list
  | null
  | variantWithPayload
  | record (name : String)
  deriving DecidableEq, Repr

/-- A shape other than the one that was asked for. -/
inductive Mismatch
  /-- A value of another kind. -/
  | wrongKind (found : Found) (expected : Expected)
  /-- An integer outside the range of the word that was asked for. -/
  | outOfRange (value : Int) (expected : Expected)
  /-- A field of a record given twice. -/
  | repeatedField (name : String)
  /-- A field of a record not given. -/
  | missingField (name : String)
  /-- A name that is none of the choices. -/
  | unknownVariant (name : String) (choices : List String)
  /-- A record as a list, with only `present` of its `fields` fields. -/
  | tooFew (present : Nat) (record : String) (fields : Nat)
  /-- A record as a list, with more items than fields. -/
  | tooMany (present : Nat)
  /-- A whole value refused for the stated reason. -/
  | refused (reason : String)
  deriving DecidableEq, Repr

/-- Why a text could not be read. -/
inductive Fault
  /-- The text ended before the value was complete. -/
  | incomplete
  /-- Some character cannot stand where it does, or something follows the value. -/
  | malformed
  /-- The shape is not the one asked for. -/
  | mismatch (m : Mismatch)
  deriving DecidableEq, Repr

/-! ## Wording -/

/-- A text between backticks. -/
def ticked (s : String) : String := "`" ++ s ++ "`"

/-- How a message names what stood in the text. -/
def Found.words : Found → String
  | .integer i => "integer " ++ ticked (String.ofList (intChars i))
  | .real x => "floating point " ++ ticked (String.ofList x.chars)
  | .boolean b => "boolean " ++ ticked (String.ofList (boolChars b))
  | .string s => "string " ++ Text.quoted s
  | .null => "null"
  | .list => "sequence"
  | .document => "map"
  | .bareVariant => "unit variant"

/-- How a message names what was asked for. -/
def Expected.words : Expected → String
  | .string => "a string"
  | .boolean => "a boolean"
  | .unsigned => "u64"
  | .signed => "i64"
  | .list => "a sequence"
  | .null => "unit"
  | .variantWithPayload => "newtype variant"
  | .record name => "struct " ++ name

/-- How a message lists the names that would have been right: two are joined by a word, more by
commas. -/
def choiceWords : List String → String
  | [] => "there are no variants"
  | [a] => "expected " ++ ticked a
  | [a, b] => "expected " ++ ticked a ++ " or " ++ ticked b
  | choices => "expected one of " ++ ", ".intercalate (choices.map ticked)

/-- The wording of a mismatch. -/
def Mismatch.message : Mismatch → String
  | .wrongKind found expected => "invalid type: " ++ found.words ++ ", expected " ++ expected.words
  | .outOfRange value expected =>
    "invalid value: " ++ (Found.integer value).words ++ ", expected " ++ expected.words
  | .repeatedField name => "duplicate field " ++ ticked name
  | .missingField name => "missing field " ++ ticked name
  | .unknownVariant name choices =>
    "unknown variant " ++ ticked name ++ ", " ++ choiceWords choices
  | .tooFew present record fields =>
    "invalid length " ++ toString present ++ ", expected struct " ++ record ++ " with " ++
      toString fields ++ (if fields = 1 then " element" else " elements")
  | .tooMany present =>
    "invalid length " ++ toString present ++ ", expected fewer elements in array"
  | .refused reason => reason

/-- The wording of a fault. The position and the cause of a text that is no value at all are left
unworded. -/
def Fault.message? : Fault → Option String
  | .mismatch m => some m.message
  | _ => none

/-- What kind of value this is. -/
def Json.found : Json → Found
  | .null => .null
  | .boolean b => .boolean b
  | .number (.integer i) => .integer i.val
  | .number (.real x) => .real x
  | .string s => .string s
  | .list _ => .list
  | .document _ => .document

end FindSelect
