import FindSelect.Text.Printable

/-!
# Quoted text

The form in which a message shows a text that it was given: between double quotes, with every
character that could be misread escaped.
-/

namespace FindSelect.Text

/-- The digits of a number in base sixteen, in lower case. -/
def hexadecimal (n : Nat) : List Char := Nat.toDigits 16 n

/-- A character inside quotes: a short escape if it has one, itself if it is printable, and its
number in base sixteen otherwise. -/
def quotedChar (c : Char) : List Char :=
  match c with
  | '"' => ['\\', '"']
  | '\\' => ['\\', '\\']
  | '\n' => ['\\', 'n']
  | '\r' => ['\\', 'r']
  | '\t' => ['\\', 't']
  | '\x00' => ['\\', '0']
  | c => if isPrintable c then [c] else '\\' :: 'u' :: '{' :: (hexadecimal c.toNat ++ ['}'])

/-- A text between double quotes. -/
def quoted (s : String) : String :=
  String.ofList ('"' :: (s.toList.flatMap quotedChar ++ ['"']))

end FindSelect.Text
