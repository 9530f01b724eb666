/-!
# Digits

* `hexValue?`: the value of a digit in base sixteen;
* `valueIn`: the value of a row of digits in a base up to sixteen;
* `unsignedWord?`: the unsigned word that a text spells.
-/

namespace FindSelect.Text

/-- The value of a digit in base sixteen. -/
def hexValue? (c : Char) : Option Nat :=
  if c.isDigit then some (c.toNat - '0'.toNat)
  else if 'a' ≤ c ∧ c ≤ 'f' then some (c.toNat - 'a'.toNat + 10)
  else if 'A' ≤ c ∧ c ≤ 'F' then some (c.toNat - 'A'.toNat + 10)
  else none

/-- The value of a row of digits in a base up to sixteen. -/
def valueIn (base : Nat) (ds : List Char) : Nat :=
  ds.foldl (fun n d => n * base + (hexValue? d).getD 0) 0

/-- The unsigned word that a text spells: digits, after a plus sign if there is one. -/
def unsignedWord? (text : String) : Option UInt64 :=
  let digits := match text.toList with
    | '+' :: cs => cs
    | cs => cs
  let n := Nat.ofDigitChars 10 digits 0
  if !digits.isEmpty && digits.all Char.isDigit && n < 0x10000000000000000 then
    some (UInt64.ofNat n)
  else none

end FindSelect.Text
