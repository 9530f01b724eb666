import FindSelect.Decimal.Scaling
import FindSelect.Json.Fault
import FindSelect.Text.Bytes
import FindSelect.Text.Digits

/-!
# Reading values

A reader consumes characters from the left and gives a value and what is left, or the first fault.

* `Reader`, with the readers of blanks, words, strings and numbers;
* `Reader.items`, `Reader.entries`: the members of a list and of a document;
* `Reader.value`: any value, with at most a given number of levels of lists and documents;
* `Reader.skip`: any value that is not wanted, checked for its form only;
* `Json.parse`: a whole text as one value.
-/

namespace FindSelect

/-- Reads from the left of a text: a value and what is left of the text, or the first fault. -/
abbrev Reader (α : Type) := StateT (List Char) (Except Fault) α

namespace Reader

variable {α σ κ : Type}

/-! ## Characters -/

/-- The characters that may stand between the parts of a value. -/
def isBlank (c : Char) : Bool := c == ' ' || c == '\t' || c == '\n' || c == '\r'

/-- Skips blanks, and gives the character that follows without consuming it. -/
def next : Reader (Option Char) := fun cs =>
  let rest := cs.dropWhile isBlank
  .ok (rest.head?, rest)

/-- Consumes one character. -/
def advance : Reader Unit := fun cs => .ok ((), cs.tail)

/-- Reads the given characters. -/
def word : List Char → Reader Unit
  | [], cs => .ok ((), cs)
  | _ :: _, [] => .error .incomplete
  | w :: ws, c :: cs => if w = c then word ws cs else .error .malformed

/-- Fails with a mismatch. -/
def mismatch (m : Mismatch) : Reader α := throw (.mismatch m)

/-! ## Strings -/

/-- Four digits in base sixteen. The text ends too early when it has fewer than four bytes left. -/
def fourHex : Reader Nat
  | a :: b :: c :: d :: rest =>
    match Text.hexValue? a, Text.hexValue? b, Text.hexValue? c, Text.hexValue? d with
    | some a, some b, some c, some d => .ok (((a * 16 + b) * 16 + c) * 16 + d, rest)
    | _, _, _, _ => .error .malformed
  | cs => .error (if Text.byteCount cs < 4 then .incomplete else .malformed)

/-- Whether a number is the first half of a pair that stands for one character. -/
def isLeadingHalf (n : Nat) : Bool := 0xD800 ≤ n && n ≤ 0xDBFF

/-- Whether a number is the second half of a pair that stands for one character. -/
def isTrailingHalf (n : Nat) : Bool := 0xDC00 ≤ n && n ≤ 0xDFFF

/-- The character of an escape by number, after its `u`. A character beyond the first plane is
written as a pair of halves, and a half alone stands for nothing. -/
def escapedNumber : Reader Char := do
  let n ← fourHex
  if isTrailingHalf n then throw .malformed
  else if isLeadingHalf n then
    word ['\\', 'u']
    let m ← fourHex
    if isTrailingHalf m then
      return Char.ofNat ((n - 0xD800) * 0x400 + (m - 0xDC00) + 0x10000)
    else throw .malformed
  else return Char.ofNat n

/-- The character of a one-letter escape. -/
def escapeLetter? : Char → Option Char
  | '"' => some '"'
  | '\\' => some '\\'
  | '/' => some '/'
  | 'b' => some '\x08'
  | 'f' => some '\x0c'
  | 'n' => some '\n'
  | 'r' => some '\r'
  | 't' => some '\t'
  | _ => none

/-- The character of an escape, after its backslash. -/
def escape : Reader Char
  | [] => .error .incomplete
  | 'u' :: rest => escapedNumber rest
  | c :: rest =>
    match escapeLetter? c with
    | some d => .ok (d, rest)
    | none => .error .malformed

/-- An escape of a string that is not wanted: a number need not stand for a character. -/
def skipEscape : Reader Unit
  | [] => .error .incomplete
  | 'u' :: rest => (fun _ => ()) <$> fourHex <| rest
  | c :: rest => if (escapeLetter? c).isSome then .ok ((), rest) else .error .malformed

/-- The rest of a string, after its opening quote, with `escape` for its escapes and `keep` to
collect its characters. The first argument bounds the number of characters. -/
def stringRest (escape : Reader κ) (keep : Char → κ) : Nat → List κ → Reader (List κ)
  | 0, _, _ => .error .incomplete
  | _ + 1, _, [] => .error .incomplete
  | _ + 1, done, '"' :: rest => .ok (done.reverse, rest)
  | bound + 1, done, '\\' :: rest =>
    match escape rest with
    | .ok (k, rest) => stringRest escape keep bound (k :: done) rest
    | .error fault => .error fault
  | bound + 1, done, c :: rest =>
    if c.toNat < 0x20 then .error .malformed
    else stringRest escape keep bound (keep c :: done) rest

/-- The rest of a string, after its opening quote. -/
def stringTail : Reader String := fun cs =>
  (fun chars => String.ofList chars) <$> stringRest escape id (cs.length + 1) [] <| cs

/-- The rest of a string that is not wanted, after its opening quote. -/
def skipStringTail : Reader Unit := fun cs =>
  (fun _ => ()) <$> stringRest skipEscape (fun _ => ()) (cs.length + 1) [] <| cs

/-! ## Numbers -/

/-- The parts of a written number: its sign, the digits before the point, those after it, and the
sign and digits of the exponent. -/
structure Numeral where
  negative : Bool
  whole : List Char
  fraction : Option (List Char)
  exponent : Option (Bool × List Char)
  deriving DecidableEq, Repr

/-- One digit or more. The argument is the fault of a text that ends before the first. -/
def digits (atEnd : Fault) : Reader (List Char)
  | [] => .error atEnd
  | c :: cs =>
    if c.isDigit then .ok ((c :: cs).takeWhile Char.isDigit, (c :: cs).dropWhile Char.isDigit)
    else .error .malformed

/-- The digits before the point: no other digit follows a zero that stands first. -/
def wholeDigits (atEnd : Fault) : Reader (List Char)
  | ['0'] => .ok (['0'], [])
  | '0' :: d :: cs => if d.isDigit then .error .malformed else .ok (['0'], d :: cs)
  | cs => digits atEnd cs

/-- The point and the digits after it, if there is a point. -/
def fractionPart (atEnd : Fault) : Reader (Option (List Char))
  | '.' :: cs => some <$> digits atEnd <| cs
  | cs => .ok (none, cs)

/-- The sign of an exponent, if it has one. -/
def exponentSign : Reader Bool
  | '-' :: cs => .ok (true, cs)
  | '+' :: cs => .ok (false, cs)
  | cs => .ok (false, cs)

/-- The exponent, if there is one. -/
def exponentPart (atEnd : Fault) : Reader (Option (Bool × List Char)) := fun cs =>
  match cs with
  | c :: rest =>
    if c = 'e' ∨ c = 'E' then
      (do
        let negative ← exponentSign
        return some (negative, ← digits atEnd) : Reader _) rest
    else .ok (none, cs)
  | [] => .ok (none, cs)

/-- The minus sign, if there is one. -/
def minus : Reader Bool
  | '-' :: cs => .ok (true, cs)
  | cs => .ok (false, cs)

/-- A number. -/
def numeral (atEnd : Fault) : Reader Numeral := do
  let negative ← minus
  let whole ← wholeDigits atEnd
  let fraction ← fractionPart atEnd
  let exponent ← exponentPart atEnd
  return ⟨negative, whole, fraction, exponent⟩

/-- The greatest significand that is kept of a written number. -/
def maxSignificand : Nat := 0xFFFFFFFFFFFFFFFF

/-- Takes digits into a significand for as long as it stays within bounds: the significand, and the
digits that are left over. -/
def takeDigits : (significand : Nat) → List Char → Nat × List Char
  | n, [] => (n, [])
  | n, c :: cs =>
    let taken := 10 * n + (c.toNat - '0'.toNat)
    if taken ≤ maxSignificand then takeDigits taken cs else (n, c :: cs)

/-- The greatest number that is told from an infinite one in an exponent. -/
def maxExponent : Nat := 0x7FFFFFFF

/-- A significand, scaled by a power of ten and by the written exponent, if there is one; none when
the result is too large. -/
def scaled? (negative : Bool) (significand : Nat) (power : Int)
    (exponent : Option (Bool × List Char)) :
    Option Binary64 := do
  let x ← Binary64.ofRatio negative significand 1
  match exponent with
  | none => x.scale? power
  | some (downwards, ds) =>
    let n := Nat.ofDigitChars 10 ds 0
    if n ≤ maxExponent then x.scale? (if downwards then power - n else power + n)
    else if downwards || x.isZero then some (.zero negative)
    else none

/-- The value of a written number: an integer when it has neither point nor exponent and fits a
word, and a floating-point number otherwise; none when that is too large. The integer zero has no
sign. The floating-point number is as near as one significand and one power of ten come to it: of
the digits before the point those that the significand cannot take count as powers of ten, and of
the digits after it they do not count. -/
def Numeral.value? (n : Numeral) : Option Number :=
  let (whole, beyond) := takeDigits 0 n.whole
  match n.fraction, n.exponent, beyond with
  | none, none, [] =>
    let signed : Int := if n.negative then -whole else whole
    match n.negative && whole == 0, WideInt.ofInt? signed with
    | false, some i => some (.integer i)
    | _, _ => (Binary64.ofRatio n.negative whole 1).map .real
  | fraction, exponent, beyond =>
    let after := fraction.getD []
    let (significand, ignored) := takeDigits whole after
    let power : Int := beyond.length - (after.length - ignored.length : Nat)
    (scaled? n.negative significand power exponent).map .real

/-- A number. One that is too large cannot be read. -/
def number : Reader Number := do
  match (← numeral .incomplete).value? with
  | some n => return n
  | none => throw .malformed

/-- Whether a character begins a number. -/
def startsNumber (c : Char) : Bool := c == '-' || c.isDigit

/-! ## Lists and documents -/

/-- Whether a list has another item, and the comma before it: `first` tells that none has been read
yet. The closing bracket is not consumed. -/
def another (first : Bool) : Reader Bool := do
  match ← next with
  | none => throw .incomplete
  | some ']' => return false
  | some c =>
    if first then return true
    else if c = ',' then
      advance
      match ← next with
      | none => throw .incomplete
      | some ']' => throw .malformed
      | some _ => return true
    else throw .malformed

/-- The closing bracket of a list. -/
def closeList : Reader Unit := do
  match ← next with
  | none => throw .incomplete
  | some ']' => advance
  | some _ => throw .malformed

/-- The items of a list, at most `bound` of them. -/
def itemsWithin (item : Reader α) : (bound : Nat) → (first : Bool) → Reader (List α)
  | 0, _ => throw .incomplete
  | bound + 1, first => do
    if ← another first then
      let v ← item
      return v :: (← itemsWithin item bound false)
    else return []

/-- The items of a list, after its opening bracket and up to its closing one. Each takes at least
one character, so their number is within the length of the text. -/
def items (item : Reader α) : Reader (List α) := fun cs => itemsWithin item (cs.length + 1) true cs

/-- The opening quote of the next key of a document and the comma before it, or that there is none.
The closing brace is not consumed. -/
def anotherKey (first : Bool) : Reader Bool := do
  match ← next with
  | none => throw .incomplete
  | some '}' => return false
  | some c =>
    if first then
      if c = '"' then advance; return true else throw .malformed
    else if c = ',' then
      advance
      match ← next with
      | none => throw .incomplete
      | some '"' => advance; return true
      | some _ => throw .malformed
    else throw .malformed

/-- The colon between a key and its value. -/
def colon : Reader Unit := do
  match ← next with
  | none => throw .incomplete
  | some ':' => advance
  | some _ => throw .malformed

/-- The closing brace of a document. -/
def closeDocument : Reader Unit := do
  match ← next with
  | none => throw .incomplete
  | some '}' => advance
  | some _ => throw .malformed

/-- The entries of a document, at most `bound` of them: each key is handed to `entry`, which reads
the colon and the value. -/
def entriesWithin (key : Reader κ) (entry : κ → σ → Reader σ) :
    (bound : Nat) → (first : Bool) → σ → Reader σ
  | 0, _, _ => throw .incomplete
  | bound + 1, first, s => do
    if ← anotherKey first then
      let k ← key
      let s ← entry k s
      entriesWithin key entry bound false s
    else return s

/-- The entries of a document, after its opening brace and up to its closing one. -/
def entries (key : Reader κ) (entry : κ → σ → Reader σ) (s : σ) : Reader σ := fun cs =>
  entriesWithin key entry (cs.length + 1) true s cs

/-! ## Values -/

/-- The nesting that a text may have. -/
def maxNesting : Nat := 127

/-- A value, with `list` and `document` for the kinds that nest. -/
def valueWith (list document : Reader Json) : Reader Json := do
  match ← next with
  | none => throw .incomplete
  | some 'n' => word "null".toList; return .null
  | some 't' => word "true".toList; return .boolean true
  | some 'f' => word "false".toList; return .boolean false
  | some '"' => advance; return .string (← stringTail)
  | some '[' => list
  | some '{' => document
  | some c => if startsNumber c then return .number (← number) else throw .malformed

/-- A value with at most the given number of levels. A key that is repeated keeps its first place
and its last value. -/
def value : (levels : Nat) → Reader Json
  | 0 => valueWith (throw .malformed) (throw .malformed)
  | levels + 1 =>
    valueWith
      (do
        advance
        let vs ← items (value levels)
        closeList
        return .list vs)
      (do
        advance
        let es ← entries stringTail
          (fun k es => do colon; return Entries.put es k (← value levels)) []
        closeDocument
        return .document es)

/-- A value that is not wanted: its form is checked, but not its depth, the size of its numbers or
the pairing of its halves of characters. The argument bounds the depth. -/
def skipWithin : Nat → Reader Unit
  | 0 => throw .malformed
  | bound + 1 => do
    match ← next with
    | none => throw .incomplete
    | some 'n' => word "null".toList
    | some 't' => word "true".toList
    | some 'f' => word "false".toList
    | some '"' => advance; skipStringTail
    | some '[' =>
      advance
      let _ ← items (skipWithin bound)
      closeList
    | some '{' =>
      advance
      entries skipStringTail (fun _ _ => do colon; skipWithin bound) ()
      closeDocument
    | some c =>
      if startsNumber c then
        let _ ← numeral .malformed
        return ()
      else throw .malformed

/-- A value that is not wanted. Each level takes at least one character. -/
def skip : Reader Unit := fun cs => skipWithin (cs.length + 1) cs

/-! ## Whole texts -/

/-- Reads a whole text: nothing but blanks may follow. -/
def run (reader : Reader α) (text : String) : Except Fault α := do
  let (a, rest) ← reader text.toList
  if (rest.dropWhile isBlank).isEmpty then return a else throw .malformed

end Reader

/-- The value that a text is. -/
def Json.parse (text : String) : Except Fault Json :=
  (Reader.value Reader.maxNesting).run text

end FindSelect
