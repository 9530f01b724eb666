import FindSelect.Toml.Table
import FindSelect.Decimal.Binary64
import FindSelect.Text.Digits

/-!
# Scalars of settings

Scanners for the values of settings that contain no others: strings in their four forms, booleans,
integers, floating-point numbers, dates and times.

* `Scanner`: takes characters from the left, or fails;
* `string`, `quantity`, `boolean`: the scalars.
-/

namespace FindSelect.Toml

/-- Takes characters from the left of a text, or fails. -/
abbrev Scanner (α : Type) := StateT (List Char) Option α

namespace Scanner

variable {α : Type}

/-! ## Characters -/

/-- One character of a class. -/
def oneOf (p : Char → Bool) : Scanner Char
  | [] => none
  | c :: cs => if p c then some (c, cs) else none

/-- One given character. -/
def char (c : Char) : Scanner Unit := (fun _ => ()) <$> oneOf (· == c)

/-- The given characters. -/
def word : List Char → Scanner Unit
  | [], cs => some ((), cs)
  | w :: ws, cs => (do char w; word ws : Scanner Unit) cs

/-- As many characters of a class as there are. -/
def many (p : Char → Bool) : Scanner (List Char) := fun cs => some (cs.takeWhile p, cs.dropWhile p)

/-- The next character, without taking it. -/
def look : Scanner (Option Char) := fun cs => some (cs.head?, cs)

/-- What a scanner takes, or nothing where it fails. -/
def optional (scan : Scanner α) : Scanner (Option α) := fun cs =>
  match scan cs with
  | some (a, rest) => some (some a, rest)
  | none => some (none, cs)

/-- A space or a tab. -/
def isBlank (c : Char) : Bool := c == ' ' || c == '\t'

/-- Spaces and tabs. -/
def blanks : Scanner Unit := (fun _ => ()) <$> many isBlank

/-- The end of a line. -/
def newline : Scanner Unit
  | '\n' :: cs => some ((), cs)
  | '\r' :: '\n' :: cs => some ((), cs)
  | _ => none

/-- Characters that may stand in a comment or, quotes and backslashes apart, in a string. -/
def isPlain (c : Char) : Bool := c == '\t' || (' ' ≤ c && c ≤ '~') || 0x80 ≤ c.toNat

/-! ## Strings -/

/-- The number of exactly so many digits in base sixteen, after the one read so far. -/
def hexDigits : (count : Nat) → (soFar : Nat) → Scanner Nat
  | 0, n, cs => some (n, cs)
  | _ + 1, _, [] => none
  | count + 1, n, c :: cs =>
    match Text.hexValue? c with
    | some d => hexDigits count (n * 16 + d) cs
    | none => none

/-- The character of a number, if there is one. -/
def numbered (n : Nat) : Option Char := if n.isValidChar then some (Char.ofNat n) else none

/-- An escape, after its backslash. -/
def escape : Scanner Char
  | 'b' :: cs => some ('\x08', cs)
  | 'f' :: cs => some ('\x0c', cs)
  | 'n' :: cs => some ('\n', cs)
  | 'r' :: cs => some ('\r', cs)
  | 't' :: cs => some ('\t', cs)
  | '"' :: cs => some ('"', cs)
  | '\\' :: cs => some ('\\', cs)
  | 'u' :: cs => (do numbered (← hexDigits 4 0) : Scanner Char) cs
  | 'U' :: cs => (do numbered (← hexDigits 8 0) : Scanner Char) cs
  | _ => none

/-- The rest of a string of one line, after its opening quote. The first argument bounds the number
of characters. -/
def basicRest : Nat → List Char → Scanner String
  | 0, _, _ => none
  | _ + 1, _, [] => none
  | bound + 1, done, c :: cs =>
    if c = '"' then some (String.ofList done.reverse, cs)
    else if c = '\\' then
      match escape cs with
      | some (d, rest) => basicRest bound (d :: done) rest
      | none => none
    else if isPlain c then basicRest bound (c :: done) cs
    else none

/-- A string of one line, with escapes. -/
def basicString : Scanner String := do
  char '"'
  fun cs => basicRest (cs.length + 1) [] cs

/-- A string of one line that stands for itself. -/
def literalString : Scanner String := do
  char '\''
  let s ← many fun c => isPlain c && c != '\''
  char '\''
  return String.ofList s

/-- The blanks and line ends after a backslash at the end of a line. -/
def foldedLines : Scanner Unit
  | [] => some ((), [])
  | '\r' :: '\n' :: cs => foldedLines cs
  | c :: cs => if isBlank c || c == '\n' then foldedLines cs else some ((), c :: cs)

/-- The backslash at the end of a line, and the blanks and line ends after it. -/
def lineFold : Scanner Unit := do
  char '\\'
  blanks
  newline
  foldedLines

/-- The rest of a string of several lines, after its opening quotes. One or two quotes in a row
stand for themselves, also just before the closing ones. The first argument bounds the number of
steps. -/
def longRest (quote : Char) (escapes : Bool) : Nat → List Char → Scanner String
  | 0, _, _ => none
  | _ + 1, _, [] => none
  | bound + 1, done, c :: cs =>
    if c = quote then
      let run := (c :: cs).takeWhile (· == quote)
      let rest := (c :: cs).dropWhile (· == quote)
      if run.length < 3 then longRest quote escapes bound (run ++ done) rest
      else
        let extra := min (run.length - 3) 2
        some (String.ofList ((List.replicate extra quote ++ done).reverse),
          (c :: cs).drop (extra + 3))
    else if escapes ∧ c = '\\' then
      match lineFold (c :: cs) with
      | some (_, rest) => longRest quote escapes bound done rest
      | none =>
        match escape cs with
        | some (d, rest) => longRest quote escapes bound (d :: done) rest
        | none => none
    else
      match newline (c :: cs) with
      | some (_, rest) => longRest quote escapes bound ('\n' :: done) rest
      | none => if isPlain c then longRest quote escapes bound (c :: done) cs else none

/-- A string of several lines between three quotes; a line end just after them does not count. -/
def longString (quote : Char) (escapes : Bool) : Scanner String := do
  word [quote, quote, quote]
  let _ ← optional newline
  fun cs => longRest quote escapes (cs.length + 1) [] cs

/-- A string, in any of its forms. -/
def string : Scanner String :=
  longString '"' true <|> basicString <|> longString '\'' false <|> literalString

/-! ## Booleans -/

/-- A boolean. -/
def boolean : Scanner Bool :=
  (do word "true".toList; return true) <|> (do word "false".toList; return false)

/-! ## Numbers -/

/-- The digits after the first; one underscore may stand before each. -/
def moreDigits (p : Char → Bool) : List Char → List Char × List Char
  | '_' :: c :: cs =>
    if p c then
      let (ds, rest) := moreDigits p cs
      (c :: ds, rest)
    else ([], '_' :: c :: cs)
  | c :: cs =>
    if p c then
      let (ds, rest) := moreDigits p cs
      (c :: ds, rest)
    else ([], c :: cs)
  | [] => ([], [])

/-- One digit or more. -/
def digits (p : Char → Bool) : Scanner (List Char) := do
  let d ← oneOf p
  fun cs =>
    let (ds, rest) := moreDigits p cs
    some (d :: ds, rest)

/-- Whether there is a minus sign; a plus sign says nothing. -/
def sign : Scanner Bool
  | '-' :: cs => some (true, cs)
  | '+' :: cs => some (false, cs)
  | cs => some (false, cs)

/-- The digits before the point: a zero that stands first stands alone. -/
def wholeDigits : Scanner (List Char) := do
  match ← look with
  | some '0' => char '0'; return ['0']
  | _ => digits Char.isDigit

/-- An integer in decimal, which must fit a signed word. -/
def decimalInteger : Scanner Unit := do
  let negative ← sign
  let magnitude := Text.valueIn 10 (← wholeDigits)
  if magnitude < 0x8000000000000000 ∨ negative ∧ magnitude = 0x8000000000000000 then return ()
  else failure

/-- An integer in another base, after the zero and the letter of the base. -/
def integerIn (letter : Char) (base : Nat) : Scanner Unit := do
  word ['0', letter]
  let ds ← digits fun c => (Text.hexValue? c).any (· < base)
  if Text.valueIn base ds < 0x8000000000000000 then return () else failure

/-- The exponent of a floating-point number. -/
def exponent : Scanner Int := do
  let _ ← oneOf fun c => c == 'e' || c == 'E'
  let negative ← sign
  let n := Text.valueIn 10 (← digits Char.isDigit)
  return if negative then -(n : Int) else n

/-- A floating-point number with a point or an exponent. One that is too large fails, unless it is
negative. -/
def realNumber : Scanner Unit := do
  let negative ← sign
  let whole ← wholeDigits
  let fraction ← optional (do char '.'; digits Char.isDigit)
  let power ← optional exponent
  if fraction.isNone ∧ power.isNone then failure
  let after := fraction.getD []
  let magnitude := Text.valueIn 10 (whole ++ after)
  match Binary64.ofDecimal negative magnitude (power.getD 0 - after.length) with
  | some _ => return ()
  | none => if negative then return () else failure

/-- What is no number or beyond all numbers. -/
def specialNumber : Scanner Unit := do
  let _ ← sign
  word "inf".toList <|> word "nan".toList

/-! ## Dates and times -/

/-- The number of exactly so many decimal digits, after the one read so far. -/
def fixedDigits : (count : Nat) → (soFar : Nat) → Scanner Nat
  | 0, n, cs => some (n, cs)
  | _ + 1, _, [] => none
  | count + 1, n, c :: cs =>
    if c.isDigit then fixedDigits count (n * 10 + (c.toNat - '0'.toNat)) cs else none

/-- A number of exactly so many decimal digits between two bounds. -/
def numberBetween (count low high : Nat) : Scanner Nat := do
  let n ← fixedDigits count 0
  if low ≤ n ∧ n ≤ high then return n else failure

/-- The number of days of a month. -/
def daysOfMonth (year month : Nat) : Nat :=
  if month = 2 then
    if year % 4 = 0 ∧ (year % 100 ≠ 0 ∨ year % 400 = 0) then 29 else 28
  else if month = 4 ∨ month = 6 ∨ month = 9 ∨ month = 11 then 30
  else 31

/-- A date. -/
def date : Scanner Unit := do
  let year ← fixedDigits 4 0
  char '-'
  let month ← numberBetween 2 1 12
  char '-'
  let _ ← numberBetween 2 1 (daysOfMonth year month)

/-- Hours and minutes. -/
def clock : Scanner Unit := do
  let _ ← numberBetween 2 0 23
  char ':'
  let _ ← numberBetween 2 0 59

/-- A time of day; a minute may have a leap second. -/
def time : Scanner Unit := do
  clock
  char ':'
  let _ ← numberBetween 2 0 60
  let _ ← optional (do
    char '.'
    let _ ← oneOf Char.isDigit
    many Char.isDigit)

/-- The offset of a time from universal time. -/
def offset : Scanner Unit :=
  (do let _ ← oneOf fun c => c == 'Z' || c == 'z') <|>
    (do
      let _ ← oneOf fun c => c == '+' || c == '-'
      clock)

/-- A date, a time, or a date with a time. -/
def moment : Scanner Unit :=
  (do
    date
    let _ ← optional (do
      let _ ← oneOf fun c => c == 'T' || c == 't' || c == ' '
      time
      optional offset)) <|> time

/-- A number, a date or a time. -/
def quantity : Scanner Unit :=
  moment <|> realNumber <|> specialNumber <|> integerIn 'x' 16 <|> integerIn 'o' 8 <|>
    integerIn 'b' 2 <|> decimalInteger

end Scanner

end FindSelect.Toml
