import FindSelect.CommandLine.Log
import FindSelect.Text.Alphanumeric
import FindSelect.Text.Bytes
import FindSelect.Text.Digits

/-!
# Which notes are shown

A filter is a row of directives between commas. A directive has a level, which shows the events up
to that level; it may be limited to the sources that begin with a text, to events with a field, and
to what happens inside a span:

```text
level
source
source=level
source[span]=level
source[{field}]=level
source[span{field=pattern}]=level
```

No event happens inside a span, and the only field of an event is its message, so that a directive
for a span or for the value of a field shows nothing and hides nothing.

* `Directive`, `Directive.parse?`: the form of a directive;
* `LogRule`: what a directive says about events;
* `LogFilter.shows`: whether an event is shown; of the rules about it the most specific decides.
-/

namespace FindSelect

/-! ## Directives -/

/-- The rank up to which a word shows levels: the name of a level in any case, its number, or the
word for none. -/
def Level.rankOf? (word : String) : Option Nat :=
  match Text.unsignedWord? word with
  | some n => if n ≤ 5 then some n.toNat else none
  | none =>
    match word.toLower with
    | "off" => some 0
    | "error" => some 1
    | "warn" => some 2
    | "info" => some 3
    | "debug" => some 4
    | "trace" => some 5
    | _ => none

/-- What a directive asks of a field: to be there, or to have a value of a pattern. -/
inductive FieldCondition
  | present (name : String)
  | matching (name pattern : String)
  deriving DecidableEq, Repr

/-- A directive: the levels up to a rank, where its conditions hold. -/
structure Directive where
  source : Option String := none
  span : Option String := none
  field : Option FieldCondition := none
  rank : Nat
  deriving DecidableEq, Repr

namespace Directive

/-- The rank of all levels. -/
def everything : Nat := 5

/-- Whether a character is blank around a directive. -/
def isBlank (c : Char) : Bool :=
  ('\t' ≤ c && c ≤ '\r') || c == ' ' || c == '\x85' || c == '\u00a0' || c == '\u1680' ||
    ('\u2000' ≤ c && c ≤ '\u200a') || c == '\u2028' || c == '\u2029' || c == '\u202f' ||
    c == '\u205f' || c == '\u3000'

/-- A text without the blanks around it. -/
def trimmed (cs : List Char) : List Char :=
  ((cs.dropWhile isBlank).reverse.dropWhile isBlank).reverse

/-- Whether a character can begin a source. -/
def beginsSource (c : Char) : Bool :=
  c == '-' || c == ':' || c == '_' || Text.isAlphanumeric c

/-! ### Patterns -/

/-- Whether the rest of a pattern is complete: `groups` are open, and `repeatable` tells whether
something stands before that can be repeated. -/
def isPatternRest : (groups : Nat) → (inSet repeatable : Bool) → List Char → Bool
  | groups, inSet, _, [] => groups == 0 && !inSet
  | _, _, _, ['\\'] => false
  | groups, inSet, _, '\\' :: _ :: cs => isPatternRest groups inSet true cs
  | groups, true, _, c :: cs => isPatternRest groups (c != ']') true cs
  | groups, false, _, '(' :: cs => isPatternRest (groups + 1) false false cs
  | groups, false, _, ')' :: cs => groups != 0 && isPatternRest (groups - 1) false true cs
  | groups, false, _, ['[', '^'] => isPatternRest groups true true []
  | groups, false, _, '[' :: '^' :: _ :: cs => isPatternRest groups true true cs
  | groups, false, _, ['['] => isPatternRest groups true true []
  | groups, false, _, '[' :: _ :: cs => isPatternRest groups true true cs
  | groups, false, _, '|' :: cs => isPatternRest groups false false cs
  | groups, false, repeatable, c :: cs =>
    if c = '{' then false
    else if c = '*' ∨ c = '+' ∨ c = '?' then repeatable && isPatternRest groups false true cs
    else isPatternRest groups false true cs

/-- Whether a text is a pattern: a number, or brackets in pairs and nothing repeated that is not
there. -/
def isPattern (s : String) : Bool :=
  (Text.unsignedWord? s).isSome || isPatternRest 0 false false s.toList

/-- The condition on a field that a text states: a name, or a name and a pattern. -/
def fieldOf? (text : String) : Option FieldCondition :=
  match text.splitOn "=" with
  | name :: pattern :: _ => if isPattern pattern then some (.matching name pattern) else none
  | _ => if text.isEmpty then none else some (.present text)

/-! ### Reading -/

/-- A part of a directive, by the characters of the trimmed word that are left before it and after
it. Its place is found in the trimmed word, and it is cut out of the whole word at that place. -/
def part? (word before after : List Char) : Option String :=
  let place (rest : List Char) : Nat := Text.byteCount (trimmed word) - Text.byteCount rest
  String.ofList <$> Text.cut? word (place before) (place after)

/-- The level of a directive, from its place to the end of the word: all levels if there is
nothing. -/
def levelAt? (word before : List Char) : Option Nat := do
  let place := Text.byteCount (trimmed word) - Text.byteCount before
  match ← Text.dropBytes? place word with
  | [] => return everything
  | cs => Level.rankOf? (String.ofList cs)

/-- The level after the closing bracket of a span. -/
def levelAfterSpan? (word : List Char) : List Char → Option Nat
  | [] => some everything
  | '=' :: rest => levelAt? word rest
  | _ => none

/-- The span and the field of a directive, after the opening bracket, and the level. -/
def spanAt? (word : List Char) (source : Option String) (before : List Char) :
    Option Directive := do
  let after := before.dropWhile fun c => c != ']' && c != '{'
  let span ← part? word before after
  match after with
  | ']' :: rest => return { source, span := some span, rank := ← levelAfterSpan? word rest }
  | '{' :: fields =>
    let closing := fields.dropWhile (· != '}')
    let field ← fieldOf? (← part? word fields closing)
    match closing with
    | '}' :: ']' :: rest =>
      return {
        source
        span := if span.isEmpty then none else some span
        field := some field
        rank := ← levelAfterSpan? word rest }
    | _ => none
  | _ => none

/-- The directive of a word. A word without brackets and equals signs is a level if it is the name
of one, and a source otherwise. -/
def parse? (word : String) : Option Directive :=
  let cs := word.toList
  match trimmed cs with
  | [] => none
  | '[' :: rest => spanAt? cs none rest
  | c :: rest =>
    if beginsSource c then
      match rest.dropWhile fun c => c != '=' && c != '[' with
      | [] =>
        match Level.rankOf? word with
        | some rank => some { rank }
        | none => some { source := some word, rank := everything }
      | '=' :: after => do
        return { source := ← part? cs (c :: rest) ('=' :: after), rank := ← levelAt? cs after }
      | after => do
        spanAt? cs (some (← part? cs (c :: rest) after)) after.tail
    else none

end Directive

/-! ## Rules -/

/-- What is shown of the sources that begin with a text and the events with a field: the levels up
to a rank. -/
structure LogRule where
  source : Option String := none
  field : Option String := none
  rank : Nat
  deriving DecidableEq, Repr

/-- What a directive says about events outside of spans, whose fields have no values. -/
def Directive.rule? (d : Directive) : Option LogRule :=
  match d.span, d.field with
  | some _, _ => none
  | none, some (.matching ..) => none
  | none, some (.present name) => some ⟨d.source, some name, d.rank⟩
  | none, none => some ⟨d.source, none, d.rank⟩

namespace LogRule

/-- Whether a rule is about an event: the one field of an event is its message. -/
def covers (r : LogRule) (e : Event) : Bool :=
  (r.source.all fun s => s.toList.isPrefixOf e.source.toList) && r.field.all (· == "message")

/-- Whether a rule is at least as specific as another: its text is longer, or as long and it asks
for no fewer fields. A text of any length is more specific than none. -/
def refines (r s : LogRule) : Bool :=
  let length (r : LogRule) : Nat := (r.source.map fun text => text.utf8ByteSize + 1).getD 0
  let fields (r : LogRule) : Nat := if r.field.isSome then 1 else 0
  length s < length r || (length s == length r && fields s ≤ fields r)

end LogRule

/-! ## Filters -/

/-- What is shown of each source. -/
abbrev LogFilter := List LogRule

namespace LogFilter

/-- The filter of a text, if all its directives can be read. -/
def parse? (text : String) : Option LogFilter := do
  let directives ← ((text.splitOn ",").filter (!·.isEmpty)).mapM Directive.parse?
  return directives.filterMap Directive.rule?

/-- The filter that applies when none is given. -/
def standard (verbose : Bool) : LogFilter :=
  if verbose then [⟨some "mongosql", none, 4⟩] else [⟨none, none, 2⟩]

/-- The filter of an optional text: the standard one when there is none, or when it is no filter. -/
def ofText (text : Option String) (verbose : Bool) : LogFilter :=
  (text.bind parse?).getD (standard verbose)

/-- The rank up to which levels are shown of an event: that of the most specific rule about it, of
equally specific ones the last, and none without any. -/
def rankFor (rules : LogFilter) (e : Event) : Nat :=
  let decisive := (rules.filter (·.covers e)).foldl
    (fun (best : Option LogRule) rule =>
      if best.all rule.refines then some rule else best)
    none
  (decisive.map LogRule.rank).getD 0

/-- Whether an event is shown. -/
def shows (rules : LogFilter) (e : Event) : Bool := e.level.rank ≤ rankFor rules e

end LogFilter

end FindSelect
