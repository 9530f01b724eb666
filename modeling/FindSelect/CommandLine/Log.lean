import FindSelect.CommandLine.Style
import FindSelect.Query
import FindSelect.Statement.Sql
import FindSelect.Text.Quoted

/-!
# Notes on the way

What happens on the way from arguments to a statement is noted as events.

* `Event`, with its level, its source and its wording;
* `Event.line`: its line, in which nothing steers a terminal;
* `FindCall.events`: the events of a call, in order.
-/

namespace FindSelect

/-- How much attention an event deserves; less further down. -/
inductive Level
  | error
  | warn
  | info
  | debug
  | trace
  deriving DecidableEq, Repr

/-- The place of a level among the others. -/
def Level.rank : Level → Nat
  | .error => 1
  | .warn => 2
  | .info => 3
  | .debug => 4
  | .trace => 5

/-- The name of a level. -/
def Level.name : Level → String
  | .error => "ERROR"
  | .warn => "WARN"
  | .info => "INFO"
  | .debug => "DEBUG"
  | .trace => "TRACE"

/-- The style of the name of a level. -/
def Level.style : Level → Style
  | .error => [.red]
  | .warn => [.yellow]
  | .info => [.green]
  | .debug => [.blue]
  | .trace => [.purple]

/-! ## Events -/

/-- What happens on the way. -/
inductive Event
  | configLoaded (path : String)
  | schemaLoaded (tables : Nat) (path : String)
  | projectionResolved (fields columns : Nat)
  | predicateMet (p : Predicate)
  | filterFlattened (predicates : Nat)
  deriving Repr

namespace Event

/-- The attention that an event deserves. -/
def level : Event → Level
  | .schemaLoaded .. => .info
  | .predicateMet _ => .trace
  | _ => .debug

/-- The part of the program that an event comes from. -/
def source : Event → String
  | .configLoaded _ => "mongosql::config"
  | .schemaLoaded .. => "mongosql::schema"
  | .projectionResolved .. => "mongosql::translator::projection"
  | .predicateMet _ => "mongosql::translator::filter"
  | .filterFlattened _ => "mongosql::translator"

/-- The wording of an event. -/
def message : Event → String
  | .configLoaded path => "Loaded config from " ++ path
  | .schemaLoaded n path => "Loaded " ++ toString n ++ " table schemas from " ++ path
  | .projectionResolved fields columns =>
    "projection resolved to " ++ toString fields ++ " of " ++ toString columns ++ " columns"
  | .predicateMet p =>
    "predicate " ++ p.column.name ++ " " ++ p.op.symbol ++ " " ++ p.value.compact
  | .filterFlattened n => "filter flattened to " ++ toString n ++ " predicates"

/-- A character as a line shows it: those that begin a command to a terminal are shown by
number. -/
def shownChar (c : Char) : List Char :=
  match c with
  | '\x07' => "\\x07".toList
  | '\x08' => "\\x08".toList
  | '\x0c' => "\\x0c".toList
  | '\x1b' => "\\x1b".toList
  | '\x7f' => "\\x7f".toList
  | c =>
    if 0x80 ≤ c.toNat ∧ c.toNat ≤ 0x9f then
      "\\u".toList ++ '{' :: (Text.hexadecimal c.toNat ++ ['}'])
    else [c]

/-- The name of a level, with blanks before it up to the width of the longest. -/
def columnOfLevel (l : Level) : String :=
  String.ofList (List.replicate (5 - l.name.length) ' ') ++ l.name

/-- The line of an event. In colours it begins with the place of a time, which is empty, and all
levels are of one width. -/
def line (coloured : Bool) (e : Event) : String :=
  let lead :=
    if coloured then
      Style.label.paint true "" ++ " " ++ e.level.style.paint true (columnOfLevel e.level) ++
        " " ++ Style.label.paint true e.source ++ Style.label.paint true ":"
    else e.level.name ++ " " ++ e.source ++ ":"
  lead ++ " " ++ String.ofList (e.message.toList.flatMap shownChar) ++ "\n"

end Event

/-- The events of a call: of its projection first, and of its filter if the
projection can be resolved. A filter that breaks off leaves the predicates met before. -/
def FindCall.events (call : FindCall) (columns : List Column) : List Event :=
  match projectedColumns call.projection columns with
  | .error _ => []
  | .ok fields =>
    let emission := flatten columns .conjunction (effectiveFilter call.filter)
    (match fields with
      | some fields => [.projectionResolved fields.length columns.length]
      | none => []) ++
      emission.predicates.map .predicateMet ++
      (match emission.stop with
        | none => [.filterFlattened emission.predicates.length]
        | some _ => [])

end FindSelect
