import FindSelect.CommandLine.Style
import FindSelect.CommandLine.Log
import FindSelect.Statement.Codec
import FindSelect.Config

/-!
# What the command line prints

* `explain`: a statement, part by part, for a person to read;
* `statement`: a statement in the format that is asked for;
* `operatorTable`: the comparison operators;
* `Failure.report`: an error with its causes.
-/

namespace FindSelect.Report

/-! ## Statements -/

variable (coloured : Bool)

/-- A line of a label and a value. -/
def labelled (label : String) (style : Style) (value : String) : String :=
  "  " ++ Style.label.paint coloured label ++ " " ++ style.paint coloured value ++ "\n"

/-- The line of a predicate. -/
def predicateLine (p : Predicate) : String :=
  "    • " ++ Style.name.paint coloured p.column.name ++ " " ++
    Style.accent.paint coloured p.op.symbol ++ " " ++
    Style.literal.paint coloured p.value.sql ++ "\n"

/-- The line of a sort key. -/
def sortLine (s : SortKey) : String :=
  "    " ++ Style.accent.paint coloured (if s.isAscending then "↑" else "↓") ++ " " ++
    Style.name.paint coloured s.key ++ "\n"

/-- The lines of a list, after a line that labels them, if there are any. -/
def listed {α : Type} (label : String) (line : α → String) (items : List α) : String :=
  if items.isEmpty then ""
  else "  " ++ Style.label.paint coloured label ++ "\n" ++ String.join (items.map line)

/-- The line of an amount, if there is one. -/
def amount (label : String) : Option UInt64 → String
  | none => ""
  | some n => labelled coloured label Style.accent (naturalText n)

/-- A statement, part by part, and its text. -/
def explain (s : Statement) : String :=
  Style.heading.paint coloured "Statement:" ++ "\n" ++
    labelled coloured "Table:" Style.name s.table ++
    labelled coloured "Fields:" Style.name s.fields.sql ++
    listed coloured "Where:" (predicateLine coloured) s.predicates ++
    listed coloured "Sort:" (sortLine coloured) s.sorts ++
    amount coloured "Limit:" s.limit ++
    amount coloured "Offset:" s.offset ++
    "\n" ++
    Style.heading.paint coloured "Summary:" ++ "\n" ++
    "  " ++ Style.name.paint coloured s.sql ++ "\n"

/-- A statement in a format. -/
def statement (format : OutputFormat) (s : Statement) : String :=
  match format with
  | .pretty => explain coloured s
  | .json => s.toJson.indented ++ "\n"

/-! ## Operators -/

/-- A text with spaces after it, up to a width. -/
def padded (width : Nat) (s : String) : String :=
  s ++ String.ofList (List.replicate (width - s.length) ' ')

/-- A line of the table of operators. -/
def operatorLine (left right : Style) (token symbol : String) : String :=
  left.paint coloured (padded 8 token) ++ " " ++ right.paint coloured symbol ++ "\n"

/-- The table of the comparison operators. -/
def operatorTable : String :=
  Style.title.paint coloured "Comparison Operators" ++ "\n\n" ++
    operatorLine coloured Style.head Style.head "Token" "SQL" ++
    Style.label.paint coloured (String.ofList (List.replicate 16 '─')) ++ "\n" ++
    String.join (Operator.table.map fun (token, op) =>
      operatorLine coloured Style.literal Style.name token op.symbol)

/-- The line that tells the schema in use. -/
def schemaLine (path : String) (columns : Nat) : String :=
  Style.label.paint coloured "Schema:" ++ " " ++ path ++ " (" ++ toString columns ++ " columns)\n"

end FindSelect.Report

namespace FindSelect

/-! ## Errors -/

/-- An error as the chain of its causes, each the cause of the one before. The last one may be left
unworded. -/
structure Failure where
  causes : List String
  worded : Bool := true
  deriving DecidableEq, Repr

namespace Failure

/-- The failure of one cause. -/
def of (cause : String) : Failure := ⟨[cause], true⟩

/-- The failure of causes of which the last may be left unworded. -/
def ofFault (causes : List String) (fault : Fault) : Failure :=
  match fault.message? with
  | some message => ⟨causes ++ [message], true⟩
  | none => ⟨causes, false⟩

/-- The failure of a call without a statement. -/
def ofCallError (e : CallError) : Failure := of e.message

/-- The failure to load something, with the causes that led to it. An error that comes from another
one is told by its own message and then by that of the other. -/
def ofLoad (before : List String) (e : LoadError) : Failure :=
  match e.message? with
  | some message => ⟨before ++ message :: e.cause?.toList, true⟩
  | none => ⟨before ++ [e.kind.lead], false⟩

/-- The report of an error. It ends with its line, or where the words run out. -/
def report (coloured : Bool) (f : Failure) : String :=
  match f.worded, f.causes with
  | false, [] => if coloured then Style.alarm.opening ++ "Error:" else "Error:"
  | worded, causes =>
    Style.alarm.paint coloured "Error:" ++ " " ++ ": ".intercalate causes ++
      (if worded then "\n" else "")

end Failure

end FindSelect
