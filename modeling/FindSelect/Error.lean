import FindSelect.Json.Printer

/-!
# Why a call has no statement

* `CallError`: the causes;
* `ErrorKind`: their kinds, each with the words that open its message;
* `CallError.message`: the wording.
-/

namespace FindSelect

/-- Whether a projection names the columns to give or those to leave out. -/
inductive ProjectionMode
  | inclusion
  | exclusion
  deriving DecidableEq, Repr

/-- The value that stands for a mode. -/
def ProjectionMode.sign : ProjectionMode → String
  | .inclusion => "1"
  | .exclusion => "-1"

/-- What is wrong with a projection. -/
inductive ProjectionFault
  /-- The projection is no document. -/
  | notDocument (found : Json)
  /-- The value of a column is no mode. -/
  | notMode (column : String) (found : Json)
  deriving Repr

/-- What is wrong with a filter. -/
inductive FilterFault
  /-- The filter is neither a document nor a list. -/
  | notDocument (found : Json)
  /-- An item of the list is no document. -/
  | itemNotDocument (found : Json)
  deriving Repr

/-- What is wrong with a sort argument. -/
inductive SortFault
  /-- The argument has none of the three forms. -/
  | noForm (found : Json)
  /-- An item of the list is no pair of a key and a direction. -/
  | notPair (found : Json)
  /-- A direction is no integer of a signed word. -/
  | notDirection (found : Json)
  deriving Repr

/-- Why a call has no statement. -/
inductive CallError
  | unknownColumn (name : String) (suggestion : Option String)
  | modeConflict (first second : ProjectionMode)
  | invalidProjection (fault : ProjectionFault)
  | invalidFilter (fault : FilterFault)
  | invalidSort (fault : SortFault)
  | unknownTable (name : String)
  deriving Repr

/-! ## Kinds -/

/-- The kinds of error, those of reading files included. -/
inductive ErrorKind
  | unknownColumn
  | modeConflict
  | invalidProjection
  | invalidFilter
  | invalidSort
  | unknownTable
  | configuration
  | json
  | toml
  | file
  deriving DecidableEq, Repr

/-- The kind of an error. -/
def CallError.kind : CallError → ErrorKind
  | .unknownColumn .. => .unknownColumn
  | .modeConflict .. => .modeConflict
  | .invalidProjection _ => .invalidProjection
  | .invalidFilter _ => .invalidFilter
  | .invalidSort _ => .invalidSort
  | .unknownTable _ => .unknownTable

/-- The words that open the message of an error of a kind. -/
def ErrorKind.lead : ErrorKind → String
  | .unknownColumn => "Unknown column"
  | .modeConflict => "Projection can't use"
  | .invalidProjection => "Invalid projection"
  | .invalidFilter => "Invalid filter"
  | .invalidSort => "Invalid sort"
  | .unknownTable => "Unknown table"
  | .configuration => "Configuration error"
  | .json => "JSON error"
  | .toml => "TOML error"
  | .file => "IO error"

/-- The message of an error of a kind about which `detail` is to be said. A name that is not there
stands between quotes. -/
def ErrorKind.describe (kind : ErrorKind) (detail : String) : String :=
  match kind with
  | .unknownColumn | .unknownTable => kind.lead ++ ": '" ++ detail ++ "'"
  | .modeConflict => kind.lead ++ " " ++ detail ++ " at the same time"
  | _ => kind.lead ++ ": " ++ detail

/-! ## Wording -/

/-- The wording of a fault of a projection. -/
def ProjectionFault.message : ProjectionFault → String
  | .notDocument found => "expected a document, got " ++ found.compact
  | .notMode column found => "'" ++ column ++ "' must be 1 or -1, got " ++ found.compact

/-- The wording of a fault of a filter. -/
def FilterFault.message : FilterFault → String
  | .notDocument found => "expected a document or a list of documents, got " ++ found.compact
  | .itemNotDocument found => "expected a document in filter list, got " ++ found.compact

/-- The wording of a fault of a sort argument. -/
def SortFault.message : SortFault → String
  | .noForm found => "expected a pair, a list of pairs or a document, got " ++ found.compact
  | .notPair found => "expected a [key, direction] pair, got " ++ found.compact
  | .notDirection found => "direction must be an integer, got " ++ found.compact

/-- The hint at a column of a similar name. -/
def suggestionHint : Option String → String
  | some name => ". Did you mean '" ++ name ++ "'?"
  | none => ""

/-- The wording of an error. -/
def CallError.message : CallError → String
  | .unknownColumn name suggestion =>
    ErrorKind.unknownColumn.describe name ++ suggestionHint suggestion
  | .modeConflict first second =>
    ErrorKind.modeConflict.describe (first.sign ++ " and " ++ second.sign)
  | .invalidProjection fault => ErrorKind.invalidProjection.describe fault.message
  | .invalidFilter fault => ErrorKind.invalidFilter.describe fault.message
  | .invalidSort fault => ErrorKind.invalidSort.describe fault.message
  | .unknownTable name => ErrorKind.unknownTable.describe name

/-- Whether an error is about a column that is not there. -/
def ErrorKind.isUnknownColumn (kind : ErrorKind) : Bool := kind == .unknownColumn

end FindSelect
