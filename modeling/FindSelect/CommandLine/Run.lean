import FindSelect.CommandLine.Help
import FindSelect.CommandLine.LogFilter
import FindSelect.CommandLine.Report
import FindSelect.Schema.Load

/-!
# Running the command line

From arguments, variables and files to an exit code and two outputs. The configuration is loaded
first, then the call is decoded, then the schema is loaded and the statement made; the first failure
ends the run.

* `Environment`: the variables that count;
* `CommandLine.run`: the whole run, in any surroundings.
-/

namespace FindSelect

/-- The variables that count, and whether the output goes to a terminal. -/
structure Environment where
  schema : Option String := none
  log : Option String := none
  colourForced : Option String := none
  noColour : Option String := none
  colour : Option String := none
  configHome : Option String := none
  terminal : Bool := false
  deriving Repr

/-- Whether output is coloured. Colours can be forced, by any value but zero; otherwise they can be
turned off, and only go to a terminal. -/
def Environment.coloured (e : Environment) : Bool :=
  if e.colourForced.any (· != "0") then true
  else if e.noColour.isSome then false
  else e.terminal && e.colour != some "0"

/-- Whether the notes are coloured, which they are wherever they go, unless a variable with any
value turns colours off. -/
def Environment.notesColoured (e : Environment) : Bool := e.noColour.all (·.isEmpty)

/-- The result of a run. -/
structure Outcome where
  exit : UInt32
  stdout : String
  stderr : String
  deriving Repr

/-- A part of the error output of a run. -/
inductive Note
  | event (e : Event)
  | line (s : String)
  deriving Repr

namespace CommandLine

variable {m : Type → Type} [Monad m]

/-- A part of a run: it may fail, and leaves notes whether it fails or not. -/
abbrev Task (m : Type → Type) (α : Type) := ExceptT Failure (StateT (List Note) m) α

/-- Leaves a note. -/
def leave (n : Note) : Task m Unit := modify (· ++ [n])

/-- Goes on with a value or fails with the failure of an error. -/
def orFail {ε α : Type} (failure : ε → Failure) : Except ε α → Task m α
  | .ok a => return a
  | .error e => throw (failure e)

/-! ## Calls -/

/-- The value of an option that is given as a text. -/
def jsonOption (name : String) : Option String → Except Failure (Option Json)
  | none => .ok none
  | some text =>
    match Json.parse text with
    | .ok v => .ok (some v)
    | .error fault => .error (.ofFault [name ++ " is not valid JSON"] fault)

/-- The sort argument of an option that is given as a text. -/
def sortOption (given : Option String) : Except Failure (Option SortSpec) := do
  match ← jsonOption "--sort" given with
  | none => return none
  | some v => (some <$> SortSpec.ofJson v).mapError Failure.ofCallError

/-- The call that arguments spell out. -/
def callOfArguments (collection : String) (filter projection sort : Option String)
    (limit skip : Option UInt64) : Except Failure FindCall := do
  let filter ← jsonOption "--filter" filter
  let projection ← jsonOption "--projection" projection
  let sort ← sortOption sort
  return ⟨collection, filter, projection, limit, skip, sort⟩

/-- The call that a text holds, which must name a collection. -/
def callOfText (text : String) : Except Failure FindCall := do
  let call ← (FindCall.parse text).mapError (Failure.ofFault [])
  if call.collection.isEmpty then .error (.of "call document has an empty collection")
  else return call

/-- The text of the file of a call; a dash stands for the input. -/
def callText (host : Host m) (file : String) : m (Except Failure String) := do
  if file == "-" then
    return (decodeText (← host.input)).mapError fun e => .of e.message
  else
    return (← host.readText file).mapError fun e => ⟨["Failed to read " ++ file, e.message], true⟩

/-- The call of a file. -/
def callOfFile (host : Host m) (file : String) : m (Except Failure FindCall) := do
  return (← callText host file).bind callOfText

/-! ## The run -/

/-- Loads the configuration. -/
def loadConfig (host : Host m) (env : Environment) (options : Options) : Task m Config := do
  let loaded ← (Config.load host env.configHome options.config : m _)
  let (config, source) ← orFail (Failure.ofLoad []) loaded
  match source with
  | some path => leave (.event (.configLoaded path))
  | none => pure ()
  return config

/-- Loads the schema at a path. -/
def loadSchema (host : Host m) (path : String) : Task m Schema := do
  let loaded ← (Schema.load host path : m _)
  let schema ← orFail (Failure.ofLoad ["Failed to load schema " ++ path]) loaded
  leave (.event (.schemaLoaded schema.tables.length path))
  return schema

/-- The path of the schema: an option comes before the configuration. -/
def schemaPath (options : Options) (config : Config) : Except Failure String :=
  match options.schema.or config.schemaPath with
  | some path => .ok path
  | none =>
    .error (.of "No schema. Use --schema, set MONGOSQL_SCHEMA, or add schema_path to mongosql.toml")

/-- The statement of a call against the columns of its table. -/
def statementOf (coloured : Bool) (host : Host m) (options : Options) (config : Config)
    (call : FindCall) : Task m Statement := do
  let path ← orFail id (schemaPath options config)
  let schema ← loadSchema host path
  let columns ← orFail Failure.ofCallError (schema.columns call.collection)
  if options.verbose then leave (.line (Report.schemaLine coloured path columns.length))
  for e in call.events columns do
    leave (.event e)
  orFail Failure.ofCallError (call.toStatement columns)

/-- Runs a command and gives what it prints. -/
def runCommand (coloured : Bool) (host : Host m) (env : Environment) (options : Options)
    (command : Command) : Task m String := do
  let config ← loadConfig host env options
  let print (call : Except Failure FindCall) : Task m String := do
    let s ← statementOf coloured host options config (← orFail id call)
    return Report.statement coloured (options.format.getD config.format) s
  match command with
  | .operators => return Report.operatorTable coloured
  | .find collection filter projection sort limit skip =>
    print (callOfArguments collection filter projection sort limit skip)
  | .call file => print (← (callOfFile host file : m _))

/-- The text of the notes that a filter shows. -/
def noteText (coloured : Bool) (filter : LogFilter) (notes : List Note) : String :=
  String.join (notes.map fun
    | .event e => if filter.shows e then e.line coloured else ""
    | .line s => s)

/-- The line of the version. -/
def versionLine : String := "mongosql 0.1.0\n"

/-- Runs the command line. Arguments that ask for nothing give exit code 2, a failure gives exit
code 1 and prints nothing but its report. -/
def run (host : Host m) (env : Environment) (arguments : List String) : m Outcome := do
  match Request.parse env.schema arguments with
  | .error e => return ⟨2, "", "error: " ++ e.message ++ "\n"⟩
  | .ok .version => return ⟨0, versionLine, ""⟩
  | .ok (.help page) => return ⟨0, page.text env.schema, ""⟩
  | .ok (.run options command) =>
    let coloured := env.coloured
    let filter := LogFilter.ofText env.log options.verbose
    let (result, notes) ← (runCommand coloured host env options command).run.run []
    let notes := noteText env.notesColoured filter notes
    match result with
    | .ok stdout => return ⟨0, stdout, notes⟩
    | .error failure => return ⟨1, "", notes ++ failure.report coloured⟩

end CommandLine

end FindSelect
