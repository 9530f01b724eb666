import FindSelect.Config
import FindSelect.Text.Digits

/-!
# Arguments of the command line

The arguments are read at two levels: options of every command may stand before the name of the
command and after it, and a value after it wins over one before it. An option may stand once at each
level.

* `Command`, `Options`, `Request`: what the arguments ask for;
* `UsageError`: why they ask for nothing;
* `HelpPage`: the pages of the help;
* `Request.parse`: their reading.
-/

namespace FindSelect

/-- What is to be done. -/
inductive Command
  /-- Prints the statement of the call that the arguments spell out. -/
  | find (collection : String) (filter projection sort : Option String)
      (limit skip : Option UInt64)
  /-- Prints the statement of the call that a file holds. -/
  | call (file : String)
  /-- Shows the comparison operators. -/
  | operators
  deriving DecidableEq, Repr

/-- The options of every command. -/
structure Options where
  schema : Option String := none
  format : Option OutputFormat := none
  config : Option String := none
  verbose : Bool := false
  deriving DecidableEq, Repr

/-- The names of the commands, and the level before them. -/
inductive CommandLevel
  | top
  | find
  | call
  | operators
  deriving DecidableEq, Repr

/-- A page of the help: on a level, or on help itself. -/
inductive HelpPage
  | level (l : CommandLevel)
  | help
  deriving DecidableEq, Repr

/-- What the arguments ask for. -/
inductive Request
  | version
  | help (page : HelpPage)
  | run (options : Options) (command : Command)
  deriving DecidableEq, Repr

/-- Why arguments ask for nothing. -/
inductive UsageError
  | noCommand
  | unknownCommand (word : String)
  | unknownOption (word : String)
  | missingArgument
  | extraArgument (word : String)
  | missingValue (option : String)
  | unwantedValue (option : String)
  | repeatedOption (option : String)
  | badValue (option value : String)
  deriving DecidableEq, Repr

/-- The wording of an error. -/
def UsageError.message : UsageError → String
  | .noCommand => "a command is needed: find, call or operators"
  | .unknownCommand word => "there is no command '" ++ word ++ "'"
  | .unknownOption word => "there is no option '" ++ word ++ "'"
  | .missingArgument => "an argument is missing"
  | .extraArgument word => "unexpected argument '" ++ word ++ "'"
  | .missingValue option => "the option '" ++ option ++ "' needs a value"
  | .unwantedValue option => "the option '" ++ option ++ "' takes no value"
  | .repeatedOption option => "the option '" ++ option ++ "' stands twice"
  | .badValue option value => "'" ++ value ++ "' is no value of '" ++ option ++ "'"

/-! ## Options -/

/-- The options. -/
inductive OptionName
  | schema
  | format
  | config
  | verbose
  | version
  | help
  | filter
  | projection
  | limit
  | skip
  | sort
  deriving DecidableEq, Repr

namespace OptionName

/-- The options, in order. -/
def all : List OptionName :=
  [.schema, .format, .config, .verbose, .help, .version, .filter, .projection, .limit, .skip, .sort]

/-- The long name, which two dashes precede. -/
def long : OptionName → String
  | .schema => "schema"
  | .format => "format"
  | .config => "config"
  | .verbose => "verbose"
  | .version => "version"
  | .help => "help"
  | .filter => "filter"
  | .projection => "projection"
  | .limit => "limit"
  | .skip => "skip"
  | .sort => "sort"

/-- The short name, which one dash precedes. -/
def short? : OptionName → Option Char
  | .schema => some 's'
  | .format => some 'f'
  | .verbose => some 'v'
  | .version => some 'V'
  | .help => some 'h'
  | _ => none

/-- Whether an option takes a value. -/
def takesValue : OptionName → Bool
  | .verbose => false
  | .version => false
  | .help => false
  | _ => true

/-- Whether an option may stand at a level. -/
def allowedAt (option : OptionName) (level : CommandLevel) : Bool :=
  match option with
  | .schema | .format | .config | .verbose | .help => true
  | .version => level == .top
  | _ => level == .find

/-- The option of a long name at a level. -/
def ofLong? (level : CommandLevel) (name : String) : Option OptionName :=
  all.find? fun option => option.long == name && option.allowedAt level

/-- The option of a short name at a level. -/
def ofShort? (level : CommandLevel) (c : Char) : Option OptionName :=
  all.find? fun option => option.short? == some c && option.allowedAt level

end OptionName

/-! ## One level -/

/-- The options that one level has given. -/
structure Given where
  schema : Option String := none
  format : Option OutputFormat := none
  config : Option String := none
  verbose : Bool := false
  filter : Option String := none
  projection : Option String := none
  limit : Option UInt64 := none
  skip : Option UInt64 := none
  sort : Option String := none
  deriving Repr

/-- Why the reading of arguments ends before their end. -/
inductive Halt
  | version
  | help (page : HelpPage)
  | usage (e : UsageError)
  deriving DecidableEq, Repr

namespace Given

/-- Fills a place with the value of an option, once. -/
def fill {α : Type} (option : OptionName) (slot : Option α) (value : String) (read : Option α) :
    Except Halt (Option α) :=
  if slot.isSome then .error (.usage (.repeatedOption option.long))
  else
    match read with
    | some a => .ok (some a)
    | none => .error (.usage (.badValue option.long value))

/-- A path, which must not be empty. -/
def path? (value : String) : Option String := if value.isEmpty then none else some value

/-- The options with the value of one more. -/
def set (given : Given) (option : OptionName) (value : String) : Except Halt Given :=
  match option with
  | .schema => do
    return { given with schema := ← fill option given.schema value (path? value) }
  | .format => do
    return { given with format := ← fill option given.format value (OutputFormat.ofName? value) }
  | .config => do
    return { given with config := ← fill option given.config value (path? value) }
  | .filter => do return { given with filter := ← fill option given.filter value (some value) }
  | .projection => do
    return { given with projection := ← fill option given.projection value (some value) }
  | .limit => do
    return { given with limit := ← fill option given.limit value (Text.unsignedWord? value) }
  | .skip => do
    return { given with skip := ← fill option given.skip value (Text.unsignedWord? value) }
  | .sort => do return { given with sort := ← fill option given.sort value (some value) }
  | .verbose | .version | .help => .error (.usage (.unwantedValue option.long))

/-- The options with the one for more notes. -/
def setVerbose (given : Given) : Except Halt Given :=
  if given.verbose then .error (.usage (.repeatedOption OptionName.verbose.long))
  else .ok { given with verbose := true }

/-- The options with one more that takes no value, at a level. -/
def flag (level : CommandLevel) (given : Given) (option : OptionName) : Except Halt Given :=
  match option with
  | .version => .error .version
  | .help => .error (.help (.level level))
  | .verbose => given.setVerbose
  | _ => .error (.usage (.missingValue option.long))

/-- The options of a row of short names after one dash. A value follows the name of an option that
takes one, after an equals sign if there is one; if nothing follows it, the option still needs its
value. -/
def cluster (level : CommandLevel) : List Char → Given → Except Halt (Given × Option OptionName)
  | [], given => .ok (given, none)
  | c :: cs, given =>
    match OptionName.ofShort? level c with
    | none => .error (.usage (.unknownOption (String.ofList ['-', c])))
    | some option =>
      if option.takesValue then
        match cs with
        | [] => .ok (given, some option)
        | '=' :: value => do return (← given.set option (String.ofList value), none)
        | value => do return (← given.set option (String.ofList value), none)
      else do cluster level cs (← given.flag level option)

/-- The option of a long name after two dashes. Its value follows an equals sign; without one, the
option still needs its value, if it takes one. -/
def long (level : CommandLevel) (cs : List Char) (given : Given) :
    Except Halt (Given × Option OptionName) :=
  let name := String.ofList (cs.takeWhile (· != '='))
  match OptionName.ofLong? level name with
  | none => .error (.usage (.unknownOption ("--" ++ name)))
  | some option =>
    match cs.dropWhile (· != '=') with
    | '=' :: value => do return (← given.set option (String.ofList value), none)
    | _ =>
      if option.takesValue then .ok (given, some option)
      else do return (← given.flag level option, none)

end Given

/-- Whether an argument is an option by its form. A dash alone is not. -/
def isOptionForm (argument : String) : Bool :=
  match argument.toList with
  | '-' :: _ :: _ => true
  | _ => false

/-- What one argument is by its form. -/
inductive ArgumentForm
  | separator
  | long (cs : List Char)
  | cluster (cs : List Char)
  | plain

/-- The form of an argument. -/
def ArgumentForm.of (argument : String) : ArgumentForm :=
  match argument.toList with
  | ['-', '-'] => .separator
  | '-' :: '-' :: cs => .long cs
  | '-' :: c :: cs => .cluster (c :: cs)
  | _ => .plain

/-- The options with those of one argument, and the option that still needs its value. -/
def Given.addForm (level : CommandLevel) (given : Given) :
    ArgumentForm → Except Halt (Given × Option OptionName)
  | .long cs => given.long level cs
  | .cluster cs => given.cluster level cs
  | _ => .ok (given, none)

/-- Takes a plain argument at a level. A collection and a file have one place for it, and the path of
a file is not empty. -/
def CommandLevel.accept (level : CommandLevel) (taken : Option String) (argument : String) :
    Except Halt (Option String) :=
  match level, taken with
  | .find, none => .ok (some argument)
  | .call, none =>
    if argument.isEmpty then .error (.usage (.badValue "FILE" argument)) else .ok (some argument)
  | _, _ => .error (.usage (.extraArgument argument))

/-- Reads the arguments after the name of a command: the options and the plain argument, if one is
given. After two dashes alone no options follow. -/
def readLevel (level : CommandLevel) : List String → Given → Option String →
    Except Halt (Given × Option String)
  | [], given, taken => .ok (given, taken)
  | argument :: rest, given, taken =>
    match ArgumentForm.of argument with
    | .separator => do return (given, ← rest.foldlM level.accept taken)
    | .plain => do readLevel level rest given (← level.accept taken argument)
    | form => do
      let (given, pending) ← given.addForm level form
      match pending with
      | none => readLevel level rest given taken
      | some option =>
        match rest with
        | [] => .error (.usage (.missingValue option.long))
        | value :: rest =>
          if isOptionForm value then .error (.usage (.missingValue option.long))
          else do readLevel level rest (← given.set option value) taken

/-! ## Commands -/

/-- The level of the name of a command. -/
def CommandLevel.ofName? : String → Option CommandLevel
  | "find" => some .find
  | "call" => some .call
  | "operators" => some .operators
  | _ => none

/-- The options of both levels: the inner one wins. The path of the schema may come from a variable
instead. -/
def Options.join (schemaVariable : Option String) (outer inner : Given) : Options where
  schema := (inner.schema.or outer.schema).or schemaVariable
  format := inner.format.or outer.format
  config := inner.config.or outer.config
  verbose := outer.verbose || inner.verbose

/-- The command of a level, its options and its plain argument. -/
def Command.of (level : CommandLevel) (given : Given) (taken : Option String) :
    Except Halt Command :=
  match level, taken with
  | .find, some collection =>
    .ok (.find collection given.filter given.projection given.sort given.limit given.skip)
  | .call, some file => .ok (.call file)
  | .operators, _ => .ok .operators
  | .top, _ => .error (.usage .noCommand)
  | _, none => .error (.usage .missingArgument)

/-- The page of the help that the words after `help` ask for. -/
def HelpPage.ofWords : List String → Halt
  | [] => .help (.level .top)
  | ["help"] => .help .help
  | word :: rest =>
    match CommandLevel.ofName? word, rest with
    | some l, [] => .help (.level l)
    | some _, extra :: _ => .usage (.unknownCommand extra)
    | none, _ => .usage (.unknownCommand word)

/-- Reads the arguments up to the name of a command, and from there on at its level. Gives the
options before the name, those after it, and the command. -/
def readTop : List String → Given → Except Halt (Given × Given × Command)
  | [], _ => .error (.usage .noCommand)
  | argument :: rest, given =>
    match ArgumentForm.of argument with
    | .separator =>
      match rest with
      | [] => .error (.usage .noCommand)
      | word :: _ => .error (.usage (.unknownCommand word))
    | .plain =>
      match CommandLevel.ofName? argument with
      | none =>
        .error (if argument = "help" then HelpPage.ofWords rest
          else .usage (.unknownCommand argument))
      | some level => do
        let (inner, taken) ← readLevel level rest {} none
        return (given, inner, ← Command.of level inner taken)
    | form => do
      let (given, pending) ← given.addForm .top form
      match pending with
      | none => readTop rest given
      | some option =>
        match rest with
        | [] => .error (.usage (.missingValue option.long))
        | value :: rest =>
          if isOptionForm value then .error (.usage (.missingValue option.long))
          else do readTop rest (← given.set option value)

/-- A variable stands in for the path of the schema at each level that does not give one, and is a
path there. -/
def Given.admit (given : Given) (schemaVariable : Option String) : Except UsageError Unit :=
  if given.schema.isNone ∧ schemaVariable = some "" then .error (.badValue "schema" "") else .ok ()

namespace Request

/-- What the arguments ask for. The path of the schema may come from a variable. -/
def parse (schemaVariable : Option String) (arguments : List String) :
    Except UsageError Request :=
  match readTop arguments {} with
  | .error .version => .ok .version
  | .error (.help page) => .ok (.help page)
  | .error (.usage e) => .error e
  | .ok (outer, inner, command) => do
    inner.admit schemaVariable
    outer.admit schemaVariable
    return .run (Options.join schemaVariable outer inner) command

end Request

end FindSelect
