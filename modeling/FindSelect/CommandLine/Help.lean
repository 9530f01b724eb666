import FindSelect.CommandLine.Arguments
import FindSelect.CommandLine.Report

/-!
# Help

The pages of the help: what a command does, how it is called, and its options.
-/

namespace FindSelect

/-- What a command does. -/
def CommandLevel.about : CommandLevel → String
  | .top => "Translate MongoDB-style find() calls into SELECT statements"
  | .find => "Translate a single find() call"
  | .call => "Translate a call document read from a file (\"-\" for stdin)"
  | .operators => "Show the comparison operator table"

/-- The words that call a command. -/
def CommandLevel.usage : CommandLevel → String
  | .top => "mongosql [OPTIONS] <COMMAND>"
  | .find => "mongosql find [OPTIONS] <COLLECTION>"
  | .call => "mongosql call [OPTIONS] <FILE>"
  | .operators => "mongosql operators [OPTIONS]"

/-- The plain arguments of a command. -/
def CommandLevel.arguments : CommandLevel → List (String × String)
  | .find => [("<COLLECTION>", "Collection (table) name")]
  | .call => [("<FILE>", "")]
  | _ => []

/-- The names of an option, and the place of its value. -/
def OptionName.form (option : OptionName) : String :=
  let short := match option.short? with
    | some c => String.ofList ['-', c, ',', ' ']
    | none => "    "
  short ++ "--" ++ option.long ++
    (if option.takesValue then " <" ++ option.long.toUpper ++ ">" else "")

/-- What an option does, with the variable that may stand for it. -/
def OptionName.about (schemaVariable : Option String) : OptionName → String
  | .schema => "Schema file (JSON or TOML) [env: MONGOSQL_SCHEMA=" ++ schemaVariable.getD "" ++ "]"
  | .format => "Output format [possible values: pretty, json]"
  | .config => "Config file (default: ./mongosql.toml, then the user config dir)"
  | .verbose => "Verbose output"
  | .version => "Print version"
  | .help => "Print help"
  | .filter => "Filter document or list of documents"
  | .projection => "Projection map, e.g. '\x7b\"name\": 1\x7d'"
  | .limit => ""
  | .skip => ""
  | .sort => "Sort pair, list of pairs, or document"

namespace HelpPage

/-- What the command for help does. -/
def aboutHelp : String := "Print this message or the help of the given subcommand(s)"

/-- The rows of a section in two columns. -/
def rows (entries : List (String × String)) : String :=
  let width := (entries.map fun row => row.1.length).foldl max 0
  String.join (entries.map fun (left, right) =>
    "  " ++ (if right.isEmpty then left else Report.padded width left ++ "  " ++ right) ++ "\n")

/-- A section with its title, unless there is nothing in it. -/
def titled (title : String) (entries : List (String × String)) : String :=
  if entries.isEmpty then "" else "\n" ++ title ++ ":\n" ++ rows entries

/-- The commands. -/
def commands : List (String × String) :=
  [("find", CommandLevel.find.about), ("call", CommandLevel.call.about),
    ("operators", CommandLevel.operators.about), ("help", aboutHelp)]

/-- Calls that show what can be done. -/
def examples : String :=
  "\nEXAMPLES:\n" ++
    "    mongosql find users --schema schema.json --filter '\x7b\"name\": \"bob\"\x7d'\n" ++
    "    mongosql find users --projection '\x7b\"email\": -1\x7d' --sort '[\"age\", -1]' --skip 20\n" ++
    "    mongosql call query.json --format json\n"

/-- The text of a page. -/
def text (schemaVariable : Option String) : HelpPage → String
  | .help =>
    aboutHelp ++ "\n\nUsage: mongosql help [COMMAND]...\n" ++
      titled "Arguments" [("[COMMAND]...", "Print help for the subcommand(s)")]
  | .level l =>
    let options := OptionName.all.filter (·.allowedAt l)
    l.about ++ "\n\nUsage: " ++ l.usage ++ "\n" ++
      titled "Commands" (if l = .top then commands else []) ++
      titled "Arguments" l.arguments ++
      titled "Options" (options.map fun o => (o.form, o.about schemaVariable)) ++
      (if l = .top then examples else "")

end HelpPage

end FindSelect
