import FindSelect.Load
import FindSelect.Toml.Document
import FindSelect.Toml.Access

/-!
# Configuration

The settings of the command line: where the schema is and how statements are shown.

* `Config`, `Config.ofToml`: the settings and their reading;
* `Config.load`: the settings of a given file, or of the first file that is there among the usual
  ones, or the default ones.
-/

namespace FindSelect

/-- How a statement is shown. -/
inductive OutputFormat
  | pretty
  | json
  deriving DecidableEq, Repr

/-- The settings of the command line. -/
structure Config where
  schemaPath : Option String := none
  format : OutputFormat := .pretty
  deriving DecidableEq, Repr

namespace OutputFormat

/-- The name of a format. -/
def name : OutputFormat → String
  | .pretty => "pretty"
  | .json => "json"

/-- The format of a name. -/
def ofName? : String → Option OutputFormat
  | "pretty" => some .pretty
  | "json" => some .json
  | _ => none

/-- The format that a value describes: its name, or a table with the name as its only key and
nothing under it. -/
def ofNode : Toml.Node → Option OutputFormat
  | .string s => ofName? s
  | .table _ [(key, n)] => if n.isHollow then ofName? key else none
  | _ => none

end OutputFormat

namespace Config

/-- The settings that a text describes. Other keys do not count. -/
def ofToml (text : String) : Option Config := do
  let t ← Toml.parse text
  let schemaPath ← t.optional "schema_path" Toml.Node.string?
  let format ← t.optional "format" OutputFormat.ofNode
  return ⟨schemaPath, format.getD .pretty⟩

/-- The settings of a text, which must describe some. -/
def ofText (text : String) : Except LoadError Config :=
  match ofToml text with
  | some config => .ok config
  | none => .error .toml

/-- The settings of the file at a path, or the default ones without a file. -/
def loadFrom {m : Type → Type} [Monad m] (host : Host m) :
    (source : Option String) → m (Except LoadError Config)
  | none => return .ok {}
  | some path => do
    return ((← host.readText path).mapError (.unreadable path)).bind ofText

/-- The file of settings in the working directory. -/
def localPath : String := "mongosql.toml"

/-- The directory of a user's settings: a given one, which must begin at the root, or the usual one
in the user's home. -/
def homeOfSettings (given home : Option String) : Option String :=
  (given.filter fun path => path.startsWith "/").or
    ((home.filter fun path => !path.isEmpty).map fun path => joinPath path ".config")

/-- The file of settings in the directory of a user's settings. -/
def userPath (configHome : String) : String :=
  joinPath (joinPath configHome "mongosql") "config.toml"

/-- The first path at which there is anything. -/
def firstPresent {m : Type → Type} [Monad m] (host : Host m) : List String → m (Option String)
  | [] => return none
  | path :: paths => do
    if ← host.isPresent path then return some path else firstPresent host paths

/-- The file of settings that counts: the given one, or the first that is there of the one in the
working directory and the user's. -/
def sourcePath {m : Type → Type} [Monad m] (host : Host m) (configHome given : Option String) :
    m (Option String) :=
  match given with
  | some path => return some path
  | none => firstPresent host (localPath :: configHome.toList.map userPath)

/-- The settings, and the file that they come from. -/
def load {m : Type → Type} [Monad m] (host : Host m) (configHome given : Option String) :
    m (Except LoadError (Config × Option String)) := do
  let source ← sourcePath host configHome given
  return (← loadFrom host source).map fun config => (config, source)

end Config

end FindSelect
