import FindSelect.FileTree
import FindSelect.Json.Fault
import FindSelect.Error

/-!
# Reading files

* `Host`: what the program may ask of its surroundings;
* `LoadError`: why a schema or a configuration cannot be loaded, with its wording.
-/

namespace FindSelect

/-- What the program may ask of its surroundings: the bytes of a file, whether a path leads to
anything, and the bytes of the input. -/
structure Host (m : Type → Type) where
  read : (path : String) → m (Except FileError ByteArray)
  isPresent : (path : String) → m Bool
  input : m ByteArray

/-- The surroundings that a tree of files, in which the program runs, and a given input make. -/
def FileTree.host (tree : FileTree) (input : ByteArray) : Host Id where
  read path := FileTree.read (surroundings input) tree path
  isPresent path := FileTree.isPresent (surroundings input) tree path
  input := input

/-- The text of the file at a path. -/
def Host.readText {m : Type → Type} [Monad m] (host : Host m) (path : String) :
    m (Except FileError String) := do
  return (← host.read path).bind decodeText

/-- Why a schema or a configuration cannot be loaded. -/
inductive LoadError
  /-- The file of a schema cannot be read. -/
  | file (e : FileError)
  /-- The extension of a schema names no format. -/
  | unsupportedFormat (extension path : String)
  /-- The file of a configuration cannot be read. -/
  | unreadable (path : String) (e : FileError)
  /-- The text is no such document. -/
  | json (fault : Fault)
  /-- The text is no such settings. -/
  | toml
  deriving DecidableEq, Repr

namespace LoadError

/-- The kind of an error. -/
def kind : LoadError → ErrorKind
  | .file _ => .file
  | .unsupportedFormat .. => .configuration
  | .unreadable .. => .configuration
  | .json _ => .json
  | .toml => .toml

/-- What the message says after the words of the kind. What is wrong with a text that is no document
or no settings at all is left unworded. -/
def detail? : LoadError → Option String
  | .file e => some e.message
  | .unsupportedFormat extension path =>
    some ("Unsupported schema format '." ++ extension ++ "' (" ++ path ++ ")")
  | .unreadable path e => some ("Failed to read " ++ path ++ ": " ++ e.message)
  | .json fault => fault.message?
  | .toml => none

/-- The wording of an error, if it has one. -/
def message? (e : LoadError) : Option String := e.detail?.map e.kind.describe

/-- The wording of the error inside this one, if it comes from a file or a text. -/
def cause? : LoadError → Option String
  | .file e => some e.message
  | .json fault => fault.message?
  | _ => none

end LoadError

end FindSelect
