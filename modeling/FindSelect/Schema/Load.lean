import FindSelect.Load
import FindSelect.Schema.Codec
import FindSelect.Schema.Settings

/-!
# Loading schemas

* `Schema.ofText`: the schema of a text, in the format that the extension of its path names;
* `Schema.load`: the schema of a file.
-/

namespace FindSelect.Schema

/-- The schema that a text describes: settings for the extension `toml`, a document for the
extension `json` and for none. -/
def ofText (path text : String) : Except LoadError Schema :=
  match extension? path with
  | some "toml" =>
    match Schema.ofToml text with
    | some s => .ok s
    | none => .error .toml
  | some "json" | none => (Schema.parse text).mapError .json
  | some extension => .error (.unsupportedFormat extension path)

/-- The schema of the file at a path. The file is read before its format is looked at. -/
def load {m : Type → Type} [Monad m] (host : Host m) (path : String) :
    m (Except LoadError Schema) := do
  return ((← host.readText path).mapError .file).bind (ofText path)

end FindSelect.Schema
