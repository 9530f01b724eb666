/-!
# Files

What the program needs of a file system: the bytes of a file by its path, or why there are none.

* `FileError`: the causes, with their wording;
* `decodeText`: bytes as text;
* `extension?`: the extension of a path;
* `FileTree`: a tree of directories and files, in which paths are followed.
-/

namespace FindSelect

/-- Why a file cannot be read. -/
inductive FileError
  | notFound
  | notDirectory
  | isDirectory
  | tooLong
  | nullCharacter
  | notText
  /-- Any other cause, in the words of the system. -/
  | other (words : String)
  deriving DecidableEq, Repr

/-- The wording of an error. -/
def FileError.message : FileError → String
  | .notFound => "No such file or directory (os error 2)"
  | .notDirectory => "Not a directory (os error 20)"
  | .isDirectory => "Is a directory (os error 21)"
  | .tooLong => "File name too long (os error 36)"
  | .nullCharacter => "file name contained an unexpected NUL byte"
  | .notText => "stream did not contain valid UTF-8"
  | .other words => words

/-- Bytes as text. -/
def decodeText (bytes : ByteArray) : Except FileError String :=
  match String.fromUTF8? bytes with
  | some s => .ok s
  | none => .error .notText

/-! ## Paths -/

/-- The parts of a path between its slashes. -/
def pathParts (path : String) : List String :=
  (path.toList.splitBy fun _ c => c != '/').map fun cs => String.ofList (cs.filter (· != '/'))

/-- The last part of a path that is a name: empty parts and single dots at the end do not count. A
path that ends in two dots has none. -/
def fileName? (path : String) : Option String :=
  let parts := (pathParts path).filter fun p => p != "" && p != "."
  match parts.getLast? with
  | some ".." => none
  | last => last

/-- What follows the last dot of the last part of a path, unless that dot is its only one and stands
first. -/
def extension? (path : String) : Option String := do
  let cs := (← fileName? path).toList.reverse
  let after := cs.takeWhile (· != '.')
  let before := (cs.dropWhile (· != '.')).drop 1
  if before.isEmpty then none else some (String.ofList after.reverse)

/-- A path and a name below it. -/
def joinPath (directory name : String) : String :=
  if directory.endsWith "/" then directory ++ name else directory ++ "/" ++ name

/-- The number of bytes that the name of a file may have. -/
def maxNameBytes : Nat := 255

/-- The number of bytes that a path may have. -/
def maxPathBytes : Nat := 4095

/-! ## Trees -/

/-- A directory of named entries, or a file of bytes. -/
inductive FileTree
  | file (bytes : ByteArray)
  | directory (entries : List (String × FileTree))

namespace FileTree

/-- The directory with nothing in it. -/
def empty : FileTree := .directory []

/-- Changes the entry at a path below, which is an empty directory if it is not there, and makes the
directories on its way. -/
def change (f : FileTree → FileTree) : (path : List String) → FileTree → FileTree
  | [], entry => f entry
  | name :: path, .directory entries =>
    let inner := (entries.lookup name).getD empty
    .directory ((entries.filter fun e => e.1 != name) ++ [(name, change f path inner)])
  | name :: path, .file _ => .directory [(name, change f path empty)]

/-- Puts a file at a path below. -/
def putFile (path : List String) (bytes : ByteArray) (tree : FileTree) : FileTree :=
  tree.change (fun _ => .file bytes) path

/-- Makes a directory at a path below, unless there is one. -/
def makeDirectory (path : List String) (tree : FileTree) : FileTree := tree.change id path

/-- The usual directories of a system, with the empty device and the one that holds the input. -/
def surroundings (input : ByteArray) : FileTree :=
  .directory
    (("dev", .directory [("null", .file .empty), ("stdin", .file input)]) ::
      ["bin", "boot", "etc", "home", "lib", "lib64", "media", "mnt", "opt", "proc", "root", "run",
        "sbin", "srv", "sys", "tmp", "usr", "var"].map fun name => (name, empty))

/-- Follows the parts of a path from an entry: `above` are the directories that enclose it, the
nearest first. The outermost directory encloses itself. -/
def follow : (parts : List String) → (above : List FileTree) → FileTree → Except FileError FileTree
  | [], _, entry => .ok entry
  | _ :: _, _, .file _ => .error .notDirectory
  | part :: parts, above, .directory entries =>
    if part = "" ∨ part = "." then follow parts above (.directory entries)
    else if part = ".." then
      match above with
      | outer :: above => follow parts above outer
      | [] => follow parts [] (.directory entries)
    else if maxNameBytes < part.utf8ByteSize then .error .tooLong
    else
      match entries.lookup part with
      | some inner => follow parts (.directory entries :: above) inner
      | none => .error .notFound

/-- The entry at a path, seen from a tree inside its surroundings. A path that begins with a slash
begins outside. -/
def find (outside tree : FileTree) (path : String) : Except FileError FileTree :=
  if path.contains '\x00' then .error .nullCharacter
  else if path.isEmpty then .error .notFound
  else if maxPathBytes < path.utf8ByteSize then .error .tooLong
  else if path.startsWith "/" then follow (pathParts path) [] outside
  else follow (pathParts path) [outside] tree

/-- The bytes of the file at a path. -/
def read (outside tree : FileTree) (path : String) : Except FileError ByteArray := do
  match ← find outside tree path with
  | .file bytes => return bytes
  | .directory _ => throw .isDirectory

/-- Whether a path leads to an entry. -/
def isPresent (outside tree : FileTree) (path : String) : Bool :=
  (find outside tree path).isOk

end FileTree

end FindSelect
