import FindSelect.CommandLine.Run

/-!
# The command line program

The surroundings of a real run: its files, its input, its variables and its outputs.
-/

namespace FindSelect

/-- The error that the system reports for a file. -/
def FileError.ofSystem : IO.Error → FileError
  | .noFileOrDirectory .. => .notFound
  | .invalidArgument _ 36 _ => .tooLong
  | .inappropriateType _ 20 _ => .notDirectory
  | .inappropriateType _ 21 _ => .isDirectory
  | .inappropriateType .. => .isDirectory
  | e => .other (toString e)

/-- The bytes of a file of the system. -/
def readSystemFile (path : String) : IO (Except FileError ByteArray) := do
  if path.contains '\x00' then return .error .nullCharacter
  try return .ok (← IO.FS.readBinFile path)
  catch e => return .error (.ofSystem e)

/-- Whether a path of the system leads to anything. One that cannot be followed leads nowhere. -/
def isPresentInSystem (path : String) : IO Bool := do
  if path.contains '\x00' then return false
  try
    let _ ← IO.FS.realPath path
    return true
  catch _ => return false

/-- The files and the input of the system. -/
def systemHost : Host IO where
  read := readSystemFile
  isPresent := isPresentInSystem
  input := do (← IO.getStdin).readBinToEnd

/-- The variables of the system. -/
def systemEnvironment : IO Environment := do
  return {
    schema := ← IO.getEnv "MONGOSQL_SCHEMA"
    log := ← IO.getEnv "MONGOSQL_LOG"
    colourForced := ← IO.getEnv "CLICOLOR_FORCE"
    noColour := ← IO.getEnv "NO_COLOR"
    colour := ← IO.getEnv "CLICOLOR"
    configHome := Config.homeOfSettings (← IO.getEnv "XDG_CONFIG_HOME") (← IO.getEnv "HOME")
    terminal := ← (← IO.getStdout).isTty }

end FindSelect

open FindSelect in
/-- Runs the command line with the arguments of the program. -/
def main (arguments : List String) : IO UInt32 := do
  let outcome ← CommandLine.run systemHost (← systemEnvironment) arguments
  IO.eprint outcome.stderr
  IO.print outcome.stdout
  return outcome.exit
