import QueryScan.Command.Run

/-! The command line program: it hands its arguments, the environment and the files of the system
to a run, and writes what comes of it. -/
namespace QueryScan.Main

/-- The error of the system as the commands know it. -/
def systemError (e : IO.Error) : SystemError :=
  match e with
  | .noFileOrDirectory .. => .notFound
  | .invalidArgument _ code details => ofCode code.toNat details
  | .inappropriateType _ code details => ofCode code.toNat details
  | .permissionDenied _ code details => ofCode code.toNat details
  | .otherError code details => ofCode code.toNat details
  | other => ofCode 5 other.toString
where
  /-- The error with a code that may be given as a negative number of 32 bits. -/
  ofCode (signed : Nat) (details : String) : SystemError :=
    let code := if 0x80000000 ≤ signed then 0x100000000 - signed else signed
    if code = 2 then .notFound
    else if code = 13 then .permissionDenied
    else if code = 20 then .notADirectory
    else if code = 21 then .isADirectory
    else if code = 36 then .nameTooLong
    else .other code details

partial def drain (stream : IO.FS.Stream) (bytes : ByteArray) : IO ByteArray := do
  let more ← stream.read 65536
  if more.isEmpty then return bytes else drain stream (bytes ++ more)

def readOr (act : IO ByteArray) : IO (Except SystemError ByteArray) := do
  try return .ok (← act)
  catch e => return .error (systemError e)

/-- A path is taken for missing only when the system says so. -/
def pathExists (path : String) : IO Bool := do
  try
    let _ ← IO.FS.Handle.mk path .read
    return true
  catch e =>
    match systemError e with
    | .notFound | .notADirectory | .nameTooLong => return false
    | _ => return true

def host : Host IO where
  fileExists := pathExists
  readFile path := readOr (IO.FS.readBinFile path)
  readInput := readOr do drain (← IO.getStdin) .empty

/-- The directory of settings is named by a variable if it is absolute, and else stands in the home
directory. -/
def directories : IO Command.Directories := do
  let home := (← IO.getEnv "HOME").filter (· != "")
  let config := (← IO.getEnv "XDG_CONFIG_HOME").filter (·.startsWith "/")
  return { home, config := config.or (home.map (· ++ "/.config")) }

def environment : IO Command.Environment := do
  return {
    verbose := ← IO.getEnv "XQT_VERBOSE"
    config := ← IO.getEnv "XQT_CONFIG"
    noColor := ← IO.getEnv "XQT_NO_COLOR" }

end QueryScan.Main

def main (arguments : List String) : IO UInt32 := do
  let result ← QueryScan.Command.run QueryScan.Main.host (← QueryScan.Main.directories)
    (← QueryScan.Main.environment) arguments
  IO.print result.output
  IO.eprint result.errors
  return result.exit.toUInt32
