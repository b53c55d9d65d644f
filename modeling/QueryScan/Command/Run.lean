import QueryScan.Command.Arguments

/-! A whole run of the program, from its arguments to what it writes and its exit code. -/
namespace QueryScan.Command

def versionNumber : String :=
  "0.1.0"

structure Result where
  exit : Nat
  output : String := ""
  errors : String := ""
deriving DecidableEq, Repr

structure Directories where
  home : Option String := none
  config : Option String := none

/-- Where settings are looked for, the first place first. -/
def settingsFiles (directories : Directories) : List String :=
  ["xqt.toml"] ++ (directories.home.map (· ++ "/.config/xqt/xqt.toml")).toList ++
    (directories.config.map (· ++ "/xqt/xqt.toml")).toList

variable {m : Type → Type} [Monad m]

def Request.run (host : Host m) (settings : Settings) : Request → m Outcome
  | .tokens r => r.run host settings
  | .check r => r.run host settings

/-- The outcome of a request; without a named settings file the usual places are searched. -/
def perform (host : Host m) (directories : Directories) (request : Request)
    (settingsFile : Option String) : m Outcome := do
  let settings ← match settingsFile with
    | some path => Settings.load host path
    | none => Settings.find host (settingsFiles directories)
  match settings with
  | .error failure => return { failure := some failure }
  | .ok settings => request.run host settings

/-- A failure is reported behind all else, and makes the exit code one. -/
def Outcome.result (o : Outcome) : Result :=
  match o.failure with
  | none => { exit := 0, output := o.output, errors := o.errors }
  | some failure =>
    { exit := 1, output := o.output, errors := o.errors ++ "Error: " ++ failure.fields ++ "\n" }

def usage : String :=
  "Usage: xqt [OPTIONS] <COMMAND>\n\nCommands:\n  tokens  Print the tokens of a query\n" ++
    "  check   Check query files for lexical errors\n"

/-- Runs the program. Arguments that make no sense give the exit code two. -/
def run (host : Host m) (directories : Directories) (environment : Environment)
    (arguments : List String) : m Result := do
  match readArguments environment arguments with
  | .error .usage => return { exit := 2, errors := usage }
  | .error (.version level) =>
    return { exit := 0, output := level.title ++ " " ++ versionNumber ++ "\n" }
  | .error (.help _) => return { exit := 0, output := usage }
  | .ok (request, settingsFile) =>
    return (← perform host directories request settingsFile).result

end QueryScan.Command
