import QueryScan.Failure
import QueryScan.Scan.Tokens
import QueryScan.Settings

/-! What the commands share: settings and queries that are read from a host. -/
namespace QueryScan

variable {m : Type → Type} [Monad m]

/-- The settings of a file that has to be there. -/
def Settings.load (host : Host m) (path : String) : m (Except Failure Settings) := do
  if !(← host.fileExists path) then return .error (.settings (.notFound path))
  match ← host.readText path with
  | .error cause => return .error (.settingsUnreadable cause)
  | .ok text =>
    match Settings.ofText? text with
    | some settings => return .ok settings
    | none => return .error (.settings (.malformed path))

/-- The settings of the first of the files that is there; the plain ones when none is. -/
def Settings.find (host : Host m) : List String → m (Except Failure Settings)
  | [] => return .ok {}
  | path :: rest => do
    if ← host.fileExists path then Settings.load host path else Settings.find host rest

structure Query where
  name : String
  text : String

namespace Query

/-- The query of a file, or of standard input for a single hyphen. -/
def read (host : Host m) (path : String) : m (Except Failure Query) := do
  let input := path == "-"
  let text ← if input then host.readInputText else host.readText path
  match text with
  | .ok text => return .ok ⟨if input then "<stdin>" else path, text⟩
  | .error cause => return .error (.unreadable path cause)

def report (q : Query) (log : Log) : String :=
  let file := SourceFile.ofText q.name q.text
  String.join (log.entries.map fun d => d.render file)

def tokens (q : Query) (mode : Mode) : Except (LexError × String) (List Token) :=
  match (Scanner.ofText q.text mode).collect with
  | (tokens, none, _) => .ok tokens.toList
  | (_, some e, s) => .error (e, q.report s.log)

end Query

end QueryScan

namespace QueryScan.Command

structure Outcome where
  output : String := ""
  errors : String := ""
  failure : Option Failure := none

end QueryScan.Command
