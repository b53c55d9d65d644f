import QueryScan.Command.Source

/-! The command that checks files for lexical errors. -/
namespace QueryScan.Command

structure CheckRequest where
  inputs : List String
  jobs : Option Nat := none
deriving DecidableEq, Repr

inductive FileReport where
  | clean (path : String) (tokens : Nat)
  | failed (path : String) (report : String)
deriving DecidableEq, Repr

namespace FileReport

def text : FileReport → String
  | clean .. => ""
  | failed _ report => report

def isFailure : FileReport → Bool
  | clean .. => false
  | failed .. => true

end FileReport

namespace CheckRequest

variable {m : Type → Type} [Monad m]

def checkFile (host : Host m) (mode : Mode) (path : String) : m FileReport := do
  match ← Query.read host path with
  | .error failure => return .failed path ("error: " ++ failure.message ++ "\n")
  | .ok query =>
    match query.tokens mode with
    | .ok tokens => return .clean path tokens.length
    | .error (_, report) => return .failed path report

/-- A report for each input, in their order. There must be an input, and a job to do it. -/
def reports (host : Host m) (settings : Settings) (r : CheckRequest) :
    m (Except Failure (List FileReport)) := do
  if r.inputs.isEmpty then return .error (.arguments .noInputs)
  if r.jobs.or settings.jobs == some 0 then return .error (.arguments .noJobs)
  return .ok (← r.inputs.mapM (checkFile host settings.mode))

/-- Checks all inputs, and fails if one of them does. -/
def run (host : Host m) (settings : Settings) (r : CheckRequest) : m Outcome := do
  match ← r.reports host settings with
  | .error failure => return { failure := some failure }
  | .ok reports =>
    let failed := reports.countP FileReport.isFailure
    return {
      errors := String.join (reports.map FileReport.text)
      failure := if failed = 0 then none else some (.checksFailed failed) }

end CheckRequest

end QueryScan.Command
