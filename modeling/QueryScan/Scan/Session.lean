import QueryScan.Scan.Tokens

/-! A session with a scanner: its user takes tokens, switches modes and looks into the log, in any
order. -/
namespace QueryScan

inductive Action where
  /-- The next token, also that of the end. -/
  | next
  /-- The next of the sequence of tokens. -/
  | pull
  | change (what : ModeChange)
  /-- Whether there are diagnostics, and how many. -/
  | errors
  /-- All diagnostics so far; the log is empty behind it. -/
  | takeLog
deriving DecidableEq, Repr

inductive Answer where
  | token (result : Except LexError Token)
  | item (result : Option (Except LexError Token))
  | done
  | errors (some : Bool) (count : Nat)
  | log (entries : List Diagnostic)

namespace Scanner

def act (s : Scanner) : Action → Answer × Scanner
  | .next => (.token s.next.1, s.next.2)
  | .pull => (.item s.pull.1, s.pull.2)
  | .change what => (.done, s.change what)
  | .errors => (.errors s.log.hasErrors s.log.count, s)
  | .takeLog => (.log s.log.take.1, { s with log := s.log.take.2 })

/-- Every answer of a session, each with the scanner behind it. -/
def session (s : Scanner) : List Action → List (Answer × Scanner)
  | [] => []
  | a :: rest =>
    let r := s.act a
    r :: session r.2 rest

end Scanner

end QueryScan
