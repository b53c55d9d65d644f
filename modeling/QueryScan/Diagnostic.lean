import QueryScan.Source.Snippet

/-! Reports for a reader, and the log that collects them. -/
namespace QueryScan

/-- A letter group and a number. -/
structure DiagnosticCode where
  group : String
  number : Nat
deriving DecidableEq, Repr

namespace DiagnosticCode

/-- The group and the number in at least four digits. -/
def render (code : DiagnosticCode) : String :=
  let digits := code.number.repr
  code.group ++ String.ofList (List.replicate (4 - digits.length) '0') ++ digits

def summary (code : DiagnosticCode) : String :=
  "DiagnosticCode(" ++ code.render ++ ")"

end DiagnosticCode

structure Diagnostic where
  message : String
  span : Span := .unknown
  code : Option DiagnosticCode := none
  helps : List String := []
deriving DecidableEq, Repr

namespace Diagnostic

def headline (d : Diagnostic) : String :=
  match d.code with
  | some code => "error[" ++ code.render ++ "]: " ++ d.message ++ "\n"
  | none => "error: " ++ d.message ++ "\n"

/-- File, line and column, and the line itself where the file has it. -/
def location (d : Diagnostic) (file : SourceFile) : String :=
  if d.span = .unknown then ""
  else
    "  --> " ++ file.name ++ ":" ++ d.span.line.toNat.repr ++ ":" ++ d.span.column.toNat.repr ++
      "\n" ++ (Snippet.ofSpan? file d.span).elim "" fun snippet => snippet.render ++ "\n"

/-- Headline, location and helps, each on lines of its own. -/
def render (d : Diagnostic) (file : SourceFile) : String :=
  d.headline ++ d.location file ++
    String.join (d.helps.map fun help => "  = help: " ++ help ++ "\n")

end Diagnostic

/-- Diagnostics in the order in which they came. -/
structure Log where
  entries : List Diagnostic := []
deriving DecidableEq, Repr

namespace Log

def emit (log : Log) (d : Diagnostic) : Log :=
  ⟨log.entries ++ [d]⟩

def count (log : Log) : Nat :=
  log.entries.length

def hasErrors (log : Log) : Bool :=
  !log.entries.isEmpty

/-- Everything so far, and an empty log. -/
def take (log : Log) : List Diagnostic × Log :=
  (log.entries, {})

def summary (log : Log) : String :=
  "Handler \x7b diagnostics: " ++ log.count.repr ++ " \x7d"

end Log

end QueryScan
