import QueryScan.Files
import QueryScan.Scan.Error

/-! Why a command fails, and the two texts that say so: a sentence for a reader, and the fields of
the failure as `main` reports them. -/
namespace QueryScan

/-- What is wrong with the arguments of a command. -/
inductive ArgumentFault where
  | unknownFormat (name : String)
  | noInputs
  | noJobs
deriving DecidableEq, Repr

/-- What is wrong with a settings file that was asked for. -/
inductive SettingsFault where
  | notFound (path : String)
  | malformed (path : String)
deriving DecidableEq, Repr

inductive Failure where
  | arguments (fault : ArgumentFault)
  | settings (fault : SettingsFault)
  | settingsUnreadable (cause : ReadError)
  | unreadable (path : String) (cause : ReadError)
  | lexical (error : LexError)
  | checksFailed (count : Nat)
deriving DecidableEq, Repr

def ArgumentFault.message : ArgumentFault → String
  | unknownFormat name => "Unknown format: " ++ name
  | noInputs => "No input files specified"
  | noJobs => "Number of jobs must be at least 1"

def SettingsFault.message : SettingsFault → String
  | notFound path => "Configuration file not found: " ++ path
  | malformed path => "Failed to parse " ++ path

def ReadError.message : ReadError → String
  | .system cause => cause.message ++ " (os error " ++ cause.code.repr ++ ")"
  | .nulInPath => "file name contained an unexpected NUL byte"
  | .notText => "stream did not contain valid UTF-8"

def ReadError.kind : ReadError → String
  | .system cause => cause.kind
  | .nulInPath => "InvalidInput"
  | .notText => "InvalidData"

def ReadError.fields (e : ReadError) : String :=
  match e with
  | .system cause =>
    "Os \x7b code: " ++ cause.code.repr ++ ", kind: " ++ e.kind ++ ", message: " ++
      Text.quoted cause.message ++ " \x7d"
  | _ => "Error \x7b kind: " ++ e.kind ++ ", message: " ++ Text.quoted e.message ++ " \x7d"

def Span.fields (s : Span) : String :=
  "Span \x7b start: " ++ s.start.repr ++ ", end: " ++ s.stop.repr ++
    ", line: " ++ s.line.toNat.repr ++ ", column: " ++ s.column.toNat.repr ++ " \x7d"

def Construct.word : Construct → String
  | .comment => "ExprComment"
  | .xmlComment => "XmlComment"
  | .cdata => "Cdata"
  | .instruction => "ProcessingInstruction"
  | .pragma => "Pragma"
  | .string => "StringLiteral"

def LexError.word : LexError → String
  | .noViableToken .. => "NoViableToken"
  | .unterminated .. => "UnterminatedConstruct"
  | .malformedNumber .. => "MalformedNumber"
  | .malformedReference _ => "MalformedEntityOrCharRef"

def LexError.fields (e : LexError) : String :=
  let detail := match e with
    | .noViableToken found _ => "found: " ++ Text.quotedChar found ++ ", "
    | .unterminated construct _ => "kind: " ++ construct.word ++ ", "
    | .malformedNumber text _ => "text: " ++ Text.quoted text ++ ", "
    | .malformedReference _ => ""
  e.word ++ " \x7b " ++ detail ++ "span: " ++ e.span.fields ++ " \x7d"

namespace Failure

def message : Failure → String
  | arguments fault => "Validation error: " ++ fault.message
  | settings fault => "Configuration error: " ++ fault.message
  | settingsUnreadable cause => "IO error: " ++ cause.message
  | unreadable path cause => "Cannot read " ++ path ++ ": " ++ cause.message
  | lexical e => "Lexical error: " ++ e.message
  | checksFailed n => n.repr ++ " file(s) failed to check"

def fields : Failure → String
  | arguments fault => "Validation(" ++ Text.quoted fault.message ++ ")"
  | settings fault => "Config(" ++ Text.quoted fault.message ++ ")"
  | settingsUnreadable cause => "Io(" ++ cause.fields ++ ")"
  | unreadable path cause =>
    "Read \x7b path: " ++ Text.quoted path ++ ", source: " ++ cause.fields ++ " \x7d"
  | lexical e => "Lex(" ++ e.fields ++ ")"
  | checksFailed n => "CheckFailed(" ++ n.repr ++ ")"

end Failure

end QueryScan
