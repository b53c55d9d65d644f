import QueryScan.Diagnostic
import QueryScan.Scan.Step
import QueryScan.Source.Cursor

/-! Faults with their place in the source, and their wording. -/
namespace QueryScan

namespace Construct

def describe : Construct → String
  | comment => "comment"
  | xmlComment => "XML comment"
  | cdata => "CDATA section"
  | instruction => "processing instruction"
  | pragma => "pragma"
  | string => "string literal"

def closing : Construct → String
  | comment => ":)"
  | xmlComment => "-->"
  | cdata => "]]>"
  | instruction => "?>"
  | pragma => "#)"
  | string => "the opening quote"

end Construct

/-- A fault and the stretch of the source that it concerns. -/
inductive LexError where
  | noViableToken (found : Char) (span : Span)
  | unterminated (construct : Construct) (span : Span)
  | malformedNumber (text : String) (span : Span)
  | malformedReference (span : Span)
deriving DecidableEq, Repr

namespace LexError

def span : LexError → Span
  | noViableToken _ s | unterminated _ s | malformedNumber _ s | malformedReference s => s

def headline : LexError → String
  | noViableToken found _ => "unexpected character " ++ Text.quotedChar found
  | unterminated construct _ => "unterminated " ++ construct.describe
  | malformedNumber text _ => "malformed number '" ++ text ++ "': missing exponent digits"
  | malformedReference _ => "malformed entity or character reference"

def message (e : LexError) : String :=
  let place := e.span.line.toNat.repr ++ ":" ++ e.span.column.toNat.repr
  match e with
  | noViableToken .. | malformedReference _ => e.headline ++ " at " ++ place
  | unterminated .. => e.headline ++ " starting at " ++ place
  | malformedNumber text _ =>
    "malformed number '" ++ text ++ "' at " ++ place ++ ": missing exponent digits"

def code : LexError → DiagnosticCode
  | noViableToken .. => ⟨"E", 1001⟩
  | unterminated .. => ⟨"E", 1002⟩
  | malformedNumber .. => ⟨"E", 1003⟩
  | malformedReference _ => ⟨"E", 1004⟩

/-- How the source could be mended, where that is plain. -/
def help? : LexError → Option String
  | noViableToken .. => none
  | unterminated construct _ =>
    some ("close the " ++ construct.describe ++ " with `" ++ construct.closing ++ "`")
  | malformedNumber .. => some "an exponent needs at least one digit, e.g. `1e0`"
  | malformedReference _ =>
    some "use one of &lt; &gt; &amp; &quot; &apos;, or &#N; / &#xH; for a character"

def diagnostic (e : LexError) : Diagnostic :=
  { message := e.headline, span := e.span, code := some e.code, helps := e.help?.toList }

end LexError

/-- The error of a fault at the cursor. An open pragma is blamed from its start, where that is
known; every other construct from the cursor on. -/
def Fault.locate (c : Cursor) (pragma : Option Place) : Fault → LexError
  | .noViable ahead found =>
    let place := (c.forward ahead).place
    .noViableToken found (place.upTo (place.offset + found.utf8Size))
  | .unterminated construct =>
    let start := if construct = .pragma then pragma.getD c.place else c.place
    .unterminated construct (start.upTo (c.place.offset + Text.byteLength c.rest))
  | .malformedNumber length =>
    .malformedNumber (String.ofList (c.rest.take length))
      (c.place.upTo (c.forward length).place.offset)
  | .malformedReference ahead length =>
    let start := c.forward ahead
    .malformedReference (start.place.upTo (start.forward length).place.offset)

end QueryScan
