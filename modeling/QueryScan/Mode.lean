import QueryScan.Token.Kind

/-! The modes of scanning. A parser switches them as it enters and leaves direct constructors, and
some tokens switch them by themselves. -/
namespace QueryScan

/-- Where the text at hand stands: in an expression, between tags, or in a quoted attribute
value. -/
inductive Context where
  | expression
  | element
  | attribute (delimiter : Delimiter)
deriving DecidableEq, Repr

structure Mode where
  context : Context := .expression
  /-- Between `(#` and `#)`. -/
  pragma : Bool := false
  /-- Blanks are tokens and not skipped. -/
  blanks : Bool := false
  /-- Quotes open string literals. -/
  strings : Bool := true
deriving DecidableEq, Repr

inductive ModeChange where
  | element (on : Bool)
  | enterAttribute (delimiter : Delimiter)
  | leaveAttribute
  | blanks (on : Bool)
  | strings (on : Bool)
deriving DecidableEq, Repr

namespace Mode

def inElement (m : Mode) : Bool :=
  m.context == .element

def delimiter? (m : Mode) : Option Delimiter :=
  match m.context with
  | .attribute d => some d
  | _ => none

def inAttribute (m : Mode) : Bool :=
  m.delimiter?.isSome

def inContent (m : Mode) : Bool :=
  m.context != .expression

/-- Back to an expression from between tags; an attribute value stays. -/
def leaveElement (m : Mode) : Mode :=
  match m.context with
  | .element => { m with context := .expression }
  | _ => m

/-- Back to an expression from an attribute value; element content stays. -/
def leaveAttribute (m : Mode) : Mode :=
  match m.context with
  | .attribute _ => { m with context := .expression }
  | _ => m

def change (m : Mode) : ModeChange → Mode
  | .element true => { m with context := .element }
  | .element false => m.leaveElement
  | .enterAttribute d => { m with context := .attribute d }
  | .leaveAttribute => m.leaveAttribute
  | .blanks on => { m with blanks := on }
  | .strings on => { m with strings := on }

/-- The mode behind a token: `{` leaves all content, `<` and `</` leave element content, `</` also
makes blanks implicit again, and pragmas open and close. -/
def onToken (m : Mode) : Kind → Mode
  | .symbol .leftBrace => { m with context := .expression }
  | .symbol .endTag => { m.leaveElement with blanks := false }
  | .symbol .less => m.leaveElement
  | .pragmaStart => { m with pragma := true }
  | .pragmaEnd => { m with pragma := false }
  | _ => m

end Mode

end QueryScan
