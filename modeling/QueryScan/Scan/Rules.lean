import QueryScan.Scan.Comment
import QueryScan.Scan.Markup
import QueryScan.Scan.Number

/-! The rules in the order in which they are tried. A rule stands before every rule whose texts it
extends, so the first that applies takes the longest text. -/
namespace QueryScan.Scan

open Unicode (isNameStart isNameChar)

/-- The end of the text ends everything but an open pragma. -/
def endStep (m : Mode) : Step :=
  if m.pragma then .fault (.unterminated .pragma) else .token .eof 0

def braces : List (List Char × Symbol) :=
  [(['{'], .leftBrace), (['}'], .rightBrace)]

def braceRule : Rule := fun _ input =>
  symbolAmong braces input

/-- Closing marks of constructs that are not open, and `>>`. -/
def closingMarks : List (List Char × Symbol) :=
  [(['-', '-', '>'], .commentEnd), ([']', ']', '>'], .cdataEnd), (['?', '>'], .instructionEnd),
    (['>', '>'], .after)]

def closingMarkRule : Rule := fun m input =>
  if m.inContent then none else symbolAmong closingMarks input

def angles : List (List Char × Symbol) :=
  [(['<', '/'], .endTag), (['<', '<'], .before), (['<', '='], .lessEq)]

def angleRule : Rule := fun _ input =>
  symbolAmong angles input

def pairs : List (List Char × Symbol) :=
  [(['/', '/'], .doubleSlash), (['|', '='], .barEq), (['&', '='], .ampEq), (['!', '='], .notEq),
    (['>', '='], .greaterEq)]

def pairRule : Rule := fun m input =>
  if m.inContent then none else symbolAmong pairs input

def lessSign : List (List Char × Symbol) :=
  [(['<'], .less)]

def lessRule : Rule := fun _ input =>
  symbolAmong lessSign input

def nameRule : Rule := fun _ input =>
  match input with
  | c :: r =>
    if isNameStart c then
      let n := 1 + Text.run isNameChar r
      some (.token (.ofName (input.take n)) n)
    else none
  | [] => none

def singles : List (List Char × Symbol) :=
  [(['/'], .slash), ([':'], .colon), ([','], .comma), ([';'], .semicolon), (['*'], .star),
    (['?'], .question), (['+'], .plus), (['-'], .minus), (['['], .leftBracket),
    ([']'], .rightBracket), (['('], .leftParen), ([')'], .rightParen), (['|'], .bar),
    (['@'], .atSign), (['$'], .dollar), (['='], .eq), (['>'], .greater)]

def singleRule : Rule := fun _ input =>
  symbolAmong singles input

/-- The texts that rules of symbols look for, each beside the symbol that it stands for. -/
def symbolTables : List (List (List Char × Symbol)) :=
  [braces, dots, closingMarks, angles, pairs, lessSign, singles]

theorem symbolTables_spelled :
    ∀ table ∈ symbolTables, ∀ entry ∈ table, entry.1 = entry.2.spelling := by
  decide

/-- The rules for a text that is not at its end, the first to be tried first. -/
def rules : List Rule :=
  [braceRule, commentRule, xmlCommentRule, cdataRule, numberRule, dotRule, closingMarkRule,
    instructionRule, angleRule, attributeEscapeRule, stringRule, pairRule,
    pragmaStartRule, pragmaEndRule, lessRule, attributeRule, quoteRule, elementRule, blankRule,
    nameRule, singleRule]

def step (m : Mode) (input : List Char) : Step :=
  match input with
  | [] => endStep m
  | c :: _ => (rules.findSome? fun rule => rule m input).getD (.fault (.noViable 0 c))

end QueryScan.Scan
