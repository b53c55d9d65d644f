import QueryScan.Scan.Reference
import QueryScan.Unicode.CharClass

/-! Markup inside queries: XML comments, CDATA sections, processing instructions and the character
data of direct constructors. Each construct is one token with its delimiters. -/
namespace QueryScan.Scan

open Unicode (isBlank isNameStart isNameChar)
open Text (run)

/-- The rest of an XML comment behind `read` characters of it. Two hyphens may only close it. -/
def xmlCommentRest (read : Nat) : List Char → Step
  | '-' :: '-' :: '>' :: _ => .token .comment (read + 3)
  | '-' :: '-' :: _ => .fault (.noViable (read + 1) '-')
  | _ :: r => xmlCommentRest (read + 1) r
  | [] => .fault (.unterminated .xmlComment)

def xmlCommentRule : Rule := fun _ input =>
  match input with
  | '<' :: '!' :: '-' :: '-' :: r => some (xmlCommentRest 4 r)
  | _ => none

/-- CDATA sections, in every mode. The first `]]>` closes one. -/
def cdataRule : Rule := fun _ input =>
  match input with
  | '<' :: '!' :: '[' :: 'C' :: 'D' :: 'A' :: 'T' :: 'A' :: '[' :: r =>
    some <|
      match Text.find? [']', ']', '>'] r with
      | some n => .token .cdata (9 + n + 3)
      | none => .fault (.unterminated .cdata)
  | _ => none

/-- The rest of a processing instruction behind its target of `read` characters with `<?`: the
closing mark, or a blank and all up to the first closing mark. -/
def instructionRest (read : Nat) (input : List Char) : Step :=
  match input with
  | '?' :: '>' :: _ => .token .instruction (read + 2)
  | [] => .fault (.unterminated .instruction)
  | c :: _ =>
    if isBlank c then
      match Text.find? ['?', '>'] input with
      | some n => .token .instruction (read + n + 2)
      | none => .fault (.unterminated .instruction)
    else .fault (.noViable read c)

def instructionRule : Rule := fun _ input =>
  match input with
  | '<' :: '?' :: c :: r =>
    if isNameStart c then
      let target := run isNameChar r
      some (instructionRest (3 + target) (r.drop target))
    else none
  | _ => none

def attributeEscapeRule : Rule := fun m input =>
  match m.context, input with
  | .attribute d, a :: b :: _ =>
    if a = d.char ∧ b = d.char then some (.token (.escape d) 2) else none
  | _, _ => none

/-- The character stays in a run of character data: no brace, tag or reference starts here. -/
def isPlain (c : Char) : Bool :=
  !(c == '{' || c == '}' || c == '<' || c == '&')

def runOf (kind : Kind) (p : Char → Bool) (input : List Char) : Option Step :=
  let n := run p input
  if n = 0 then none else some (.token kind n)

def attributeRule : Rule := fun m input =>
  match m.context, input with
  | .attribute d, c :: _ =>
    if c = '&' then some (reference input)
    else runOf .attributeText (fun x => x != d.char && isPlain x) input
  | _, _ => none

/-- A quote by itself, where it opens no string. -/
def quoteRule : Rule := fun m input =>
  match input with
  | c :: _ =>
    if m.strings || m.inElement then none
    else (Delimiter.ofChar? c).map fun d => .token (.quote d) 1
  | [] => none

def elementRule : Rule := fun m input =>
  match m.context, input with
  | .element, c :: _ =>
    if c = '&' then some (reference input) else runOf .elementText isPlain input
  | _, _ => none

end QueryScan.Scan
