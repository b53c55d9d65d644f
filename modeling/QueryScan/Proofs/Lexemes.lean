import QueryScan.Scan.Step
import QueryScan.Text.Digits
import QueryScan.Unicode.CharClass

/-! The lexical grammar, stated without the scanner: which texts each kind of token may have, and
which texts are comments. Nothing here says in which mode a kind may occur. -/
namespace QueryScan

namespace Grammar

open Unicode (isBlank isDigit isNameStart isNameChar)
open Text (isHexDigit)

def Run (p : Char → Bool) (w : List Char) : Prop :=
  w ≠ [] ∧ ∀ c ∈ w, p c = true

def Name (w : List Char) : Prop :=
  ∃ c r, w = c :: r ∧ isNameStart c = true ∧ ∀ x ∈ r, isNameChar x = true

/-- A number without its exponent; the flag tells whether it holds a dot. -/
inductive Mantissa : Bool → List Char → Prop
  | whole {d} : Run isDigit d → Mantissa false d
  | dotted {d e} : Run isDigit d → (∀ c ∈ e, isDigit c = true) → Mantissa true (d ++ '.' :: e)
  | bare {e} : Run isDigit e → Mantissa true ('.' :: e)

def Double (w : List Char) : Prop :=
  ∃ dotted m mark sign digits, Mantissa dotted m ∧ (mark = 'e' ∨ mark = 'E') ∧
    (sign = [] ∨ sign = ['+'] ∨ sign = ['-']) ∧ Run isDigit digits ∧
    w = m ++ mark :: (sign ++ digits)

def EntityRef (w : List Char) : Prop :=
  ∃ name, (name = ['l', 't'] ∨ name = ['g', 't'] ∨ name = ['a', 'm', 'p'] ∨
    name = ['q', 'u', 'o', 't'] ∨ name = ['a', 'p', 'o', 's']) ∧ w = '&' :: (name ++ [';'])

def CharRef (w : List Char) : Prop :=
  (∃ digits, Run Char.isDigit digits ∧ w = '&' :: '#' :: (digits ++ [';'])) ∨
    ∃ digits, Run isHexDigit digits ∧ w = '&' :: '#' :: 'x' :: (digits ++ [';'])

inductive StringBody (d : Char) : List Char → Prop
  | nil : StringBody d []
  | doubled {w} : StringBody d w → StringBody d (d :: d :: w)
  | reference {p w} : EntityRef p ∨ CharRef p → StringBody d w → StringBody d (p ++ w)
  | plain {c w} : c ≠ d → c ≠ '&' → StringBody d w → StringBody d (c :: w)

def StringLiteral (w : List Char) : Prop :=
  ∃ (d : Delimiter) (body : List Char), StringBody d.char body ∧ w = d.char :: (body ++ [d.char])

/-- Every hyphen is followed by another character. -/
inductive XmlCommentBody : List Char → Prop
  | nil : XmlCommentBody []
  | plain {c w} : c ≠ '-' → XmlCommentBody w → XmlCommentBody (c :: w)
  | hyphen {c w} : c ≠ '-' → XmlCommentBody w → XmlCommentBody ('-' :: c :: w)

def XmlComment (w : List Char) : Prop :=
  ∃ body, XmlCommentBody body ∧ w = '<' :: '!' :: '-' :: '-' :: (body ++ ['-', '-', '>'])

def Cdata (w : List Char) : Prop :=
  ∃ body, ¬ [']', ']', '>'] <:+: body ∧
    w = '<' :: '!' :: '[' :: 'C' :: 'D' :: 'A' :: 'T' :: 'A' :: '[' :: (body ++ [']', ']', '>'])

/-- Blanks must separate a target from what follows it. -/
def Instruction (w : List Char) : Prop :=
  ∃ target, Name target ∧
    (w = '<' :: '?' :: (target ++ ['?', '>']) ∨
      ∃ blanks body, Run isBlank blanks ∧ ¬ ['?', '>'] <:+: body ∧
        w = '<' :: '?' :: (target ++ (blanks ++ (body ++ ['?', '>']))))

def PragmaStart (w : List Char) : Prop :=
  ∃ blanks, (∀ c ∈ blanks, isBlank c = true) ∧ w = '(' :: '#' :: blanks

/-- The closing mark by itself, or behind blanks a text that ends at the first closing mark. -/
def PragmaEnd (w : List Char) : Prop :=
  w = ['#', ')'] ∨
    ∃ blanks content, Run isBlank blanks ∧ w = blanks ++ (content ++ ['#', ')']) ∧
      ∀ u v, content ++ ['#', ')'] = u ++ ['#', ')'] ++ v → v = []

inductive CommentBody : List Char → Prop
  | close : CommentBody [':', ')']
  | nested {b w} : CommentBody b → CommentBody w → CommentBody ('(' :: ':' :: (b ++ w))
  | char {c w} : (c = '(' → w.head? ≠ some ':') → (c = ':' → w.head? ≠ some ')') →
      CommentBody w → CommentBody (c :: w)

def Comment (w : List Char) : Prop :=
  ∃ body, CommentBody body ∧ w = '(' :: ':' :: body

/-- A sequence of comments, and of blanks where they are allowed. -/
inductive Gap (blanks : Bool) : List Char → Prop
  | nil : Gap blanks []
  | blank {c w} : blanks = true → isBlank c = true → Gap blanks w → Gap blanks (c :: w)
  | comment {p w} : Comment p → Gap blanks w → Gap blanks (p ++ w)

end Grammar

open Grammar

/-- The texts of a kind of token. Of the mode only the delimiter of the attribute value at hand
matters, and only for the text of that value. -/
def Lexeme (m : Mode) : Kind → List Char → Prop
  | .eof, w => w = []
  | .blank, w => Run Unicode.isBlank w
  | .name, w => Name w ∧ ∀ k : Keyword, w ≠ k.spelling.toList
  | .keyword k, w => w = k.spelling.toList
  | .integer, w => Mantissa false w
  | .decimal, w => Mantissa true w
  | .double, w => Double w
  | .string, w => StringLiteral w
  | .elementText, w => w ≠ [] ∧ ∀ c ∈ w, c ∉ ['{', '}', '<', '&']
  | .attributeText, w =>
    ∃ d, m.delimiter? = some d ∧ w ≠ [] ∧ ∀ c ∈ w, c ∉ ['{', '}', '<', '&', d.char]
  | .entityRef, w => EntityRef w
  | .charRef, w => CharRef w
  | .escape d, w => w = [d.char, d.char]
  | .quote d, w => w = [d.char]
  | .comment, w => XmlComment w
  | .cdata, w => Cdata w
  | .instruction, w => Instruction w
  | .pragmaStart, w => PragmaStart w
  | .pragmaEnd, w => PragmaEnd w
  | .symbol s, w => w = s.spelling

/-- What may be passed over in one go: a comment, or blanks that are neither explicit nor part of
a pragma. -/
def Trivia (m : Mode) (w : List Char) : Prop :=
  Comment w ∨ (m.blanks = false ∧ m.pragma = false ∧ Run Unicode.isBlank w)

namespace Step

/-- The characters that the step takes stand at the start of the input, and are a text of the
token's kind, or may be passed over. -/
def Reads (m : Mode) (input : List Char) : Step → Prop
  | .token k n => ∃ w r, input = w ++ r ∧ n = w.length ∧ Lexeme m k w
  | .skip n => ∃ w r, input = w ++ r ∧ n = w.length ∧ Trivia m w
  | .fault _ => True

/-- What is read from the start of a text is the text of its length there. -/
theorem Reads.lexeme {m : Mode} {k : Kind} {w r : List Char}
    (h : (Step.token k w.length).Reads m (w ++ r)) : Lexeme m k w := by
  obtain ⟨v, t, split, length, lexeme⟩ := h
  obtain ⟨rfl, -⟩ := List.append_inj split length
  exact lexeme

/-- A token reaches at least to the end of `w`, and a token that ends there is of the kind `k`.
Nothing is asked of a step that is no token. -/
def Covers (k : Kind) (w : List Char) : Step → Prop
  | .token k' n => w.length ≤ n ∧ (n = w.length → k' = k)
  | _ => True

end Step

end QueryScan
