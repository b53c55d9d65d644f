import QueryScan.Proofs.Sessions
import QueryScan.Token.Body

/-! What constructs hold. The target and the body of a token are cut out of its text a second time,
with a rule of their own for where a target ends. They are the parts that the grammar names: nothing
of the text is lost between them, and no earlier closing mark is passed over. -/
namespace QueryScan

open Grammar
open Unicode (isBlank isNameStart isNameChar)
open Text (EndsAtFirst endsAtFirst_of_absent stripStart?_append stripEnd?_append strip_marks)

/-! ### The parts of a text -/

/-- A comment around its body. Two hyphens stand only in the closing mark. -/
structure CommentParts (text body : List Char) : Prop where
  whole : text = ['<', '!', '-', '-'] ++ body ++ ['-', '-', '>']
  single : ¬ ['-', '-'] <:+: body
  last : body.getLast? ≠ some '-'
  first : EndsAtFirst ['-', '-', '>'] body

structure CdataParts (text body : List Char) : Prop where
  whole : text = ['<', '!', '[', 'C', 'D', 'A', 'T', 'A', '['] ++ body ++ [']', ']', '>']
  first : EndsAtFirst [']', ']', '>'] body

/-- The blanks are all that stand before the body and its closing mark, and only an empty body
does without. -/
structure Separated (mark blanks body : List Char) : Prop where
  maximal : (blanks ++ body ++ mark).takeWhile isBlank = blanks
  solid : ∀ c ∈ body.head?, isBlank c = false
  needed : blanks = [] → body = []

/-- A processing instruction with its target, which is the longest name there is behind the opening
mark. -/
structure InstructionParts (text target blanks body : List Char) : Prop
    extends Separated ['?', '>'] blanks body where
  whole : text = ['<', '?'] ++ (target ++ (blanks ++ body)) ++ ['?', '>']
  name : Name target
  longest : ∀ other, Name other → other <+: target ++ (blanks ++ body) ++ ['?', '>'] →
    other <+: target
  first : EndsAtFirst ['?', '>'] (target ++ (blanks ++ body))

/-- The end of a pragma; without blanks it is the closing mark alone. -/
structure PragmaEndParts (text blanks body : List Char) : Prop
    extends Separated ['#', ')'] blanks body where
  whole : text = blanks ++ body ++ ['#', ')']
  alone : blanks = [] → text = ['#', ')']
  first : EndsAtFirst ['#', ')'] (blanks ++ body)

/-! ### Comments -/

/-- Put before the closing mark, the body does not bring two hyphens together too early. -/
theorem Grammar.XmlCommentBody.single {body : List Char} (h : XmlCommentBody body) :
    ¬ ['-', '-'] <:+: body ++ ['-'] := by
  induction h with
  | nil => decide
  | plain other _ ih =>
      intro inner
      rcases List.infix_cons_iff.mp inner with start | later
      · exact other (List.cons_prefix_cons.mp start).1.symm
      · exact ih later
  | hyphen other _ ih =>
      intro inner
      rcases List.infix_cons_iff.mp inner with start | later
      · exact other (List.cons_prefix_cons.mp (List.cons_prefix_cons.mp start).2).1.symm
      · rcases List.infix_cons_iff.mp later with start | later
        · exact other (List.cons_prefix_cons.mp start).1.symm
        · exact ih later

theorem commentParts {body : List Char} (h : XmlCommentBody body) :
    CommentParts ('<' :: '!' :: '-' :: '-' :: (body ++ ['-', '-', '>'])) body := by
  have single : ¬ ['-', '-'] <:+: body := by
    intro inner
    exact h.single (inner.trans (List.prefix_append body ['-']).isInfix)
  refine ⟨rfl, single, ?_, endsAtFirst_of_absent (by decide) ?_⟩
  · intro last
    obtain ⟨front, rfl⟩ := List.getLast?_eq_some_iff.mp last
    exact h.single ⟨front, [], by simp⟩
  · intro inner
    have pair : ['-', '-'] <:+: ['-', '-', '>'] := ⟨[], ['>'], rfl⟩
    exact single (pair.trans inner)

/-! ### Blanks before a body -/

/-- A text that is empty or starts with a blank is divided behind its blanks. The mark adds none. -/
theorem separated {a : Char} (mark : List Char) {inner : List Char} (solid : isBlank a = false)
    (lead : ∀ c ∈ inner.head?, isBlank c = true) :
    Separated (a :: mark) (inner.takeWhile isBlank) (inner.dropWhile isBlank) := by
  constructor
  · rw [List.takeWhile_append_dropWhile, List.takeWhile_append, List.takeWhile_cons, solid]
    split
    · next all =>
        rw [(List.takeWhile_prefix isBlank).eq_of_length all]
        exact List.append_nil inner
    · rfl
  · intro c head
    have stop := List.head?_dropWhile_not isBlank inner
    rw [Option.mem_def] at head
    simpa [head] using stop
  · intro none
    cases inner with
    | nil => rfl
    | cons c t => simp [lead c rfl] at none

/-! ### Targets -/

theorem Grammar.Name.all {w : List Char} (h : Name w) : ∀ c ∈ w, isNameChar c = true := by
  obtain ⟨c, r, rfl, start, all⟩ := h
  intro x member
  rcases List.mem_cons.mp member with rfl | later
  · exact Unicode.isNameChar_of_isNameStart start
  · exact all x later

theorem Grammar.Name.question {w : List Char} (h : Name w) : '?' ∉ w := by
  intro member
  exact absurd (h.all '?' member) (by decide)

theorem Grammar.Name.longest {other w r : List Char} (name : Name other)
    (stop : ∀ c ∈ r.head?, isNameChar c = false) (ahead : other <+: w ++ r) : other <+: w := by
  rcases List.prefix_or_prefix_of_prefix ahead (List.prefix_append w r) with shorter | longer
  · exact shorter
  · obtain ⟨t, rfl⟩ := longer
    cases t with
    | nil => simp
    | cons c t =>
        have next : c :: t <+: r := (List.prefix_append_right_inj w).mp ahead
        obtain ⟨u, rfl⟩ := next
        have stopped := stop c rfl
        rw [name.all c (by simp)] at stopped
        contradiction

theorem isNameChar_of_ends {c : Char} (ends : isBlank c = true ∨ c = '?') :
    isNameChar c = false := by
  rcases ends with blank | rfl
  · exact Unicode.isNameChar_of_isBlank blank
  · decide

/-- A target ends before the first blank or question mark, since a name holds neither. -/
theorem takeWhile_target {target r : List Char} (name : Name target)
    (ends : ∀ c ∈ r.head?, isBlank c = true ∨ c = '?') :
    (target ++ r).takeWhile (fun c => !(isBlank c || c == '?')) = target := by
  have inside : ∀ c ∈ target, (!(isBlank c || c == '?')) = true := by
    intro c member
    cases stop : isBlank c || c == '?' with
    | false => rfl
    | true =>
        have outside := isNameChar_of_ends (by simpa using stop)
        rw [name.all c member] at outside
        contradiction
  rw [List.takeWhile_append_of_pos inside]
  cases r with
  | nil => exact List.append_nil target
  | cons c r =>
      have stop : (isBlank c || c == '?') = true := by simpa using ends c rfl
      rw [List.takeWhile_cons, stop]
      exact List.append_nil target

/-! ### What the accessors give -/

theorem Grammar.Run.head_append {p : Char → Bool} {w : List Char} (h : Run p w) (r : List Char) :
    ∀ c ∈ (w ++ r).head?, p c = true := by
  obtain ⟨c, t, rfl⟩ := List.exists_cons_of_ne_nil h.1
  intro x head
  cases head
  exact h.2 c List.mem_cons_self

/-- Between the target and the closing mark stands nothing, or a text that starts with a blank. -/
theorem Grammar.Instruction.inner {w : List Char} (h : Instruction w) :
    ∃ target inner, w = '<' :: '?' :: (target ++ (inner ++ ['?', '>'])) ∧ Name target ∧
      (∀ c ∈ inner.head?, isBlank c = true) ∧ ¬ ['?', '>'] <:+: inner := by
  obtain ⟨target, name, rfl | ⟨blanks, body, all, without, rfl⟩⟩ := h
  · exact ⟨target, [], rfl, name, nofun, by decide⟩
  · exact ⟨target, blanks ++ body, by simp, name, all.head_append body,
      Scan.not_infix_behind_blanks Scan.isBlank_question all.2 without⟩

theorem ends_of_lead {inner : List Char} (lead : ∀ c ∈ inner.head?, isBlank c = true) :
    ∀ c ∈ (inner ++ ['?', '>']).head?, isBlank c = true ∨ c = '?' := by
  intro c head
  cases inner with
  | nil => exact .inr (Option.some.inj head).symm
  | cons x r => exact .inl (lead c head)

theorem Grammar.PragmaEnd.inner {w : List Char} (h : PragmaEnd w) :
    ∃ inner, w = inner ++ ['#', ')'] ∧ (∀ c ∈ inner.head?, isBlank c = true) ∧
      ¬ ['#', ')'] <:+: inner := by
  rcases h with rfl | ⟨blanks, content, all, rfl, first⟩
  · exact ⟨[], rfl, nofun, by decide⟩
  · exact ⟨blanks ++ content, by simp, all.head_append content,
      Scan.not_infix_behind_blanks Scan.isBlank_hash all.2
        (Text.not_infix_of_first (by simp) first)⟩

namespace Token

variable {t : Token}

theorem body?_comment (kind : t.kind = .comment) (h : XmlComment t.text.toList) :
    ∃ body, t.body? = some (String.ofList body) ∧ CommentParts t.text.toList body := by
  obtain ⟨body, valid, text⟩ := h
  refine ⟨body, ?_, text ▸ commentParts valid⟩
  simp only [body?, bodyChars?, kind, text]
  exact congrArg (Option.map String.ofList) (strip_marks ['<', '!', '-', '-'] body _)

theorem body?_cdata (kind : t.kind = .cdata) (h : Cdata t.text.toList) :
    ∃ body, t.body? = some (String.ofList body) ∧ CdataParts t.text.toList body := by
  obtain ⟨body, without, text⟩ := h
  refine ⟨body, ?_, text, endsAtFirst_of_absent Scan.cdataEnd_unbordered without⟩
  simp only [body?, bodyChars?, kind, text]
  exact congrArg (Option.map String.ofList)
    (strip_marks ['<', '!', '[', 'C', 'D', 'A', 'T', 'A', '['] body _)

theorem body?_instruction (kind : t.kind = .instruction) (h : Instruction t.text.toList) :
    ∃ target blanks body, t.target? = some (String.ofList target) ∧
      t.body? = some (String.ofList body) ∧
      InstructionParts t.text.toList target blanks body := by
  obtain ⟨target, inner, text, name, lead, without⟩ := h.inner
  have parts : inner.takeWhile isBlank ++ inner.dropWhile isBlank = inner :=
    List.takeWhile_append_dropWhile
  have ends := ends_of_lead lead
  have cut : Text.stripStart? ['<', '?'] t.text.toList =
      some (target ++ (inner ++ ['?', '>'])) := by
    rw [text]
    exact stripStart?_append _ _
  have target' : t.targetChars? = some target := by
    simp only [targetChars?, kind, cut, Option.map_some, takeWhile_target name ends]
  have body' : t.bodyChars? = some (inner.dropWhile isBlank) := by
    simp only [bodyChars?, kind, cut, target', Option.bind_eq_bind, Option.bind_some,
      stripStart?_append, stripEnd?_append]
    rfl
  refine ⟨target, inner.takeWhile isBlank, inner.dropWhile isBlank, ?_, ?_,
    separated ['>'] Scan.isBlank_question lead, ?_, name, ?_, ?_⟩
  · rw [target?, target', Option.map_some]
  · rw [body?, body', Option.map_some]
  · rw [parts, text]
    simp
  · intro other valid ahead
    rw [parts, List.append_assoc] at ahead
    exact valid.longest (fun c head => isNameChar_of_ends (ends c head)) ahead
  · rw [parts]
    refine endsAtFirst_of_absent Scan.instructionEnd_unbordered ?_
    exact Text.not_infix_append name.question without

theorem body?_pragmaEnd (kind : t.kind = .pragmaEnd) (h : PragmaEnd t.text.toList) :
    ∃ blanks body, t.body? = some (String.ofList body) ∧
      PragmaEndParts t.text.toList blanks body := by
  obtain ⟨inner, text, lead, without⟩ := h.inner
  have parts : inner.takeWhile isBlank ++ inner.dropWhile isBlank = inner :=
    List.takeWhile_append_dropWhile
  have divided := separated [')'] Scan.isBlank_hash lead
  refine ⟨inner.takeWhile isBlank, inner.dropWhile isBlank, ?_, divided, ?_, ?_, ?_⟩
  · simp only [body?, bodyChars?, kind, text, Option.bind_eq_bind, Option.bind_some,
      stripEnd?_append]
    rfl
  · rw [parts]
    exact text
  · intro none
    have empty := parts.symm
    rw [none, divided.needed none] at empty
    rw [text, empty]
    rfl
  · rw [parts]
    exact endsAtFirst_of_absent Scan.pragmaMark_unbordered without

end Token

/-! ### Sessions -/

namespace Scanner

/-- Every comment, section, instruction or end of a pragma that a session gives can be taken apart
into its target, its blanks and its body, with nothing left over. -/
theorem session_bodies (source : String) (m : Mode) (actions : List Action) :
    ∀ r ∈ (Scanner.ofText source m).readings actions,
      (r.token.kind = .comment → ∃ body, r.token.body? = some (String.ofList body) ∧
        CommentParts r.token.text.toList body) ∧
      (r.token.kind = .cdata → ∃ body, r.token.body? = some (String.ofList body) ∧
        CdataParts r.token.text.toList body) ∧
      (r.token.kind = .instruction → ∃ target blanks body,
        r.token.target? = some (String.ofList target) ∧
        r.token.body? = some (String.ofList body) ∧
        InstructionParts r.token.text.toList target blanks body) ∧
      (r.token.kind = .pragmaEnd → ∃ blanks body, r.token.body? = some (String.ofList body) ∧
        PragmaEndParts r.token.text.toList blanks body) := by
  apply forall_readings
  intro s t s' called
  obtain ⟨gap, gives⟩ := gives_of_next called
  have lexeme := gives.lexeme
  refine ⟨?_, ?_, ?_, ?_⟩
  all_goals
    intro kind
    rw [show t.kind = _ from kind] at lexeme
  · exact t.body?_comment kind lexeme
  · exact t.body?_cdata kind lexeme
  · exact t.body?_instruction kind lexeme
  · exact t.body?_pragmaEnd kind lexeme

/-- The first question mark of the two belongs to the body. -/
theorem session_bodies_instruction :
    ∃ r ∈ (Scanner.ofText "<?t  ??>").readings [.next], r.token.kind = .instruction ∧
      r.token.target? = some "t" ∧ r.token.body? = some "?" ∧
      ∃ target blanks body, r.token.target? = some (String.ofList target) ∧
        r.token.body? = some (String.ofList body) ∧
        InstructionParts r.token.text.toList target blanks body := by
  have called := next_of_token (s := Scanner.ofText "<?t  ??>") rfl (settle_of_token rfl)
  have member : ⟨{}, tokenAt (.ofText "<?t  ??>") .instruction 8⟩ ∈
      (Scanner.ofText "<?t  ??>").readings [.next] := by
    simp only [readings, act, called]
    exact List.mem_cons_self
  obtain ⟨-, -, instruction, -⟩ := session_bodies "<?t  ??>" {} [.next] _ member
  exact ⟨_, member, rfl, rfl, rfl, instruction rfl⟩

end Scanner

end QueryScan
