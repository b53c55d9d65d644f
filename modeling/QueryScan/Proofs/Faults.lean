import QueryScan.Proofs.Outcomes

/-! What an error says about the text. Each cause of a fault is stated against the grammar, without
the rule that met it, and holds of the text at the cursor. An error is a fault with its place, so it
says the same of the source. Only the start of an open pragma lies behind the cursor: it is
remembered from its token, and a scanner that starts inside a pragma does not know it. -/
namespace QueryScan

open Unicode (isBlank isDigit isNameStart)
open Text (run run_split run_cons_of_pos)

namespace Grammar

/-- What a construct starts with. -/
def Opens : Construct → List Char → Prop
  | .comment, w => ['(', ':'] <+: w
  | .xmlComment, w => ['<', '!', '-', '-'] <+: w
  | .cdata, w => ['<', '!', '[', 'C', 'D', 'A', 'T', 'A', '['] <+: w
  | .instruction, w => ∃ c, isNameStart c = true ∧ ['<', '?', c] <+: w
  | .pragma, w => ['(', '#'] <+: w
  | .string, w => ∃ d : Delimiter, [d.char] <+: w

/-- A number up to the digits that its exponent lacks. -/
def NumberStub (w : List Char) : Prop :=
  ∃ dotted m mark sign, Mantissa dotted m ∧ (mark = 'e' ∨ mark = 'E') ∧
    (sign = [] ∨ sign = ['+'] ∨ sign = ['-']) ∧ w = m ++ mark :: sign

/-- An ampersand, characters of a reference behind it, and at most one semicolon. -/
def ReferenceLook (w : List Char) : Prop :=
  ∃ body close, w = '&' :: (body ++ close) ∧ (∀ c ∈ body, c = '#' ∨ c.isAlphanum = true) ∧
    (close = [] ∨ close = [';'])

/-- No reference begins here. -/
def Unreferenced (w : List Char) : Prop :=
  ∀ p, EntityRef p ∨ CharRef p → ¬ p <+: w

end Grammar

open Grammar

/-- What must hold of the text ahead for the fault to be the right one. That the found character
stands where it is said to stand is not repeated here. -/
def Fault.Explained (m : Mode) (input : List Char) : Fault → Prop
  | .noViable _ found => isBlank found = false
  | .unterminated .pragma => m.pragma = true
  | .unterminated construct => Opens construct input
  | .malformedNumber length => ∃ w r, input = w ++ r ∧ length = w.length ∧ NumberStub w ∧
      ∀ c ∈ r.head?, isDigit c = false
  | .malformedReference ahead length => ∃ u w r, input = u ++ (w ++ r) ∧ ahead = u.length ∧
      length = w.length ∧ ReferenceLook w ∧ Unreferenced (w ++ r)

/-- A fault is explained by the text ahead; nothing is asked of other steps. -/
def Step.Explained (m : Mode) (input : List Char) : Step → Prop
  | .fault cause => cause.Explained m input
  | _ => True

namespace Scan

variable {m : Mode} {input : List Char} {s : Step}

/-! ### Markup and pragmas -/

theorem symbolAmong_explained {table : List (List Char × Symbol)}
    (h : symbolAmong table input = some s) : s.Explained m input := by
  obtain ⟨entry, -, rfl⟩ := Option.map_eq_some_iff.mp h
  trivial

theorem commentRule_explained (h : commentRule m input = some s) : s.Explained m input := by
  unfold commentRule at h
  split at h
  · next r =>
      have taken := Option.some.inj (Option.ite_none_left_eq_some.mp h).2
      split at taken
      · subst taken
        trivial
      · subst taken
        exact ⟨r, rfl⟩
  · contradiction

theorem xmlCommentRest_explained (opens : Opens .xmlComment input) (read : Nat) (r : List Char) :
    (xmlCommentRest read r).Explained m input := by
  fun_induction xmlCommentRest read r with
  | case1 => trivial
  | case2 => exact (by decide : isBlank '-' = false)
  | case3 _ _ _ _ _ ih => exact ih
  | case4 => exact opens

theorem xmlCommentRule_explained (h : xmlCommentRule m input = some s) : s.Explained m input := by
  unfold xmlCommentRule at h
  split at h
  · next r =>
      cases h
      exact xmlCommentRest_explained ⟨r, rfl⟩ 4 r
  · contradiction

theorem cdataRule_explained (h : cdataRule m input = some s) : s.Explained m input := by
  unfold cdataRule at h
  split at h
  · next r =>
      cases h
      split
      · trivial
      · exact ⟨r, rfl⟩
  · contradiction

theorem instructionRest_explained (opens : Opens .instruction input) (read : Nat) (r : List Char) :
    (instructionRest read r).Explained m input := by
  unfold instructionRest
  split
  · trivial
  · exact opens
  · split
    · split
      · trivial
      · exact opens
    · next solid => exact Bool.eq_false_iff.mpr solid

theorem instructionRule_explained (h : instructionRule m input = some s) :
    s.Explained m input := by
  unfold instructionRule at h
  split at h
  · next c r =>
      obtain ⟨start, taken⟩ := Option.ite_none_right_eq_some.mp h
      cases taken
      exact instructionRest_explained ⟨c, start, r, rfl⟩ _ _
  · contradiction

theorem pragmaEndRule_explained (h : pragmaEndRule m input = some s) : s.Explained m input := by
  unfold pragmaEndRule at h
  split at h
  · obtain ⟨inside, taken⟩ := Option.ite_none_right_eq_some.mp h
    cases taken
    unfold pragmaEnd
    split
    · trivial
    · exact isBlank_hash
    · split
      · trivial
      · exact (Bool.and_eq_true _ _ ▸ inside).1
  · contradiction

/-! ### Numbers -/

theorem head?_not_of_run_eq_zero {p : Char → Bool} {r : List Char} (h : run p r = 0) :
    ∀ c ∈ r.head?, p c = false := by
  intro c head
  obtain ⟨t, rfl⟩ := List.head?_eq_some_iff.mp head
  rw [Bool.eq_false_iff]
  intro holds
  rw [run_cons_of_pos t holds] at h
  contradiction

theorem number_explained (starts : startsNumber input = true) :
    (number input).Explained m input := by
  obtain ⟨w, r, split, length, valid⟩ := mantissa_split starts
  rw [number_eq split (Prod.ext length rfl)]
  rcases numberRest_cases w.length (mantissa input).2 r with found | ⟨mark, t, rfl, exponent, found⟩
  · rw [found]
    trivial
  · rw [found]
    obtain ⟨sign, u, rfl, signed, form, -⟩ := signLength_split t
    simp only [exponentRest, signed, List.drop_left]
    split
    · next none =>
        refine ⟨w ++ mark :: sign, u, by simp [split], ?_, ?_, head?_not_of_run_eq_zero none⟩
        · simp only [List.length_append, List.length_cons]
          omega
        · exact ⟨_, w, mark, sign, valid, by simpa [isExponentMark] using exponent, form, rfl⟩
    · trivial

/-! ### References -/

/-- A reference is found exactly where one begins. -/
theorem reference?_eq_none_iff : reference? input = none ↔ Unreferenced input := by
  constructor
  · rintro missing p form ⟨r, rfl⟩
    obtain ⟨k, valid⟩ := exists_reference form
    rw [reference?_append valid r] at missing
    contradiction
  · intro none
    cases found : reference? input with
    | none => rfl
    | some given =>
        obtain ⟨w, r, split, -, valid⟩ := reference?_split found
        exact absurd ⟨r, split.symm⟩ (none w valid.form)

theorem referenceLook_split (behind : List Char) :
    ∃ w r, '&' :: behind = w ++ r ∧ referenceLook behind = w.length ∧ ReferenceLook w := by
  obtain ⟨body, t, rfl, length, all, -⟩ :=
    run_split (fun c => c == '#' || c.isAlphanum) behind
  have letters : ∀ c ∈ body, c = '#' ∨ c.isAlphanum = true := by
    intro c member
    simpa using all c member
  simp only [referenceLook, length, List.drop_left]
  split
  · next closed =>
      obtain ⟨r, rfl⟩ := List.head?_eq_some_iff.mp closed
      refine ⟨'&' :: (body ++ [';']), r, by simp, ?_, body, [';'], rfl, letters, .inr rfl⟩
      simp only [List.length_cons, List.length_append, List.length_nil]
      omega
  · refine ⟨'&' :: body, t, rfl, ?_, body, [], by simp, letters, .inl rfl⟩
    simp only [List.length_cons]
    omega

/-- An ampersand behind `u` that opens no reference explains its fault. -/
theorem malformedReference_explained (u : List Char) {r : List Char}
    (missing : reference? ('&' :: r) = none) :
    (Fault.malformedReference u.length (referenceLook r)).Explained m (u ++ '&' :: r) := by
  obtain ⟨w, t, split, length, look⟩ := referenceLook_split r
  refine ⟨u, w, t, by rw [split], rfl, length, look, ?_⟩
  rw [← split]
  exact reference?_eq_none_iff.mp missing

theorem reference_explained (r : List Char) : (reference ('&' :: r)).Explained m ('&' :: r) := by
  unfold reference
  split
  · trivial
  · next missing => exact malformedReference_explained (m := m) [] missing

/-- The characters read so far are kept, since a fault counts them. -/
theorem stringRest_explained {d : Char} {read : Nat} {r : List Char} (u : List Char)
    (length : read = u.length) (opens : Opens .string (u ++ r)) :
    (stringRest d read r).Explained m (u ++ r) := by
  fun_induction stringRest d read r generalizing u with
  | case1 => exact opens
  | case2 read s ih =>
      rw [show u ++ d :: d :: s = u ++ [d, d] ++ s by simp] at opens ⊢
      exact ih _ (by simp [length]) opens
  | case3 | case4 => trivial
  | case5 read r amp k n found ih =>
      obtain ⟨p, t, split, rfl, valid⟩ := reference?_split found
      obtain ⟨q, rfl⟩ := reference_cons valid.form
      obtain rfl : r = q ++ t := (List.cons.inj split).2
      rw [List.length_cons, Nat.add_sub_cancel, List.drop_left] at ih
      rw [show u ++ '&' :: (q ++ t) = u ++ '&' :: q ++ t by simp] at opens ⊢
      simp only [List.length_cons, Nat.add_sub_cancel, List.drop_left]
      exact ih _ (by simp [length]) opens
  | case6 read r amp missing =>
      subst length
      exact malformedReference_explained (m := m) u missing
  | case7 read c r quote amp ih =>
      rw [show u ++ c :: r = u ++ [c] ++ r by simp] at opens ⊢
      exact ih _ (by simp [length]) opens

theorem stringRule_explained (h : stringRule m input = some s) : s.Explained m input := by
  unfold stringRule at h
  split at h
  · next c r =>
      obtain ⟨opens, taken⟩ := Option.ite_none_right_eq_some.mp h
      cases taken
      simp only [Bool.and_eq_true, Option.isSome_iff_exists] at opens
      obtain ⟨⟨⟨d, found⟩, -⟩, -⟩ := opens
      exact stringRest_explained [c] rfl ⟨d, r, by rw [delimiter_of_ofChar? found]⟩
  · contradiction

theorem runOf_explained {kind : Kind} {p : Char → Bool} (h : runOf kind p input = some s) :
    s.Explained m input := by
  simp only [runOf] at h
  obtain ⟨-, taken⟩ := Option.ite_none_left_eq_some.mp h
  cases taken
  trivial

theorem attributeRule_explained (h : attributeRule m input = some s) : s.Explained m input := by
  unfold attributeRule at h
  split at h
  · split at h
    · next amp =>
        cases h
        subst amp
        exact reference_explained _
    · exact runOf_explained h
  · contradiction

theorem elementRule_explained (h : elementRule m input = some s) : s.Explained m input := by
  unfold elementRule at h
  split at h
  · split at h
    · next amp =>
        cases h
        subst amp
        exact reference_explained _
    · exact runOf_explained h
  · contradiction

/-! ### All rules -/

/-- Some rules give tokens or pass over, and never fail. -/
theorem soundRule_explained {rule : Rule}
    (member : rule ∈ [attributeEscapeRule, pragmaStartRule, quoteRule, blankRule, nameRule])
    (h : rule m input = some s) : s.Explained m input := by
  simp only [List.mem_cons, List.not_mem_nil, or_false] at member
  rcases member with rfl | rfl | rfl | rfl | rfl
  · unfold attributeEscapeRule at h
    split at h
    · obtain ⟨-, taken⟩ := Option.ite_none_right_eq_some.mp h
      cases taken
      trivial
    · contradiction
  · unfold pragmaStartRule at h
    split at h
    · obtain ⟨-, taken⟩ := Option.ite_none_left_eq_some.mp h
      cases taken
      trivial
    · contradiction
  · unfold quoteRule at h
    split at h
    · obtain ⟨-, found⟩ := Option.ite_none_left_eq_some.mp h
      obtain ⟨d, -, rfl⟩ := Option.map_eq_some_iff.mp found
      trivial
    · contradiction
  · unfold blankRule at h
    split at h
    · obtain ⟨-, taken⟩ := Option.ite_none_right_eq_some.mp h
      cases taken
      split <;> trivial
    · contradiction
  · unfold nameRule at h
    split at h
    · obtain ⟨-, taken⟩ := Option.ite_none_right_eq_some.mp h
      cases taken
      trivial
    · contradiction

theorem rule_explained {rule : Rule} (member : rule ∈ rules) (h : rule m input = some s) :
    s.Explained m input := by
  simp only [rules, List.mem_cons, List.not_mem_nil, or_false] at member
  rcases member with rfl | rfl | rfl | rfl | rfl | rfl | rfl | rfl | rfl | rfl | rfl | rfl | rfl |
    rfl | rfl | rfl | rfl | rfl | rfl | rfl | rfl
  · exact symbolAmong_explained h
  · exact commentRule_explained h
  · exact xmlCommentRule_explained h
  · exact cdataRule_explained h
  · obtain ⟨starts, taken⟩ := Option.ite_none_right_eq_some.mp h
    cases taken
    exact number_explained (Bool.and_eq_true _ _ ▸ starts).2
  · exact symbolAmong_explained (Option.ite_none_left_eq_some.mp h).2
  · exact symbolAmong_explained (Option.ite_none_left_eq_some.mp h).2
  · exact instructionRule_explained h
  · exact symbolAmong_explained h
  · exact soundRule_explained (by simp) h
  · exact stringRule_explained h
  · exact symbolAmong_explained (Option.ite_none_left_eq_some.mp h).2
  · exact soundRule_explained (by simp) h
  · exact pragmaEndRule_explained h
  · exact symbolAmong_explained h
  · exact attributeRule_explained h
  · exact soundRule_explained (by simp) h
  · exact elementRule_explained h
  · exact soundRule_explained (by simp) h
  · exact soundRule_explained (by simp) h
  · exact symbolAmong_explained h

/-- Before a blank one of two rules applies, whatever the mode. -/
theorem not_isBlank_of_none {c : Char} {r : List Char}
    (none : ∀ rule ∈ rules, rule m (c :: r) = none) : isBlank c = false := by
  rw [Bool.eq_false_iff]
  intro blank
  have stop := none pragmaEndRule (by simp [rules])
  have skip := none blankRule (by simp [rules])
  cases inside : m.pragma with
  | true => simp [pragmaEndRule, inside, blank] at stop
  | false => simp [blankRule, inside, blank] at skip

/-- Every fault is explained by the text ahead, in every mode. -/
theorem step_explained (m : Mode) (input : List Char) : (step m input).Explained m input := by
  cases input with
  | nil =>
      simp only [step, endStep]
      split
      · next inside => exact inside
      · trivial
  | cons c r =>
      rw [step_cons]
      rcases firstOf_cases rules m c r with ⟨rule, member, fires⟩ | ⟨fault, none⟩
      · exact rule_explained member fires
      · rw [fault]
        exact not_isBlank_of_none none

end Scan

/-! ### Errors -/

/-- What the error says holds of the source. An unexpected character is all of its span and no
blank. A construct is open from its first mark to the end. A number stops where the digits of its
exponent are missing. A reference is looked at as far as it could be one, and is none. -/
def LexError.Truthful (source : String) : LexError → Prop
  | .noViableToken found span =>
    span.text? source = some (String.singleton found) ∧ isBlank found = false
  | .unterminated construct span =>
    span.stop = source.utf8ByteSize ∧
      ∃ ahead, Text.slice? source.toList span.start source.utf8ByteSize = some ahead ∧
        Opens construct ahead
  | .malformedNumber text span =>
    span.text? source = some text ∧ NumberStub text.toList ∧
      ∃ ahead, Text.slice? source.toList span.stop source.utf8ByteSize = some ahead ∧
        ∀ c ∈ ahead.head?, isDigit c = false
  | .malformedReference span =>
    ∃ look ahead, Text.slice? source.toList span.start span.stop = some look ∧
      Text.slice? source.toList span.start source.utf8ByteSize = some ahead ∧
      ReferenceLook look ∧ Unreferenced ahead

/-- A pragma opens at the place. -/
def Place.OpensPragma (source : String) (p : Place) : Prop :=
  ∃ ahead, Text.slice? source.toList p.offset source.utf8ByteSize = some ahead ∧
    Opens .pragma ahead

namespace Cursor.In

variable {source : String} {c : Cursor}

theorem slice_ahead (h : c.In source.toList) :
    Text.slice? source.toList c.place.offset source.utf8ByteSize = some c.rest := by
  have whole := h.slice_end
  rwa [Text.byteLength_eq, String.ofList_toList] at whole

/-- The span of the next `n` characters holds them. -/
theorem span_text (h : c.In source.toList) (n : Nat) :
    (c.place.upTo (c.forward n).place.offset).text? source =
      some (String.ofList (c.rest.take n)) := by
  rw [Span.text?]
  exact congrArg (Option.map String.ofList) (h.slice n)

end Cursor.In

namespace Fault

variable {source : String} {m : Mode} {c : Cursor} {pragma : Option Place}

theorem locate_noViable (placed : c.In source.toList) {ahead : Nat} {found : Char}
    (h : Scan.step m c.rest = .fault (.noViable ahead found))
    (solid : isBlank found = false) :
    ((Fault.noViable ahead found).locate c pragma).Truthful source := by
  have here := placed.forward ahead
  have next : (c.forward ahead).rest.take 1 = [found] := by
    rw [Cursor.forward_rest, List.take_one, List.head?_drop, Scan.found_ahead h]
    rfl
  have stop : ((c.forward ahead).forward 1).place.offset =
      (c.forward ahead).place.offset + found.utf8Size := by
    rw [Cursor.forward_place _ 1, next, Place.after_cons, Place.after_nil, Place.offset_step]
  have text := here.span_text 1
  rw [stop, next] at text
  exact ⟨text, solid⟩

theorem locate_malformedNumber (placed : c.In source.toList) {length : Nat}
    (h : (Fault.malformedNumber length).Explained m c.rest) :
    ((Fault.malformedNumber length).locate c pragma).Truthful source := by
  obtain ⟨w, r, split, rfl, stub, stop⟩ := h
  have read : c.rest.take w.length = w := by rw [split, List.take_left]
  have left : (c.forward w.length).rest = r := by
    rw [Cursor.forward_rest, split, List.drop_left]
  refine ⟨placed.span_text w.length, ?_, r, ?_, stop⟩
  · rwa [read, String.toList_ofList]
  · rw [← left]
    exact (placed.forward w.length).slice_ahead

theorem locate_malformedReference (placed : c.In source.toList) {ahead length : Nat}
    (h : (Fault.malformedReference ahead length).Explained m c.rest) :
    ((Fault.malformedReference ahead length).locate c pragma).Truthful source := by
  obtain ⟨u, w, r, split, rfl, rfl, look, missing⟩ := h
  have here := placed.forward u.length
  have left : (c.forward u.length).rest = w ++ r := by
    rw [Cursor.forward_rest, split, List.drop_left]
  refine ⟨w, w ++ r, ?_, ?_, look, missing⟩
  · refine (here.slice w.length).trans ?_
    rw [left, List.take_left]
  · rw [← left]
    exact here.slice_ahead

/-- The error of a fault that a step finds at the cursor is truthful, when the start of an open
pragma is known. -/
theorem locate_truthful {cause : Fault} (placed : c.In source.toList)
    (opened : m.pragma = true → ∃ p, pragma = some p ∧ p.OpensPragma source)
    (h : Scan.step m c.rest = .fault cause) : (cause.locate c pragma).Truthful source := by
  have explained := Scan.step_explained m c.rest
  rw [h] at explained
  cases cause with
  | noViable ahead found => exact locate_noViable placed h explained
  | malformedNumber length => exact locate_malformedNumber (m := m) placed explained
  | malformedReference ahead length => exact locate_malformedReference (m := m) placed explained
  | unterminated construct =>
      refine ⟨placed.offset_end, ?_⟩
      by_cases open' : construct = .pragma
      · subst open'
        obtain ⟨p, rfl, opens⟩ := opened explained
        exact opens
      · have opens : Opens construct c.rest := by
          cases construct with
          | pragma => contradiction
          | comment | xmlComment | cdata | instruction | string => exact explained
        rw [if_neg open']
        exact ⟨c.rest, placed.slice_ahead, opens⟩

end Fault

/-! ### Sessions -/

namespace Scanner

/-- The start of an open pragma is known, and what has failed was told truthfully. -/
structure Informed (source : String) (s : Scanner) : Prop where
  cursor : s.cursor.In source.toList
  pragma : s.mode.pragma = true → ∃ p, s.pragmaStart = some p ∧ p.OpensPragma source
  failure : ∀ e ∈ s.failure, e.Truthful source

theorem informed_ofText (source : String) {m : Mode} (outside : m.pragma = false) :
    (Scanner.ofText source m).Informed source := by
  refine ⟨.ofText source, ?_, nofun⟩
  intro inside
  rw [show (Scanner.ofText source m).mode.pragma = false from outside] at inside
  contradiction

theorem Gives.opensPragma {source : String} {s s' : Scanner} {gap : List Char} {t : Token}
    (h : s.Gives gap t s') (placed : s.cursor.In source.toList) (kind : t.kind = .pragmaStart) :
    (s.cursor.forward gap.length).place.OpensPragma source := by
  have lexeme := h.lexeme
  rw [kind] at lexeme
  obtain ⟨blanks, -, text⟩ := lexeme
  refine ⟨_, (placed.forward gap.length).slice_ahead, ?_⟩
  refine List.IsPrefix.trans ?_ h.text
  rw [text]
  exact ⟨blanks, rfl⟩

theorem next_informed {source : String} {s : Scanner} (h : s.Informed source) :
    s.next.2.Informed source := by
  rcases next_cases s with ⟨e, -, same⟩ | ⟨-, gap, t, s', gives, same⟩ |
    ⟨-, gap, cause, e, s', fails, same⟩
  · rw [same]
    exact h
  · rw [same, gives.after]
    refine ⟨(h.cursor.forward _).forward _, ?_, h.failure⟩
    intro inside
    simp only [Mode.pragma_onToken] at inside
    unfold pragmaBehind
    split
    · next kind => exact ⟨_, rfl, gives.opensPragma h.cursor kind⟩
    · next kind => simp [kind] at inside
    · next start stop =>
        rw [if_neg start, if_neg stop] at inside
        exact h.pragma inside
  · rw [same, fails.after]
    refine ⟨(h.cursor.forward _).forward _, h.pragma, ?_⟩
    intro e' again
    cases again
    rw [fails.error]
    exact Fault.locate_truthful (h.cursor.forward _) h.pragma fails.found

theorem Informed.reply {source : String} {s s' : Scanner} {a : Action} {answer : Answer}
    (h : s.Informed source) (reply : s.Reply a answer s') : s'.Informed source := by
  refine reply.keeps ?_ ?_ ?_ h
  · intro s h
    exact next_informed h
  · intro s what h
    exact ⟨h.cursor, fun inside => h.pragma ((s.mode.pragma_change what).symm.trans inside),
      h.failure⟩
  · intro s spent log h
    exact ⟨h.cursor, h.pragma, h.failure⟩

/-- From outside a pragma every error of a session says the truth about the source. -/
theorem session_truthful (source : String) (m : Mode) (outside : m.pragma = false)
    (actions : List Action) :
    ∀ r ∈ (Scanner.ofText source m).session actions, ∀ e, r.1.error? = some e →
      e.Truthful source := by
  refine forall_session ?_ (informed_ofText source outside) actions
  intro s a r informed reply
  have kept := informed.reply reply
  refine ⟨kept, ?_⟩
  intro e given
  exact kept.failure e (reply.failure_of_error given)

/-- An open pragma is blamed from its start, which is behind the cursor. -/
theorem session_truthful_pragma :
    ∃ r ∈ (Scanner.ofText "\n(# ").session [.next, .next],
      r.1.error? = some (.unterminated .pragma ⟨1, 4, 2, 1⟩) ∧
        LexError.Truthful "\n(# " (.unterminated .pragma ⟨1, 4, 2, 1⟩) := by
  have start := next_of_token (s := Scanner.ofText "\n(# ") rfl
    ((settle_of_skip rfl).trans (settle_of_token rfl))
  have stop := next_of_fault (s := (Scanner.ofText "\n(# ").next.2) (by rw [start]; rfl)
    (by rw [start]; exact settle_of_fault rfl)
  have member : (Answer.token (Scanner.ofText "\n(# ").next.2.next.1,
      (Scanner.ofText "\n(# ").next.2.next.2) ∈
        (Scanner.ofText "\n(# ").session [.next, .next] :=
    List.mem_cons_of_mem _ List.mem_cons_self
  have error : (Answer.token (Scanner.ofText "\n(# ").next.2.next.1).error? =
      some (.unterminated .pragma ⟨1, 4, 2, 1⟩) := by
    rw [stop, start]
    rfl
  exact ⟨_, member, error, session_truthful "\n(# " {} rfl _ _ member _ error⟩

end Scanner

end QueryScan
