import QueryScan.Proofs.Dispatch
import QueryScan.Proofs.RuleSoundness

/-! Where tokens end. A token stays what it is when the text behind it is cut off, or replaced by one
that starts with a blank or a parenthesis: its own rule reads the same text, and no rule before it
comes to apply. This is shown rule by rule, so it holds in every mode. -/
namespace QueryScan

open Grammar
open Unicode
open Text (run)

/-- The kinds whose texts may go on with blanks or parentheses. -/
def Kind.runsOn : Kind → Bool
  | .blank | .pragmaStart | .elementText | .attributeText => true
  | _ => false

namespace Scan

/-- The characters that can open a gap. -/
def fences : List Char :=
  [' ', '\t', '\n', '\r', '(']

/-- Nothing, or a text that starts like a gap. -/
def Fence (f : List Char) : Prop :=
  ∀ c ∈ f.head?, c ∈ fences

/-- No token of kind `k` goes on into `f`. -/
structure Follows (k : Kind) (f : List Char) : Prop where
  fence : Fence f
  alone : k.runsOn = true → f = []

theorem follows_nil (k : Kind) : Follows k [] :=
  ⟨nofun, fun _ => rfl⟩

theorem Fence.stop {f : List Char} {p : Char → Bool} (fence : Fence f)
    (none : fences.any p = false) : run p f = 0 := by
  cases f with
  | nil => rfl
  | cons c f =>
      have here : p c = false := by simpa using List.any_eq_false.mp none c (fence c rfl)
      exact Text.run_cons_of_neg f here

/-- The mark has no character that can open a gap, but for the first. -/
def Solid (mark : List Char) : Prop :=
  ∀ c ∈ mark.tail, c ∉ fences

instance (mark : List Char) : Decidable (Solid mark) :=
  List.decidableBAll (· ∉ fences) mark.tail

/-- A mark that starts in front of a fence ends there. -/
theorem Solid.prefix_of_append {mark w f : List Char} (solid : Solid mark) (ne : w ≠ [])
    (fence : Fence f) (h : mark <+: w ++ f) : mark <+: w := by
  rcases List.prefix_or_prefix_of_prefix h (List.prefix_append w f) with inside | ⟨t, rfl⟩
  · exact inside
  · have behind : t <+: f := (List.prefix_append_right_inj w).mp h
    cases t with
    | nil => simp only [List.append_nil, List.prefix_rfl]
    | cons c t =>
        obtain ⟨u, rfl⟩ := behind
        obtain ⟨x, v, rfl⟩ := List.exists_cons_of_ne_nil ne
        exact absurd (fence c rfl) (solid c (by simp))

/-- Behind a text of at least one character a fence changes nothing: what applies there applies
whatever follows, and a token that ends there ends there in front of every fence. -/
structure Local (rule : Rule) : Prop where
  applies : ∀ {m : Mode} {w f : List Char} (r : List Char), w ≠ [] → Fence f →
    (rule m (w ++ f)).isSome = true → (rule m (w ++ r)).isSome = true
  token : ∀ {m : Mode} {w r f : List Char} {k : Kind}, w ≠ [] →
    rule m (w ++ r) = some (.token k w.length) → Lexeme m k w → Follows k f →
      rule m (w ++ f) = some (.token k w.length)

/-- A rule that is chosen by one mark, where it is not switched off. -/
theorem applies_of_mark {rule : Rule} (off : Mode → Bool) (mark : List Char) (solid : Solid mark)
    (hit : ∀ m t, (rule m (mark ++ t)).isSome = !off m)
    (miss : ∀ m input, ¬ mark <+: input → rule m input = none)
    {m : Mode} {w f : List Char} (r : List Char) (ne : w ≠ []) (fence : Fence f)
    (h : (rule m (w ++ f)).isSome = true) : (rule m (w ++ r)).isSome = true := by
  by_cases start : mark <+: w ++ f
  · obtain ⟨t, rfl⟩ := solid.prefix_of_append ne fence start
    rw [List.append_assoc, hit] at h ⊢
    exact h
  · rw [miss m _ start] at h
    contradiction

/-! ### Symbols -/

theorem isSome_symbolAmong {table : List (List Char × Symbol)} {input : List Char} :
    (symbolAmong table input).isSome = true ↔ ∃ entry ∈ table, entry.1 <+: input := by
  simp only [symbolAmong, Option.isSome_map, List.find?_isSome, List.isPrefixOf_iff_prefix]

theorem symbolAmong_cut {table : List (List Char × Symbol)} {w r f : List Char} {k : Kind}
    (solid : ∀ entry ∈ table, Solid entry.1) (ne : w ≠ []) (fence : Fence f)
    (h : symbolAmong table (w ++ r) = some (.token k w.length)) :
    symbolAmong table (w ++ f) = some (.token k w.length) := by
  obtain ⟨entry, found, same⟩ := Option.map_eq_some_iff.mp h
  obtain ⟨start, before, behind, rfl, earlier⟩ := List.find?_eq_some_iff_append.mp found
  obtain ⟨rfl, length⟩ := Step.token.inj same
  have text : entry.1 = w :=
    (List.prefix_of_prefix_length_le (List.isPrefixOf_iff_prefix.mp start)
      (List.prefix_append w r) (Nat.le_of_eq length)).eq_of_length length
  have again : (before ++ entry :: behind).find? (fun e => e.1.isPrefixOf (w ++ f)) =
      some entry := by
    refine List.find?_eq_some_iff_append.mpr ⟨?_, before, behind, rfl, ?_⟩
    · rw [text]
      exact List.isPrefixOf_iff_prefix.mpr (List.prefix_append w f)
    · intro e member
      have missed := earlier e member
      simp only [Bool.not_eq_true', Bool.eq_false_iff, ne_eq, List.isPrefixOf_iff_prefix]
        at missed ⊢
      intro now
      have inside := (solid e (List.mem_append_left _ member)).prefix_of_append ne fence now
      exact missed (inside.trans (List.prefix_append w r))
  rw [symbolAmong, again, Option.map_some, length]

theorem local_symbols {rule : Rule} (off : Mode → Bool) (table : List (List Char × Symbol))
    (same : ∀ m input, rule m input = if off m then none else symbolAmong table input)
    (solid : ∀ entry ∈ table, Solid entry.1) : Local rule := by
  constructor
  · intro m w f r ne fence h
    rw [same] at h ⊢
    cases gate : off m with
    | true => simp [gate] at h
    | false =>
        simp only [gate, Bool.false_eq_true, if_false, isSome_symbolAmong] at h ⊢
        obtain ⟨entry, member, start⟩ := h
        have inside := (solid entry member).prefix_of_append ne fence start
        exact ⟨entry, member, inside.trans (List.prefix_append w r)⟩
  · intro m w r f k ne h _ follows
    rw [same] at h ⊢
    obtain ⟨on, h⟩ := Option.ite_none_left_eq_some.mp h
    rw [if_neg on]
    exact symbolAmong_cut solid ne follows.fence h

/-! ### Comments, markup and pragmas -/

theorem local_comment : Local commentRule := by
  constructor
  · refine applies_of_mark Mode.inContent ['(', ':'] (by decide) ?_ ?_
    · intro m t
      cases content : m.inContent <;> simp [commentRule, content]
    · intro m input none
      unfold commentRule
      split
      · next t => exact absurd ⟨t, rfl⟩ none
      · rfl
  · -- A comment is passed over, so it gives no token.
    intro m w r f k _ h
    unfold commentRule at h
    split at h
    · have token := Option.some.inj (Option.ite_none_left_eq_some.mp h).2
      split at token <;> cases token
    · contradiction

theorem local_xmlComment : Local xmlCommentRule := by
  constructor
  · refine applies_of_mark (fun _ => false) ['<', '!', '-', '-'] (by decide) ?_ ?_
    · intro m t
      rfl
    · intro m input none
      unfold xmlCommentRule
      split
      · next t => exact absurd ⟨t, rfl⟩ none
      · rfl
  · intro m w r f k _ h lexeme _
    unfold xmlCommentRule at h
    split at h
    · obtain ⟨rfl, -⟩ := xmlCommentRest_split (Option.some.inj h)
      exact xmlCommentRule_append m lexeme f
    · contradiction

theorem local_cdata : Local cdataRule := by
  constructor
  · refine applies_of_mark (fun _ => false)
      ['<', '!', '[', 'C', 'D', 'A', 'T', 'A', '['] (by decide) ?_ ?_
    · intro m t
      rfl
    · intro m input none
      unfold cdataRule
      split
      · next t => exact absurd ⟨t, rfl⟩ none
      · rfl
  · intro m w r f k _ h lexeme _
    unfold cdataRule at h
    split at h
    · have token := Option.some.inj h
      split at token
      · obtain ⟨rfl, -⟩ := Step.token.inj token
        exact cdataRule_append m lexeme f
      · cases token
    · contradiction

theorem instructionRest_kind {read n : Nat} {input : List Char} {k : Kind}
    (h : instructionRest read input = .token k n) : k = .instruction := by
  rcases instructionRest_cases read input with
    ⟨_, found⟩ | ⟨_, -, found⟩ | ⟨_, _, _, -, -, -, found⟩
  · rw [found] at h; cases h
  · rw [found] at h; cases h; rfl
  · rw [found] at h; cases h; rfl

theorem local_instruction : Local instructionRule := by
  constructor
  · intro m w f r ne fence h
    unfold instructionRule at h
    split at h
    · next c t same =>
        -- The mark has a third character, any that starts a name; a fence has none of them.
        obtain ⟨start, -⟩ := Option.ite_none_right_eq_some.mp (Option.some_get h).symm
        have foreign : c ∉ fences := by
          intro member
          have signs : fences.all isSign = true := by decide
          rw [isNameStart_of_isSign (List.all_eq_true.mp signs c member)] at start
          contradiction
        have solid : Solid ['<', '?', c] := by
          intro x member
          rcases List.mem_cons.mp member with rfl | last
          · decide
          · rwa [List.mem_singleton.mp last]
        obtain ⟨u, rfl⟩ := solid.prefix_of_append ne fence ⟨t, same.symm⟩
        simp [instructionRule, start]
    · contradiction
  · intro m w r f k _ h lexeme _
    unfold instructionRule at h
    split at h
    · obtain ⟨-, h⟩ := Option.ite_none_right_eq_some.mp h
      obtain rfl := instructionRest_kind (Option.some.inj h)
      exact instructionRule_append m lexeme f
    · contradiction

theorem local_pragmaStart : Local pragmaStartRule := by
  constructor
  · refine applies_of_mark Mode.inContent ['(', '#'] (by decide) ?_ ?_
    · intro m t
      cases content : m.inContent <;> simp [pragmaStartRule, content]
    · intro m input none
      unfold pragmaStartRule
      split
      · next t => exact absurd ⟨t, rfl⟩ none
      · rfl
  · intro m w r f k _ h lexeme follows
    unfold pragmaStartRule at h
    split at h
    · obtain ⟨outside, h⟩ := Option.ite_none_left_eq_some.mp h
      obtain ⟨rfl, -⟩ := Step.token.inj (Option.some.inj h)
      obtain ⟨blanks, all, rfl⟩ := lexeme
      have whole := Text.run_append [] all
      rw [List.append_nil] at whole
      rw [follows.alone rfl, List.append_nil, pragmaStartRule, if_neg outside, whole,
        List.length_cons, List.length_cons, Nat.add_comm]
      rfl
    · contradiction

theorem pragmaEnd_kind {input : List Char} {k : Kind} {n : Nat}
    (h : pragmaEnd input = .token k n) : k = .pragmaEnd := by
  unfold pragmaEnd at h
  split at h
  · cases h; rfl
  · cases h
  · split at h
    · cases h; rfl
    · cases h

theorem local_pragmaEnd : Local pragmaEndRule := by
  constructor
  · intro m w f r ne _ h
    obtain ⟨c, t, rfl⟩ := List.exists_cons_of_ne_nil ne
    simpa [pragmaEndRule] using h
  · intro m w r f k ne h lexeme _
    obtain ⟨c, t, rfl⟩ := List.exists_cons_of_ne_nil ne
    obtain ⟨inside, h⟩ := Option.ite_none_right_eq_some.mp h
    obtain rfl := pragmaEnd_kind (Option.some.inj h)
    rw [List.cons_append, pragmaEndRule, if_pos inside, ← List.cons_append,
      pragmaEnd_append lexeme f]

/-! ### Numbers and names -/

theorem startsNumber_of_fence {w f : List Char} (r : List Char) (ne : w ≠ []) (fence : Fence f)
    (h : startsNumber (w ++ f) = true) : startsNumber (w ++ r) = true := by
  obtain ⟨c, t, rfl⟩ := List.exists_cons_of_ne_nil ne
  rcases startsNumber_cases h with ⟨u, same, digits⟩ | ⟨dot, digits⟩
  · obtain ⟨rfl, rfl⟩ := List.cons.inj same
    -- Behind a leading dot the digit must be in the text, for a fence has none.
    cases t with
    | nil => exact absurd (fence.stop (by decide)) digits
    | cons d t =>
        cases digit : isDigit d with
        | true => exact digit
        | false => exact absurd (Text.run_cons_of_neg _ digit) digits
  · cases digit : isDigit c with
    | false => exact absurd (Text.run_cons_of_neg _ digit) digits
    | true =>
        have single : Mantissa false [c] := .whole ⟨List.cons_ne_nil c [], by simp [digit]⟩
        exact startsNumber_append single (t ++ r)

theorem local_number : Local numberRule := by
  constructor
  · intro m w f r ne fence h
    obtain ⟨starts, -⟩ := Option.ite_none_right_eq_some.mp (Option.some_get h).symm
    simp only [Bool.and_eq_true] at starts
    simp [numberRule, starts.1, startsNumber_of_fence r ne fence starts.2]
  · intro m w r f k ne h lexeme follows
    obtain ⟨starts, h⟩ := Option.ite_none_right_eq_some.mp h
    simp only [Bool.and_eq_true] at starts
    have stop : ∀ c ∈ f.head?, isDigit c = false ∧ c ≠ '.' ∧ isExponentMark c = false := by
      intro c head
      have none : fences.all (fun c => !isDigit c && c != '.' && !isExponentMark c) = true := by
        decide
      simpa [and_assoc] using List.all_eq_true.mp none c (follows.fence c head)
    rcases number_kind (Option.some.inj h) with rfl | rfl | rfl
    · have again : startsNumber (w ++ f) = true := startsNumber_append (b := false) lexeme f
      rw [numberRule, if_pos (by simp [starts.1, again]), number_append (b := false) lexeme stop]
      rfl
    · have again : startsNumber (w ++ f) = true := startsNumber_append (b := true) lexeme f
      rw [numberRule, if_pos (by simp [starts.1, again]), number_append (b := true) lexeme stop]
      rfl
    · have again : startsNumber (w ++ f) = true := by
        obtain ⟨b, v, mark, sign, digits, valid, -, -, -, rfl⟩ := id lexeme
        rw [List.append_assoc]
        exact startsNumber_append valid _
      rw [numberRule, if_pos (by simp [starts.1, again]), number_append_double lexeme f,
        follows.fence.stop (by decide), Nat.add_zero]

theorem local_name : Local nameRule := by
  constructor
  · intro m w f r ne _ h
    obtain ⟨c, t, rfl⟩ := List.exists_cons_of_ne_nil ne
    obtain ⟨start, -⟩ := Option.ite_none_right_eq_some.mp (Option.some_get h).symm
    simp [nameRule, start]
  · intro m w r f k ne h _ follows
    obtain ⟨c, t, rfl⟩ := List.exists_cons_of_ne_nil ne
    obtain ⟨start, h⟩ := Option.ite_none_right_eq_some.mp h
    obtain ⟨kind, length⟩ := Step.token.inj (Option.some.inj h)
    change 1 + run isNameChar (t ++ r) = _ at length
    have all : ∀ x ∈ t, isNameChar x = true := by
      refine Text.forall_of_run_append (r := r) ?_
      rw [List.length_cons] at length
      omega
    have again : 1 + run isNameChar (t ++ f) = (c :: t).length := by
      rw [Text.run_append f all, follows.fence.stop (by decide), Nat.add_zero, List.length_cons,
        Nat.add_comm]
    have text : (c :: (t ++ r)).take (c :: t).length = (c :: (t ++ f)).take (c :: t).length := by
      rw [← List.cons_append, ← List.cons_append, List.take_left, List.take_left]
    rw [List.cons_append, nameRule, if_pos start]
    dsimp only
    rw [again, ← text, ← length]
    exact congrArg (fun k => some (Step.token k _)) kind

/-! ### Blanks and quotes -/

theorem local_blank : Local blankRule := by
  constructor
  · intro m w f r ne _ h
    obtain ⟨c, t, rfl⟩ := List.exists_cons_of_ne_nil ne
    obtain ⟨here, -⟩ := Option.ite_none_right_eq_some.mp (Option.some_get h).symm
    simp only [List.cons_append, blankRule, if_pos here, Option.isSome_some]
  · intro m w r f k ne h _ follows
    obtain ⟨c, t, rfl⟩ := List.exists_cons_of_ne_nil ne
    obtain ⟨here, h⟩ := Option.ite_none_right_eq_some.mp h
    have token := Option.some.inj h
    split at token
    · next explicit =>
        obtain ⟨rfl, length⟩ := Step.token.inj token
        have whole : run isBlank (c :: t) = (c :: t).length := Text.run_of_run_append length
        rw [follows.alone rfl, List.append_nil, blankRule, if_pos here]
        dsimp only
        rw [if_pos explicit, whole]
    · cases token

theorem local_quote : Local quoteRule := by
  constructor
  · intro m w f r ne _ h
    obtain ⟨c, t, rfl⟩ := List.exists_cons_of_ne_nil ne
    exact h
  · intro m w r f k ne h _ _
    obtain ⟨c, t, rfl⟩ := List.exists_cons_of_ne_nil ne
    exact h

/-- A string ends at a delimiter with no second one behind it. -/
theorem stringRest_close {d : Char} {f : List Char} (read : Nat) (single : f.head? ≠ some d) :
    stringRest d read (d :: f) = .token .string (read + 1) := by
  rw [stringRest.eq_def]
  cases f with
  | nil => simp
  | cons e s =>
      have other : e ≠ d := by simpa using single
      simp [other]

theorem local_string : Local stringRule := by
  constructor
  · intro m w f r ne _ h
    obtain ⟨c, t, rfl⟩ := List.exists_cons_of_ne_nil ne
    obtain ⟨opens, -⟩ := Option.ite_none_right_eq_some.mp (Option.some_get h).symm
    simp only [List.cons_append, stringRule, if_pos opens, Option.isSome_some]
  · intro m w r f k ne h lexeme follows
    obtain ⟨c, t, rfl⟩ := List.exists_cons_of_ne_nil ne
    obtain ⟨opens, h⟩ := Option.ite_none_right_eq_some.mp h
    obtain ⟨rfl, -⟩ := stringRest_split (Option.some.inj h)
    obtain ⟨d, body, valid, same⟩ := lexeme
    obtain ⟨rfl, rfl⟩ := List.cons.inj same
    have single : f.head? ≠ some d.char := by
      intro head
      have other : d.char ∉ fences := by cases d <;> decide
      exact other (follows.fence d.char head)
    rw [List.cons_append, stringRule, if_pos opens, List.append_assoc,
      stringRest_append (delimiter_ne_amp d) valid, List.singleton_append,
      stringRest_close _ single]
    simp only [List.length_cons, List.length_append, List.length_nil]
    congr 2
    omega

theorem local_attributeEscape : Local attributeEscapeRule := by
  constructor
  · intro m w f r ne fence h
    unfold attributeEscapeRule at h
    split at h
    · next d a b t context same =>
        obtain ⟨⟨rfl, rfl⟩, -⟩ := Option.ite_none_right_eq_some.mp (Option.some_get h).symm
        have solid : Solid [d.char, d.char] := by cases d <;> decide
        obtain ⟨u, rfl⟩ := solid.prefix_of_append ne fence ⟨t, same.symm⟩
        simp [attributeEscapeRule, context]
    · contradiction
  · intro m w r f k _ h _ _
    unfold attributeEscapeRule at h
    split at h
    · next d a b t context same =>
        obtain ⟨double, h⟩ := Option.ite_none_right_eq_some.mp h
        obtain ⟨rfl, length⟩ := Step.token.inj (Option.some.inj h)
        obtain ⟨rfl, -⟩ : w = [a, b] ∧ r = t := List.append_inj same length.symm
        simp only [List.cons_append, List.nil_append, attributeEscapeRule, context, if_pos double]
        rfl
    · contradiction

/-! ### Character data -/

/-- References, or a run of `kind`: what the rules for content have in common. -/
def characterData (kind : Kind) (p : Char → Bool) (c : Char) (r : List Char) : Option Step :=
  if c = '&' then some (reference (c :: r)) else runOf kind p (c :: r)

theorem isSome_characterData {kind : Kind} {p : Char → Bool} {c : Char} (r : List Char) :
    (characterData kind p c r).isSome = true ↔ c = '&' ∨ p c = true := by
  unfold characterData
  split
  · next amp => simp [amp]
  · next plain =>
      cases member : p c with
      | true => simp [runOf_of_pos r member]
      | false => simp [runOf, Text.run_cons_of_neg r member, plain]

theorem reference_cut {w r : List Char} {k : Kind} (f : List Char)
    (h : reference (w ++ r) = .token k w.length) : reference (w ++ f) = .token k w.length := by
  unfold reference at h
  split at h
  · next kind n found =>
      obtain ⟨rfl, rfl⟩ := Step.token.inj h
      obtain ⟨v, t, split, length, valid⟩ := reference?_split found
      obtain ⟨rfl, -⟩ := List.append_inj split length
      rw [reference, reference?_append valid]
  · cases h

theorem characterData_cut {kind k : Kind} {p : Char → Bool} {c : Char} {t r f : List Char}
    (long : kind.runsOn = true)
    (h : characterData kind p c (t ++ r) = some (.token k (c :: t).length))
    (follows : Follows k f) :
    characterData kind p c (t ++ f) = some (.token k (c :: t).length) := by
  unfold characterData at h ⊢
  split at h
  · next amp =>
      rw [if_pos amp, ← List.cons_append, reference_cut f (Option.some.inj h)]
  · next plain =>
      simp only [runOf] at h
      split at h
      · contradiction
      · next some =>
          obtain ⟨rfl, length⟩ := Step.token.inj (Option.some.inj h)
          have whole : run p (c :: t) = (c :: t).length := Text.run_of_run_append length
          rw [if_neg plain, follows.alone long, List.append_nil, runOf, whole]
          rfl

theorem local_characterData {rule : Rule} (kind : Kind) (long : kind.runsOn = true)
    (plain? : Mode → Option (Char → Bool))
    (same : ∀ m c t, rule m (c :: t) = (plain? m).bind fun p => characterData kind p c t) :
    Local rule := by
  constructor
  · intro m w f r ne _ h
    obtain ⟨c, t, rfl⟩ := List.exists_cons_of_ne_nil ne
    rw [List.cons_append, same] at h ⊢
    cases content : plain? m with
    | none => simp [content] at h
    | some p =>
        rw [content, Option.bind_some, isSome_characterData] at h
        rw [Option.bind_some, isSome_characterData]
        exact h
  · intro m w r f k ne h _ follows
    obtain ⟨c, t, rfl⟩ := List.exists_cons_of_ne_nil ne
    rw [List.cons_append, same] at h ⊢
    obtain ⟨p, content, h⟩ := Option.bind_eq_some_iff.mp h
    rw [content, Option.bind_some]
    exact characterData_cut long h follows

/-- The characters of attribute text, inside an attribute. -/
def attributePlain? (m : Mode) : Option (Char → Bool) :=
  match m.context with
  | .attribute d => some fun x => x != d.char && isPlain x
  | _ => none

/-- The characters of element text, inside an element. -/
def elementPlain? (m : Mode) : Option (Char → Bool) :=
  match m.context with
  | .element => some isPlain
  | _ => none

theorem local_attribute : Local attributeRule := by
  refine local_characterData .attributeText rfl attributePlain? ?_
  intro m c t
  unfold attributePlain?
  cases context : m.context <;> (simp only [attributeRule, context]; rfl)

theorem local_element : Local elementRule := by
  refine local_characterData .elementText rfl elementPlain? ?_
  intro m c t
  unfold elementPlain?
  cases context : m.context <;> (simp only [elementRule, context]; rfl)

/-! ### Steps -/

theorem rule_local {rule : Rule} (member : rule ∈ rules) : Local rule := by
  simp only [rules, List.mem_cons, List.not_mem_nil, or_false] at member
  rcases member with rfl | rfl | rfl | rfl | rfl | rfl | rfl | rfl | rfl | rfl | rfl | rfl | rfl |
    rfl | rfl | rfl | rfl | rfl | rfl | rfl | rfl
  · exact local_symbols (fun _ => false) braces (fun _ _ => rfl) (by decide)
  · exact local_comment
  · exact local_xmlComment
  · exact local_cdata
  · exact local_number
  · exact local_symbols Mode.inContent dots (fun _ _ => rfl) (by decide)
  · exact local_symbols Mode.inContent closingMarks (fun _ _ => rfl) (by decide)
  · exact local_instruction
  · exact local_symbols (fun _ => false) angles (fun _ _ => rfl) (by decide)
  · exact local_attributeEscape
  · exact local_string
  · exact local_symbols Mode.inContent pairs (fun _ _ => rfl) (by decide)
  · exact local_pragmaStart
  · exact local_pragmaEnd
  · exact local_symbols (fun _ => false) lessSign (fun _ _ => rfl) (by decide)
  · exact local_attribute
  · exact local_quote
  · exact local_element
  · exact local_blank
  · exact local_name
  · exact local_symbols (fun _ => false) singles (fun _ _ => rfl) (by decide)

/-- A token does not depend on what stands behind it, as long as it does not go on there. -/
theorem step_token_append {m : Mode} {k : Kind} {w r f : List Char} (ne : w ≠ [])
    (h : step m (w ++ r) = .token k w.length) (follows : Follows k f) :
    step m (w ++ f) = .token k w.length := by
  have lexeme : Lexeme m k w := by
    have reads := step_reads m (w ++ r)
    rw [h] at reads
    exact reads.lexeme
  obtain ⟨c, t, rfl⟩ := List.exists_cons_of_ne_nil ne
  rw [List.cons_append, step_cons] at h ⊢
  have fires : (rules.findSome? fun rule => rule m (c :: (t ++ r))) =
      some (.token k (c :: t).length) := by
    rw [firstOf] at h
    cases found : rules.findSome? fun rule => rule m (c :: (t ++ r)) with
    | none => rw [found] at h; cases h
    | some s => rw [found] at h; exact congrArg some h
  obtain ⟨before, rule, behind, split, here, earlier⟩ := List.findSome?_eq_some_iff.mp fires
  have again : (rules.findSome? fun rule => rule m (c :: (t ++ f))) =
      some (.token k (c :: t).length) := by
    refine List.findSome?_eq_some_iff.mpr ⟨before, rule, behind, split, ?_, ?_⟩
    · have member : rule ∈ rules := by
        rw [split]
        exact List.mem_append_right _ List.mem_cons_self
      exact (rule_local member).token ne here lexeme follows
    · -- A rule that applied in front of the fence would have applied before.
      intro other early
      have member : other ∈ rules := by
        rw [split]
        exact List.mem_append_left _ early
      cases now : other m (c :: (t ++ f)) with
      | none => rfl
      | some s =>
          have applied := (rule_local member).applies r ne follows.fence
            (by rw [List.cons_append, now]; rfl)
          rw [List.cons_append, earlier other early] at applied
          contradiction
  rw [firstOf, again]
  rfl

/-- A token stays what it is when nothing stands behind it. -/
theorem step_token_alone {m : Mode} {k : Kind} {w r : List Char}
    (h : step m (w ++ r) = .token k w.length) : step m w = .token k w.length := by
  cases w with
  | nil =>
      cases r with
      | nil => exact h
      | cons c r =>
          rw [List.nil_append] at h
          exact absurd (eq_nil_of_step_eq_token h) (List.cons_ne_nil c r)
  | cons c t =>
      have alone := step_token_append (List.cons_ne_nil c t) h (follows_nil k)
      rwa [List.append_nil] at alone

end Scan

end QueryScan
