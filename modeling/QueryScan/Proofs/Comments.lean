import QueryScan.Proofs.Spans

/-! Nested comments. The scanner counts the comments that are open around the point; here it is
compared with one that calls itself for a comment inside a comment and counts nothing. Both end at
the same place or find the end of the text, and what they pass over is one comment. -/
namespace QueryScan

open Grammar

namespace Grammar

/-- Text inside a comment, without an opening or a closing mark. -/
def CommentContents (w : List Char) : Prop :=
  w ≠ [] ∧ ¬ ['(', ':'] <:+: w ∧ ¬ [':', ')'] <:+: w

/-- What stands between the two marks of a comment: contents and comments in any order. Contents may
follow contents, so a text can be divided in more than one way. -/
inductive CommentItems : List Char → Prop
  | nil : CommentItems []
  | contents {v w} : CommentContents v → CommentItems w → CommentItems (v ++ w)
  | comment {v w} : CommentItems v → CommentItems w →
      CommentItems ('(' :: ':' :: (v ++ [':', ')']) ++ w)

/-- The text is a comment by the rules of the grammar alone, which say nothing of the order in which
marks are looked for. -/
def CommentDerivable (w : List Char) : Prop :=
  ∃ items, CommentItems items ∧ w = '(' :: ':' :: (items ++ [':', ')'])

theorem commentContents_single (c : Char) : CommentContents [c] := by
  refine ⟨List.cons_ne_nil c [], ?_, ?_⟩ <;>
  · intro inner
    exact absurd inner.length_le (by simp)

theorem CommentBody.items {b : List Char} (h : CommentBody b) :
    ∃ items, CommentItems items ∧ b = items ++ [':', ')'] := by
  induction h with
  | close => exact ⟨[], .nil, rfl⟩
  | nested inner outer ihInner ihOuter =>
      obtain ⟨v, first, rfl⟩ := ihInner
      obtain ⟨w, second, rfl⟩ := ihOuter
      exact ⟨_, .comment first second, by simp⟩
  | @char c w notOpen notClose rest ih =>
      obtain ⟨items, valid, rfl⟩ := ih
      exact ⟨_, .contents (commentContents_single c) valid, rfl⟩

theorem Comment.derivable {w : List Char} (h : Comment w) : CommentDerivable w := by
  obtain ⟨body, valid, rfl⟩ := h
  obtain ⟨items, derived, rfl⟩ := valid.items
  exact ⟨items, derived, rfl⟩

end Grammar

namespace Scan

/-! ### Scanning by recursion -/

/-- An end of the input, with some of the input in front of it. -/
structure Behind (input : List Char) where
  rest : List Char
  suffix : rest <:+ input
  shorter : rest.length < input.length

namespace Behind

variable {input r : List Char}

def after (front r : List Char) (some : front ≠ []) : Behind (front ++ r) where
  rest := r
  suffix := List.suffix_append front r
  shorter := by
    have := List.length_pos_iff.mpr some
    rw [List.length_append]
    omega

/-- The same end, of an input that goes further back. -/
def further (b : Behind r) (front : List Char) : Behind (front ++ r) where
  rest := b.rest
  suffix := b.suffix.trans (List.suffix_append front r)
  shorter := by
    have := b.shorter
    rw [List.length_append]
    omega

def trans (b : Behind input) (c : Behind b.rest) : Behind input where
  rest := c.rest
  suffix := c.suffix.trans b.suffix
  shorter := Nat.lt_trans c.shorter b.shorter

end Behind

/-- What follows a comment whose opening mark has been read. An opening mark is answered by a call
for the comment that it opens, and a closing mark is looked for only where there is none. -/
def commentTail (input : List Char) : Option (Behind input) :=
  match input with
  | '(' :: ':' :: r => do
    let inner ← commentTail r
    let outer ← commentTail inner.rest
    return (inner.trans outer).further ['(', ':']
  | ':' :: ')' :: r => some (.after [':', ')'] r (List.cons_ne_nil ':' [')']))
  | c :: r => (commentTail r).map fun b => b.further [c]
  | [] => none
termination_by input.length
decreasing_by
  · simp only [List.length_cons]; omega
  · have := inner.shorter
    simp only [List.length_cons]
    omega
  · simp only [List.length_cons]; omega

/-- The end that is left, as a text by itself. -/
def behindMark? (input : List Char) : Option (List Char) :=
  (commentTail input).map (·.rest)

/-- What follows the comment at the start of the input; none where there is no whole comment. -/
def behindComment? : List Char → Option (List Char)
  | '(' :: ':' :: r => behindMark? r
  | _ => none

section

variable {c : Char} {r t : List Char}

theorem behindMark?_open :
    behindMark? ('(' :: ':' :: r) = (behindMark? r).bind behindMark? := by
  rw [behindMark?, commentTail, behindMark?, Option.bind_map]
  simp only [Option.bind_eq_bind, Option.pure_def, Option.map_bind]
  congr 1
  funext inner
  simp only [Function.comp_apply, behindMark?]
  cases commentTail inner.rest <;> rfl

theorem behindMark?_close : behindMark? (':' :: ')' :: r) = some r := by
  rw [behindMark?, commentTail]
  rfl

theorem behindMark?_char (notOpen : ∀ t, c = '(' → r = ':' :: t → False)
    (notClose : ∀ t, c = ':' → r = ')' :: t → False) : behindMark? (c :: r) = behindMark? r := by
  rw [behindMark?, commentTail.eq_3 c r notOpen notClose, Option.map_map]
  rfl

theorem behindMark?_nil : behindMark? [] = none := by
  rw [behindMark?, commentTail]
  rfl

theorem behindMark?_suffix (h : behindMark? r = some t) : t <:+ r := by
  obtain ⟨b, -, rfl⟩ := Option.map_eq_some_iff.mp h
  exact b.suffix

end

/-- What follows the innermost comment and `depth` further ones around it. -/
def behindAll : Nat → List Char → Option (List Char)
  | 0, input => behindMark? input
  | depth + 1, input => (behindMark? input).bind (behindAll depth)

theorem behindAll_suffix {depth : Nat} {input t : List Char} (h : behindAll depth input = some t) :
    t <:+ input := by
  induction depth generalizing input with
  | zero => exact behindMark?_suffix h
  | succ depth ih =>
      obtain ⟨b, inner, later⟩ := Option.bind_eq_some_iff.mp h
      exact (ih later).trans (behindMark?_suffix inner)

/-- A call for the comment that is opened here is one more comment to close. -/
theorem behindAll_open (depth : Nat) (r : List Char) :
    behindAll depth ('(' :: ':' :: r) = behindAll (depth + 1) r := by
  cases depth with
  | zero => rw [behindAll, behindMark?_open]; rfl
  | succ depth => rw [behindAll, behindMark?_open, Option.bind_assoc]; rfl

theorem behindAll_char {c : Char} {r : List Char} (depth : Nat)
    (notOpen : ∀ t, c = '(' → r = ':' :: t → False)
    (notClose : ∀ t, c = ':' → r = ')' :: t → False) :
    behindAll depth (c :: r) = behindAll depth r := by
  cases depth with
  | zero => exact behindMark?_char notOpen notClose
  | succ depth => rw [behindAll, behindMark?_char notOpen notClose, behindAll]

theorem behindAll_nil (depth : Nat) : behindAll depth [] = none := by
  cases depth with
  | zero => exact behindMark?_nil
  | succ depth => rw [behindAll, behindMark?_nil]; rfl

/-- Characters in front of the input are read before it. -/
theorem map_behindAll (depth read front : Nat) (r : List Char) :
    ((behindAll depth r).map fun t => read + front + (r.length - t.length)) =
      (behindAll depth r).map fun t => read + (r.length + front - t.length) := by
  refine Option.map_congr ?_
  intro t found
  have le := (behindAll_suffix found).length_le
  omega

/-- The count of open comments stands for the calls that have not returned. -/
theorem commentRest_eq (depth read : Nat) (input : List Char) :
    commentRest depth read input =
      (behindAll depth input).map fun t => read + (input.length - t.length) := by
  fun_induction commentRest depth read input with
  | case1 depth read r ih =>
      rw [behindAll_open, ih]
      exact map_behindAll (depth + 1) read 2 r
  | case2 read r =>
      rw [behindAll, behindMark?_close, Option.map_some, List.length_cons, List.length_cons]
      congr 1
      omega
  | case3 read r d ih =>
      rw [behindAll, behindMark?_close, Option.bind_some, ih]
      exact map_behindAll d read 2 r
  | case4 depth read c r notOpen notClose ih =>
      rw [behindAll_char depth notOpen notClose, ih]
      exact map_behindAll depth read 1 r
  | case5 depth read =>
      rw [behindAll_nil]
      rfl

/-! ### One comment -/

theorem commentRest_of_behindMark? {read : Nat} {w t : List Char}
    (h : behindMark? (w ++ t) = some t) : commentRest 0 read (w ++ t) = some (read + w.length) := by
  rw [commentRest_eq, behindAll, h, Option.map_some, List.length_append, Nat.add_sub_cancel]

theorem commentRest_eq_none_iff {read : Nat} {input : List Char} :
    commentRest 0 read input = none ↔ behindMark? input = none := by
  rw [commentRest_eq, behindAll, Option.map_eq_none_iff]

theorem commentRest_of_cut {body p : List Char} (h : CommentBody body) (cut : p <+: body)
    (proper : p ≠ body) : commentRest 0 2 p = none := by
  cases found : commentRest 0 2 p with
  | none => rfl
  | some n =>
      -- What closes the part would have closed the whole at the same place.
      obtain ⟨u, r, rfl, -, closed⟩ := commentRest_split found
      obtain ⟨t, rfl⟩ := cut
      have whole := commentRest_append h 0 2 []
      have early := commentRest_append (show CommentBody u from closed) 0 2 (r ++ t)
      rw [List.append_nil, List.append_assoc, early] at whole
      have lengths := Option.some.inj whole
      simp only [List.length_append] at lengths
      have nothing : t = [] := List.length_eq_zero_iff.mp (by omega)
      rw [nothing, List.append_nil] at proper
      exact absurd rfl proper

theorem commentRule_opened {m : Mode} (outside : m.inContent = false) (r : List Char) :
    commentRule m ('(' :: ':' :: r) = some
      (match commentRest 0 2 r with
      | some n => .skip n
      | none => .fault (.unterminated .comment)) := by
  rw [commentRule, outside]
  rfl

theorem step_commentMark {m : Mode} (outside : m.inContent = false) (r : List Char) :
    step m ('(' :: ':' :: r) =
      match commentRest 0 2 r with
      | some n => .skip n
      | none => .fault (.unterminated .comment) := by
  rw [step_paren (Mode.expression_of_not_inContent outside)]
  exact firstOf_of_some (commentRule_opened outside r)

/-- No scanner ends before the end of a comment. -/
theorem comment_first (m : Mode) {w p : List Char} (h : Comment w) (cut : p <+: w)
    (proper : p ≠ w) : behindComment? p = none ∧ ∀ n, commentRule m p ≠ some (.skip n) := by
  obtain ⟨body, valid, rfl⟩ := h
  by_cases opens : ['(', ':'] <+: p
  · obtain ⟨q, rfl⟩ := opens
    have behind : q <+: body := (List.prefix_append_right_inj ['(', ':']).mp cut
    have short : q ≠ body := by
      rintro rfl
      exact proper rfl
    have missing := commentRest_of_cut valid behind short
    refine ⟨commentRest_eq_none_iff.mp missing, ?_⟩
    intro n skipped
    simp [commentRule, missing] at skipped
  · constructor
    · unfold behindComment?
      split
      · exact absurd (List.prefix_append ['(', ':'] _) opens
      · rfl
    · intro n skipped
      unfold commentRule at skipped
      split at skipped
      · exact absurd (List.prefix_append ['(', ':'] _) opens
      · cases skipped

end Scan

namespace Scanner

/-- The next call passes over the comment `w`, and `t` is behind it. -/
structure PassesComment (s : Scanner) (w t : List Char) : Prop where
  ahead : s.cursor.rest = w ++ t
  counted : Scan.commentRule s.mode s.cursor.rest = some (.skip w.length)
  next : s.next = { s with cursor := s.cursor.forward w.length }.next
  comment : Comment w
  derivable : CommentDerivable w
  first : ∀ p, p <+: w → p ≠ w →
    Scan.behindComment? p = none ∧ ∀ n, Scan.commentRule s.mode p ≠ some (.skip n)

theorem next_of_skip {s : Scanner} {n : Nat} (sound : s.failure = none)
    (found : Scan.step s.mode s.cursor.rest = .skip n) :
    s.next = { s with cursor := s.cursor.forward n }.next := by
  have passed := settle_of_skip found
  obtain ⟨gap, -, ⟨k, length, settled, -⟩ | ⟨cause, settled, -⟩⟩ :=
    settle_cases s.mode (s.cursor.forward n)
  · rw [next_of_token sound (passed.trans settled)]
    exact (next_of_token (s := { s with cursor := s.cursor.forward n }) sound settled).symm
  · rw [next_of_fault sound (passed.trans settled)]
    exact (next_of_fault (s := { s with cursor := s.cursor.forward n }) sound settled).symm

theorem passesComment {s : Scanner} {b t : List Char} (sound : s.failure = none)
    (outside : s.mode.inContent = false) (split : s.cursor.rest = '(' :: ':' :: (b ++ t))
    (behind : Scan.behindMark? (b ++ t) = some t) : s.PassesComment ('(' :: ':' :: b) t := by
  have counted : Scan.commentRest 0 2 (b ++ t) = some ('(' :: ':' :: b).length := by
    rw [Scan.commentRest_of_behindMark? behind, List.length_cons, List.length_cons, Nat.add_comm]
  have comment : Comment ('(' :: ':' :: b) := by
    obtain ⟨w, u, same, length, closed⟩ := Scan.commentRest_split counted
    simp only [List.length_cons] at length
    obtain ⟨rfl, -⟩ := List.append_inj same (by omega)
    exact ⟨b, closed, rfl⟩
  have rule := Scan.commentRule_opened outside (b ++ t)
  have step := Scan.step_commentMark outside (b ++ t)
  rw [← split, counted] at rule step
  exact ⟨split, rule, next_of_skip sound step, comment, comment.derivable,
    fun p cut proper => Scan.comment_first s.mode comment cut proper⟩

/-- Outside content, a comment that the recursive scanner finds closed is passed over by the count,
to the same place and no further than its own end. One that it does not find closed is reported as
open from its mark to the end of the source. -/
theorem next_nested_comment {s : Scanner} {source : String} (placed : s.cursor.In source.toList)
    (sound : s.failure = none) (outside : s.mode.inContent = false)
    (opens : ['(', ':'] <+: s.cursor.rest) :
    (∀ t, Scan.behindComment? s.cursor.rest = some t → ∃ w, s.PassesComment w t) ∧
      (Scan.behindComment? s.cursor.rest = none →
        Scan.commentRule s.mode s.cursor.rest = some (.fault (.unterminated .comment)) ∧
        s.next.1 =
          .error (.unterminated .comment (s.cursor.place.upTo source.utf8ByteSize))) := by
  obtain ⟨r, split⟩ := opens
  rw [← split]
  constructor
  · intro t behind
    obtain ⟨b, rfl⟩ := Scan.behindMark?_suffix behind
    exact ⟨_, passesComment sound outside split.symm behind⟩
  · intro open'
    have missing : Scan.commentRest 0 2 r = none := Scan.commentRest_eq_none_iff.mpr open'
    have rule := Scan.commentRule_opened outside r
    have step := Scan.step_commentMark outside r
    rw [missing] at rule step
    refine ⟨rule, ?_⟩
    have fault : Scan.step s.mode s.cursor.rest = .fault (.unterminated .comment) := by
      rw [← split]
      exact step
    rw [next_of_fault sound (settle_of_fault fault)]
    simp only [Fault.locate, if_neg (show Construct.comment ≠ .pragma by decide),
      placed.offset_end]

/-- The opening mark is looked for first, so the colon of `(:)` does not close what it opens. -/
theorem next_nested_comment_overlap :
    (Scanner.ofText "(:(::):)x").PassesComment ['(', ':', '(', ':', ':', ')', ':', ')'] ['x'] ∧
      (Scanner.ofText "(:(:)").next.1 = .error (.unterminated .comment ⟨0, 5, 1, 1⟩) := by
  have closed : Scan.behindComment? ['(', ':', '(', ':', ':', ')', ':', ')', 'x'] = some ['x'] := by
    rw [Scan.behindComment?, Scan.behindMark?_open, Scan.behindMark?_close, Option.bind_some,
      Scan.behindMark?_close]
  have open' : Scan.behindComment? ['(', ':', '(', ':', ')'] = none := by
    rw [Scan.behindComment?, Scan.behindMark?_open, Scan.behindMark?_char (by simp) (by simp),
      Scan.behindMark?_nil]
    rfl
  have first := next_nested_comment (Cursor.In.ofText "(:(::):)x") (s := .ofText "(:(::):)x") rfl
    rfl ⟨_, rfl⟩
  have second := next_nested_comment (Cursor.In.ofText "(:(:)") (s := .ofText "(:(:)") rfl
    rfl ⟨_, rfl⟩
  obtain ⟨w, passes⟩ := first.1 _ closed
  obtain rfl := List.append_cancel_right
    (show ['(', ':', '(', ':', ':', ')', ':', ')'] ++ ['x'] = w ++ ['x'] from passes.ahead)
  exact ⟨passes, (second.2 open').2⟩

end Scanner

end QueryScan
