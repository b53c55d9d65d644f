import QueryScan.Proofs.Sessions
import Mathlib.Data.List.Induction

/-! Places by counting. Whatever is asked of a scanner, its cursor and the spans of its tokens and
errors lie in the source between two characters, and lines and columns are counted from the text
before them. The counters hold these numbers modulo `2 ^ 32`, and so exactly wherever they are
smaller. -/
namespace QueryScan

/-! ### Lines and columns -/

theorem Text.byteLength_eq (cs : List Char) :
    Text.byteLength cs = (String.ofList cs).utf8ByteSize := by
  induction cs with
  | nil => rfl
  | cons c cs ih => rw [byteLength_cons, ih, String.ofList_cons, String.utf8ByteSize_append,
      String.utf8ByteSize_singleton]

namespace Text

/-- The number, from one, of the line on which a text ends. Only line feeds end a line. -/
def lineBehind (before : List Char) : Nat :=
  1 + before.count '\n'

/-- The number, from one, of the column behind the last character of a text. -/
def columnBehind (before : List Char) : Nat :=
  1 + (before.reverse.takeWhile (· != '\n')).length

/-- No line and no column of the text has a number that a counter cannot hold. -/
def Countable (text : List Char) : Prop :=
  ∀ before, before <+: text →
    lineBehind before < UInt32.size ∧ columnBehind before < UInt32.size

theorem lineBehind_le (before : List Char) : lineBehind before ≤ before.length + 1 := by
  have le : before.count '\n' ≤ before.length := List.count_le_length
  rw [lineBehind]
  omega

theorem columnBehind_le (before : List Char) : columnBehind before ≤ before.length + 1 := by
  have le := (List.takeWhile_sublist (l := before.reverse) (· != '\n')).length_le
  rw [List.length_reverse] at le
  rw [columnBehind]
  omega

theorem countable_of_length {text : List Char} (short : text.length + 1 < UInt32.size) :
    Countable text := by
  intro before start
  have length := start.length_le
  have line := lineBehind_le before
  have column := columnBehind_le before
  omega

end Text

namespace Place

theorem line_after (p : Place) (cs : List Char) :
    (p.after cs).line = p.line + .ofNat (cs.count '\n') := by
  induction cs generalizing p with
  | nil => exact (UInt32.add_zero p.line).symm
  | cons c cs ih =>
      rw [after_cons, ih]
      unfold step
      split
      · next feed =>
          rw [feed, List.count_cons_self, UInt32.ofNat_add, UInt32.add_comm (.ofNat _),
            ← UInt32.add_assoc]
          rfl
      · next other => rw [List.count_cons_of_ne other]

theorem line_before (cs : List Char) :
    (({} : Place).after cs).line = .ofNat (Text.lineBehind cs) := by
  rw [line_after, Text.lineBehind, UInt32.ofNat_add]
  rfl

theorem column_after (cs : List Char) :
    (({} : Place).after cs).column = .ofNat (Text.columnBehind cs) := by
  -- The last character decides, so the text is taken apart from its end.
  induction cs using List.reverseRecOn with
  | nil => rfl
  | append_singleton cs c ih =>
      rw [after_append, after_cons, after_nil]
      unfold step
      split
      · next feed => simp [Text.columnBehind, feed]
      · next other =>
          have longer : Text.columnBehind (cs ++ [c]) = Text.columnBehind cs + 1 := by
            simp [Text.columnBehind, other, Nat.add_assoc]
          rw [longer, UInt32.ofNat_add, ih]
          rfl

theorem after_feeds (p : Place) {n : Nat} (pos : 0 < n) :
    p.after (List.replicate n '\n') = ⟨p.offset + n, p.line + .ofNat n, 1⟩ := by
  obtain ⟨k, rfl⟩ := Nat.exists_eq_add_one.mpr pos
  clear pos
  induction k generalizing p with
  | zero => rfl
  | succ k ih =>
      rw [List.replicate_succ, after_cons, ih]
      have step : p.step '\n' = ⟨p.offset + 1, p.line + 1, 1⟩ := rfl
      have sum : UInt32.ofNat (k + 1 + 1) = 1 + .ofNat (k + 1) := by
        rw [Nat.add_comm (k + 1), UInt32.ofNat_add]
        rfl
      simp only [step, sum, UInt32.add_assoc, mk.injEq, and_true]
      omega

end Place

namespace Text

theorem byteLength_feeds (n : Nat) : byteLength (List.replicate n '\n') = n := by
  induction n with
  | zero => rfl
  | succ n ih => rw [List.replicate_succ, byteLength_cons, ih, Nat.add_comm]; rfl

theorem lineBehind_feeds (n : Nat) : lineBehind (List.replicate n '\n') = n + 1 := by
  rw [lineBehind, List.count_replicate_self, Nat.add_comm]

theorem slice?_feeds (n : Nat) :
    slice? (List.replicate n '\n') 0 n = some (List.replicate n '\n') := by
  have cut := slice?_append [] (List.replicate n '\n') []
  rwa [byteLength_nil, Nat.zero_add, byteLength_feeds, List.append_nil, List.nil_append] at cut

end Text

namespace Place

/-- The place lies in the source and between two characters, and its line and column are counted
from the text before it: modulo `2 ^ 32`, and exactly where the number is smaller. -/
structure In (source : String) (p : Place) : Prop where
  bounded : p.offset ≤ source.utf8ByteSize
  boundary : (String.Pos.Raw.mk p.offset).IsValid source
  counted : ∃ before, Text.slice? source.toList 0 p.offset = some before ∧
    p.line = .ofNat (Text.lineBehind before) ∧ p.column = .ofNat (Text.columnBehind before) ∧
    (Text.lineBehind before < UInt32.size → p.line.toNat = Text.lineBehind before) ∧
    (Text.columnBehind before < UInt32.size → p.column.toNat = Text.columnBehind before)

theorem in_after {source : String} {before rest : List Char}
    (split : source.toList = before ++ rest) : (({} : Place).after before).In source := by
  have offset : (({} : Place).after before).offset = Text.byteLength before := by
    rw [offset_after, Nat.zero_add]
  have whole : source = String.ofList before ++ String.ofList rest := by
    rw [← String.ofList_append, ← split, String.ofList_toList]
  constructor
  · rw [offset, Text.byteLength_eq, whole, String.utf8ByteSize_append]
    exact Nat.le_add_right _ _
  · rw [offset, Text.byteLength_eq]
    exact String.Pos.Raw.isValid_iff_exists_append.mpr ⟨_, _, whole, rfl⟩
  · have cut := Text.slice?_append [] before rest
    rw [List.nil_append, ← split, Text.byteLength_nil, Nat.zero_add] at cut
    have line := line_before before
    have column := column_after before
    rw [offset, line, column]
    exact ⟨before, cut, rfl, rfl, UInt32.toNat_ofNat_of_lt', UInt32.toNat_ofNat_of_lt'⟩

/-- In a text whose lines and columns can be counted both counters are exact. -/
theorem In.exact {source : String} {p : Place} (h : p.In source)
    (countable : Text.Countable source.toList) :
    ∃ before, Text.slice? source.toList 0 p.offset = some before ∧
      p.line.toNat = Text.lineBehind before ∧ p.column.toNat = Text.columnBehind before := by
  obtain ⟨before, cut, -, -, line, column⟩ := h.counted
  obtain ⟨u, v, split, none, -⟩ := Text.slice?_split cut
  have nothing : u = [] := (Text.append_of_byteLength (v := []) (List.append_nil u) none).1
  rw [nothing, List.nil_append] at split
  obtain ⟨lines, columns⟩ := countable before ⟨v, split.symm⟩
  exact ⟨before, cut, line lines, column columns⟩

end Place

theorem Cursor.In.place_in {source : String} {c : Cursor} (h : c.In source.toList) :
    c.place.In source := by
  rw [h.place]
  exact Place.in_after h.source.symm

/-- The span lies in the source, cuts no character, and has the line and column of its start. -/
structure Span.WellFormed (source : String) (s : Span) : Prop where
  ordered : s.start ≤ s.stop
  bounded : s.stop ≤ source.utf8ByteSize
  boundary : (String.Pos.Raw.mk s.stop).IsValid source
  start : Place.In source ⟨s.start, s.line, s.column⟩

theorem Place.In.upTo {source : String} {p q : Place} (start : p.In source) (stop : q.In source)
    (le : p.offset ≤ q.offset) : (p.upTo q.offset).WellFormed source :=
  ⟨le, stop.bounded, stop.boundary, start⟩

theorem Cursor.In.span {source : String} {c : Cursor} (h : c.In source.toList) (n : Nat) :
    (c.place.upTo (c.forward n).place.offset).WellFormed source := by
  refine h.place_in.upTo (h.forward n).place_in ?_
  rw [forward_place, Place.offset_after]
  exact Nat.le_add_right _ _

theorem Cursor.In.offset_end {source : String} {c : Cursor} (h : c.In source.toList) :
    c.place.offset + Text.byteLength c.rest = source.utf8ByteSize := by
  rw [h.offset, ← Text.byteLength_append, ← Cursor.source, h.source, Text.byteLength_eq,
    String.ofList_toList]

/-! ### Faults -/

namespace Scan

open Unicode

variable {m : Mode} {input : List Char} {ahead : Nat} {found : Char}

theorem number_ne_noViable (input : List Char) (ahead : Nat) (found : Char) :
    number input ≠ .fault (.noViable ahead found) := by
  intro fault
  rcases numberRest_cases (mantissa input).1 (mantissa input).2 (input.drop (mantissa input).1) with
    token | ⟨mark, r, -, -, exponent⟩
  · rw [number, token] at fault
    cases fault
  · rw [number, exponent] at fault
    simp only [exponentRest] at fault
    split at fault <;> cases fault

theorem Stray.found_ahead (h : Stray m input ahead found) : input[ahead]? = some found := by
  cases h with
  | @hyphens body r valid unclosed =>
      rw [show body.length + 5 = body.length + 1 + 1 + 1 + 1 + 1 by rfl]
      simp
  | @target name c r valid foreign solid unclosed => simp
  | hash inside unclosed => rfl

theorem expression_found_ahead (context : m.context = .expression) {c : Char} {r : List Char}
    (lead : c ∉ ['{', '}', '<']) (h : step m (c :: r) = .fault (.noViable ahead found)) :
    (c :: r)[ahead]? = some found := by
  rw [step_expression r context lead] at h
  rcases firstOf_cases [commentRule, numberRule, dotRule, closingMarkRule, stringRule, pairRule,
      pragmaStartRule, pragmaEndRule, quoteRule, blankRule, nameRule, singleRule] m c r with
    ⟨rule, member, fires⟩ | ⟨fault, -⟩
  · rw [h] at fires
    simp only [List.mem_cons, List.not_mem_nil, or_false] at member
    rcases member with rfl | rfl | rfl | rfl | rfl | rfl | rfl | rfl | rfl | rfl | rfl | rfl
    · unfold commentRule at fires
      split at fires
      · have fault := (Option.ite_none_left_eq_some.mp fires).2
        simp only [Option.some.injEq] at fault
        split at fault <;> cases fault
      · contradiction
    · obtain ⟨-, fault⟩ := Option.ite_none_right_eq_some.mp fires
      exact absurd (Option.some.inj fault) (number_ne_noViable _ _ _)
    · exact absurd (Option.ite_none_left_eq_some.mp fires).2 (symbolAmong_ne_fault _ _ _)
    · exact absurd (Option.ite_none_left_eq_some.mp fires).2 (symbolAmong_ne_fault _ _ _)
    · obtain ⟨-, fault⟩ := Option.ite_none_right_eq_some.mp fires
      exact absurd (Option.some.inj fault) (stringRest_ne_noViable _ _ _ _ _)
    · exact absurd (Option.ite_none_left_eq_some.mp fires).2 (symbolAmong_ne_fault _ _ _)
    · unfold pragmaStartRule at fires
      split at fires
      · cases (Option.ite_none_left_eq_some.mp fires).2
      · contradiction
    · obtain ⟨-, fault⟩ := Option.ite_none_right_eq_some.mp fires
      obtain ⟨rfl, rfl, t, same, -⟩ := pragmaEnd_noViable (Option.some.inj fault)
      rw [same]
      rfl
    · obtain ⟨d, -, same⟩ := Option.map_eq_some_iff.mp (Option.ite_none_left_eq_some.mp fires).2
      cases same
    · obtain ⟨-, same⟩ := Option.ite_none_right_eq_some.mp fires
      have fault := Option.some.inj same
      split at fault <;> cases fault
    · cases (Option.ite_none_right_eq_some.mp fires).2
    · exact absurd fires (symbolAmong_ne_fault _ _ _)
  · rw [h] at fault
    cases fault
    rfl

/-- An unexpected character stands where it is said to stand. -/
theorem found_ahead (h : step m input = .fault (.noViable ahead found)) :
    input[ahead]? = some found := by
  cases content : m.inContent with
  | true => exact (stray_of_noViable content h).found_ahead
  | false =>
      have context := Mode.expression_of_not_inContent content
      cases input with
      | nil =>
          simp only [step, endStep] at h
          split at h <;> cases h
      | cons c r =>
          by_cases lead : c ∈ ['{', '}', '<']
          · simp only [List.mem_cons, List.not_mem_nil, or_false] at lead
            rcases lead with rfl | rfl | rfl
            · cases h
            · cases h
            · exact (step_angle_stray h).found_ahead
          · exact expression_found_ahead context lead h

end Scan

/-- The error of a fault that a step finds at the cursor lies in the source. -/
theorem Fault.locate_wellFormed {source : String} {m : Mode} {c : Cursor} {cause : Fault}
    {pragma : Option Place} (placed : c.In source.toList) (opened : ∀ p ∈ pragma, p.In source)
    (h : Scan.step m c.rest = .fault cause) :
    (cause.locate c pragma).span.WellFormed source := by
  cases cause with
  | noViable ahead found =>
      have here := placed.forward ahead
      have single : ((c.forward ahead).forward 1).place.offset =
          (c.forward ahead).place.offset + found.utf8Size := by
        have next : (c.forward ahead).rest.take 1 = [found] := by
          rw [Cursor.forward_rest, List.take_one, List.head?_drop, Scan.found_ahead h]
          rfl
        rw [Cursor.forward_place _ 1, next, Place.after_cons, Place.after_nil, Place.offset_step]
      have span := here.span 1
      rw [single] at span
      exact span
  | unterminated construct =>
      have stop := (placed.forward c.rest.length).place_in
      have start : (if construct = .pragma then pragma.getD c.place else c.place).In source := by
        split
        · cases pragma with
          | none => exact placed.place_in
          | some p => exact opened p rfl
        · exact placed.place_in
      have total : (c.forward c.rest.length).place.offset =
          c.place.offset + Text.byteLength c.rest := by
        rw [Cursor.forward_place, List.take_length, Place.offset_after]
      have le : (if construct = .pragma then pragma.getD c.place else c.place).offset ≤
          (c.forward c.rest.length).place.offset := by
        rw [total, placed.offset_end]
        exact start.bounded
      have span := start.upTo stop le
      rw [total] at span
      exact span
  | malformedNumber length => exact placed.span length
  | malformedReference ahead length => exact (placed.forward ahead).span length

/-! ### Sessions -/

namespace Scanner

/-- All places that a scanner remembers lie in the source. -/
structure Anchored (source : String) (s : Scanner) : Prop where
  cursor : s.cursor.In source.toList
  pragma : ∀ p ∈ s.pragmaStart, p.In source
  failure : ∀ e ∈ s.failure, e.span.WellFormed source

theorem anchored_ofText (source : String) (m : Mode) : (Scanner.ofText source m).Anchored source :=
  ⟨.ofText source, nofun, nofun⟩

theorem pragmaBehind_in {source : String} {pragma : Option Place} {p : Place} (k : Kind)
    (opened : ∀ q ∈ pragma, q.In source) (here : p.In source) :
    ∀ q ∈ pragmaBehind pragma p k, q.In source := by
  intro q member
  unfold pragmaBehind at member
  split at member
  · cases member
    exact here
  · cases member
  · exact opened q member

theorem next_anchored {source : String} {s : Scanner} (h : s.Anchored source) :
    s.next.2.Anchored source := by
  rcases next_cases s with ⟨e, -, same⟩ | ⟨-, gap, t, s', gives, same⟩ |
    ⟨-, gap, cause, e, s', fails, same⟩
  · rw [same]
    exact h
  · have start := h.cursor.forward gap.length
    rw [same, gives.after]
    exact ⟨start.forward _, pragmaBehind_in _ h.pragma start.place_in, h.failure⟩
  · have start := h.cursor.forward gap.length
    rw [same, fails.after]
    refine ⟨start.forward _, h.pragma, ?_⟩
    intro e' again
    cases again
    rw [fails.error]
    exact Fault.locate_wellFormed start h.pragma fails.found

theorem token_wellFormed {source : String} {s s' : Scanner} {t : Token} (h : s.Anchored source)
    (called : s.next = (.ok t, s')) : t.span.WellFormed source := by
  obtain ⟨gap, gives⟩ := gives_of_next called
  rw [gives.span]
  exact (h.cursor.forward gap.length).span _

/-- An error is remembered, so its span is that of the failure behind the call. -/
theorem error_wellFormed {source : String} {s : Scanner} {e : LexError} (h : s.Anchored source)
    (failed : s.next.1 = .error e) : e.span.WellFormed source := by
  refine (next_anchored h).failure e ?_
  rcases next_cases s with ⟨e', known, same⟩ | ⟨-, gap, t, s', -, same⟩ |
    ⟨-, gap, cause, e', s', fails, same⟩
  · rw [same] at failed ⊢
    cases failed
    exact known
  · rw [same] at failed
    cases failed
  · rw [same] at failed ⊢
    cases failed
    rw [fails.after]
    rfl

theorem reply_anchored {source : String} {s s' : Scanner} {a : Action} {answer : Answer}
    (h : s.Anchored source) (reply : s.Reply a answer s') : s'.Anchored source := by
  refine reply.keeps ?_ ?_ ?_ h
  · intro s h
    exact next_anchored h
  · intro s what h
    exact ⟨h.cursor, h.pragma, h.failure⟩
  · intro s spent log h
    exact ⟨h.cursor, h.pragma, h.failure⟩

/-- In every session the cursor behind each request, and the span of each token and of each error,
lie in the source with the line and column that counting gives. -/
theorem session_positions (source : String) (m : Mode) (actions : List Action) :
    ∀ r ∈ (Scanner.ofText source m).session actions,
      r.2.cursor.place.In source ∧
      (∀ t, r.1.token? = some t → t.span.WellFormed source) ∧
      ∀ e, r.1.error? = some e → e.span.WellFormed source := by
  refine forall_session ?_ (anchored_ofText source m) actions
  intro s a r anchored reply
  have kept := reply_anchored anchored reply
  refine ⟨kept, kept.cursor.place_in, ?_, ?_⟩
  · intro t given
    exact token_wellFormed anchored (reply.token given)
  · intro e given
    exact error_wellFormed anchored (reply.error given)

/-- Line feeds are passed over, however many there are. -/
theorem settle_feeds {n : Nat} (pos : 0 < n) {c : Cursor} {r : List Char}
    (ahead : c.rest = List.replicate n '\n' ++ r) (other : Text.run Unicode.isBlank r = 0) :
    settle {} c = settle {} (c.forward n) ∧ (c.forward n).rest = r ∧
      (c.forward n).place = ⟨c.place.offset + n, c.place.line + .ofNat n, 1⟩ := by
  have length : (List.replicate n '\n').length = n := List.length_replicate
  have blanks : Text.run Unicode.isBlank c.rest = n := by
    have all : ∀ x ∈ List.replicate n '\n', Unicode.isBlank x = true := by
      intro x member
      rw [List.eq_of_mem_replicate member]
      rfl
    rw [ahead, Text.run_append r all, other, length, Nat.add_zero]
  refine ⟨settle_of_skip ?_, ?_, ?_⟩
  · obtain ⟨k, rfl⟩ := Nat.exists_eq_add_one.mpr pos
    rw [ahead] at blanks ⊢
    rw [List.replicate_succ, List.cons_append] at blanks ⊢
    rw [Scan.step_blank rfl _ rfl, blanks]
    rfl
  · rw [Cursor.forward_rest, ahead, List.drop_left' length]
  · rw [Cursor.forward_place, ahead, List.take_left' length, Place.after_feeds _ pos]

theorem session_positions_pragma :
    ∃ r ∈ (Scanner.ofText "(:é\n:)(#").session [.next, .next],
      ∃ e, r.1.error? = some e ∧ e.span = ⟨7, 9, 2, 3⟩ ∧ e.span.WellFormed "(:é\n:)(#" := by
  have start := next_of_token (s := Scanner.ofText "(:é\n:)(#") rfl
    ((settle_of_skip rfl).trans (settle_of_token rfl))
  have stop := next_of_fault (s := (Scanner.ofText "(:é\n:)(#").next.2) (by rw [start]; rfl)
    (by rw [start]; exact settle_of_fault rfl)
  have member : (Answer.token (Scanner.ofText "(:é\n:)(#").next.2.next.1,
      (Scanner.ofText "(:é\n:)(#").next.2.next.2) ∈
        (Scanner.ofText "(:é\n:)(#").session [.next, .next] :=
    List.mem_cons_of_mem _ List.mem_cons_self
  have error : (Answer.token (Scanner.ofText "(:é\n:)(#").next.2.next.1).error? =
      some (.unterminated .pragma ⟨7, 9, 2, 3⟩) := by
    rw [stop, start]
    rfl
  exact ⟨_, member, _, error, rfl, (session_positions _ _ _ _ member).2.2 _ error⟩

theorem next_feeds {s : Scanner} (plain : s.mode = {}) (sound : s.failure = none) {n : Nat}
    (pos : 0 < n) {r : List Char} (ahead : s.cursor.rest = List.replicate n '\n' ++ r)
    (other : Text.run Unicode.isBlank r = 0) {k : Kind} {length : Nat}
    (found : Scan.step {} r = .token k length) :
    s.next.1 = .ok ⟨k, String.ofList (r.take length), ⟨s.cursor.place.offset + n,
      s.cursor.place.offset + n + Text.byteLength (r.take length),
      s.cursor.place.line + .ofNat n, 1⟩⟩ := by
  obtain ⟨settled, rest, place⟩ := settle_feeds pos ahead other
  rw [← plain] at settled
  have token : Scan.step s.mode (s.cursor.forward n).rest = .token k length := by
    rw [rest, plain, found]
  rw [next_of_token sound (settled.trans (settle_of_token token))]
  simp only [tokenAt, Cursor.forward_place (s.cursor.forward n), rest, Place.offset_after, place,
    Place.upTo]

/-- Behind `2 ^ 32` line feeds the counter of lines is at one again. -/
theorem session_positions_wrapped :
    ∃ t before, (Scanner.ofText (String.ofList (List.replicate UInt32.size '\n'))).next.1 = .ok t ∧
      Text.slice? (List.replicate UInt32.size '\n') 0 t.span.start = some before ∧
      Text.lineBehind before = UInt32.size + 1 ∧ t.line = 1 := by
  have ahead {n : Nat} : (Scanner.ofText (String.ofList (List.replicate n '\n'))).cursor.rest =
      List.replicate n '\n' ++ [] :=
    String.toList_ofList.trans (List.append_nil _).symm
  refine ⟨_, _, next_feeds rfl rfl (by decide) ahead rfl rfl, ?_, Text.lineBehind_feeds _, ?_⟩
  · exact (congrArg _ (Nat.zero_add _)).trans (Text.slice?_feeds _)
  · exact (by decide : (1 : UInt32) + .ofNat UInt32.size = 1)

end Scanner

end QueryScan
