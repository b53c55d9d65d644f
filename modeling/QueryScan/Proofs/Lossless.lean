import QueryScan.Proofs.Comments

/-! No character is lost. The tokens of a session stand in the source one behind another; what lies
between two of them is blanks and comments, and at the end of the source all of it has been given
out or passed over. -/
namespace QueryScan

open Grammar
open Scan
open Text (run)

/-! ### Gaps by themselves -/

theorem Grammar.gap_weaken {b : Bool} {w : List Char} (h : Gap b w) : Gap true w := by
  induction h with
  | nil => exact .nil
  | blank _ blank _ ih => exact .blank rfl blank ih
  | comment comment _ ih => exact .comment comment ih

theorem step_comment {m : Mode} (context : m.context = .expression) {p : List Char}
    (h : Comment p) (r : List Char) : step m (p ++ r) = .skip p.length := by
  obtain ⟨body, valid, rfl⟩ := h
  have read : commentRest 0 2 (body ++ r) = some (2 + body.length) := commentRest_append valid 0 2 r
  rw [List.cons_append, List.cons_append, step_commentMark (not_inContent context), read,
    List.length_cons, List.length_cons, Nat.add_comm]

namespace Scanner

section Plain

variable {m : Mode} (context : m.context = .expression) (implicit : m.blanks = false)
  (outside : m.pragma = false)

include context implicit outside

theorem settle_run (c : Cursor) :
    settle m c = settle m (c.forward (run Unicode.isBlank c.rest)) := by
  cases ahead : c.rest with
  | nil => rfl
  | cons x r =>
      cases blank : Unicode.isBlank x with
      | false => rw [Text.run_cons_of_neg r blank]; rfl
      | true =>
          refine settle_of_skip ?_
          rw [ahead, step_blank context r blank, implicit, outside]
          rfl

/-- A gap is passed over whatever follows it. -/
theorem settle_gap {gap : List Char} (h : Gap true gap) (c : Cursor) (r : List Char)
    (ahead : c.rest = gap ++ r) : settle m c = settle m (c.forward gap.length) := by
  induction h generalizing c with
  | nil => rfl
  | @blank x w _ blank _ ih =>
      -- One blank less leaves the same run to pass over.
      have whole : run Unicode.isBlank c.rest = 1 + run Unicode.isBlank (c.forward 1).rest := by
        rw [Cursor.forward_rest, ahead, List.cons_append, Text.run_cons_of_pos _ blank,
          Nat.add_comm]
        rfl
      calc settle m c
          = settle m (c.forward (run Unicode.isBlank c.rest)) :=
            settle_run context implicit outside c
        _ = settle m ((c.forward 1).forward (run Unicode.isBlank (c.forward 1).rest)) := by
            rw [whole, Cursor.forward_forward]
        _ = settle m (c.forward 1) := (settle_run context implicit outside (c.forward 1)).symm
        _ = settle m ((c.forward 1).forward w.length) := by
            apply ih
            rw [Cursor.forward_rest, ahead]
            rfl
        _ = settle m (c.forward (x :: w).length) := by
            rw [Cursor.forward_forward, List.length_cons, Nat.add_comm]
  | @comment p w comment _ ih =>
      have found : step m c.rest = .skip p.length := by
        rw [ahead, List.append_assoc]
        exact step_comment context comment (w ++ r)
      have rest : (c.forward p.length).rest = w ++ r := by
        rw [Cursor.forward_rest, ahead, List.append_assoc, List.drop_left]
      rw [settle_of_skip found, ih (c.forward p.length) rest, Cursor.forward_forward,
        List.length_append]

end Plain

/-- In an expression, with neither an error nor the end behind it. -/
structure Ready (s : Scanner) : Prop where
  mode : s.mode = {}
  sound : s.failure = none
  fresh : s.exhausted = false

theorem ready_ofText (source : String) : (Scanner.ofText source).Ready :=
  ⟨rfl, rfl, rfl⟩

/-- A gap in front of a token is passed over. -/
theorem Ready.next {s : Scanner} (h : s.Ready) {gap r : List Char} (form : Gap true gap)
    (ahead : s.cursor.rest = gap ++ r) {k : Kind} {n : Nat} (found : step {} r = .token k n) :
    s.next = (.ok (tokenAt (s.cursor.forward gap.length) k n), { s with
      cursor := (s.cursor.forward gap.length).forward n
      mode := s.mode.onToken k
      pragmaStart := pragmaBehind s.pragmaStart (s.cursor.forward gap.length).place k }) := by
  have token : step {} (s.cursor.forward gap.length).rest = .token k n := by
    rw [Cursor.forward_rest, ahead, List.drop_left]
    exact found
  have settled : settle s.mode s.cursor = (s.cursor.forward gap.length, .ok (k, n)) := by
    rw [h.mode, settle_gap rfl rfl rfl form s.cursor r ahead, settle_of_token token]
  exact next_of_token h.sound settled

theorem Ready.yields_nil {s : Scanner} (h : s.Ready) (form : Gap true s.cursor.rest) :
    s.Yields [] :=
  .done (pull_of_eof h.fresh (h.next form (List.append_nil _).symm rfl) rfl)

/-- A gap by itself holds no token and no error. -/
theorem tokenize_gap {gap : List Char} (h : Gap true gap) :
    (Scanner.ofText (String.ofList gap)).tokenize = .ok [] := by
  refine tokenize_eq_ok_iff.mpr ((ready_ofText _).yields_nil ?_)
  simpa [Scanner.ofText, Cursor.ofText] using h

end Scanner

/-! ### Tokens with the gaps before them -/

/-- A reading and what was passed over before it. -/
structure Excerpt extends Reading where
  gap : List Char

namespace Excerpt

def chars (e : Excerpt) : List Char :=
  e.gap ++ e.token.text.toList

/-- The cursor behind the excerpt, when `c` stands before it. -/
def behind (e : Excerpt) (c : Cursor) : Cursor :=
  (c.forward e.gap.length).forward e.token.text.toList.length

/-- The excerpt stands at the cursor. -/
structure At (e : Excerpt) (c : Cursor) : Prop where
  passable : Passable e.mode c e.gap
  text : e.token.text.toList <+: (c.forward e.gap.length).rest
  span : e.token.span = (c.forward e.gap.length).place.upTo (e.behind c).place.offset
  last : e.token.isEof = true → (c.forward e.gap.length).rest = []

theorem At.rest {e : Excerpt} {c : Cursor} (h : e.At c) :
    c.rest = e.chars ++ (e.behind c).rest := by
  obtain ⟨r, gap⟩ := h.passable.ahead
  have text := h.text
  rw [Cursor.forward_rest, ← gap, List.drop_left] at text
  obtain ⟨t, text⟩ := text
  rw [chars, behind, Cursor.forward_rest, Cursor.forward_rest, ← gap, List.drop_left, ← text,
    List.drop_left, List.append_assoc]

theorem At.stop {e : Excerpt} {c : Cursor} (h : e.At c) :
    e.token.span.stop = (e.behind c).place.offset := by
  rw [h.span]
  rfl

end Excerpt

/-- The excerpts stand one behind another, from the first cursor to the second. -/
inductive Excerpts : Cursor → List Excerpt → Cursor → Prop
  | nil {c} : Excerpts c [] c
  | cons {c e rest d} : e.At c → Excerpts (e.behind c) rest d → Excerpts c (e :: rest) d

theorem Cursor.offset_le_forward (c : Cursor) (n : Nat) :
    c.place.offset ≤ (c.forward n).place.offset := by
  rw [forward_place, Place.offset_after]
  exact Nat.le_add_right _ _

/-- What stands between each token and the one before it; for the first, what stands behind
`start`. -/
def gapsFrom (text : List Char) (start : Nat) : List Token → List (Option (List Char))
  | [] => []
  | t :: rest => Text.slice? text start t.span.start :: gapsFrom text t.span.stop rest

namespace Excerpts

variable {c d : Cursor} {es : List Excerpt}

theorem rest_eq (h : Excerpts c es d) : c.rest = es.flatMap Excerpt.chars ++ d.rest := by
  induction h with
  | nil => rfl
  | cons here _ ih => rw [here.rest, ih, List.flatMap_cons, List.append_assoc]

theorem ended (h : Excerpts c es d) (last : ∃ e ∈ es, e.token.isEof = true) : d.rest = [] := by
  induction h with
  | nil =>
      obtain ⟨e, member, -⟩ := last
      cases member
  | @cons c e rest d here later ih =>
      obtain ⟨f, member, eof⟩ := last
      rcases List.mem_cons.mp member with rfl | inRest
      · have nothing : (f.behind c).rest = [] := by
          rw [Excerpt.behind, Cursor.forward_rest, here.last eof, List.drop_nil]
        rw [later.rest_eq] at nothing
        exact (List.append_eq_nil_iff.mp nothing).2
      · exact ih ⟨f, inRest, eof⟩

theorem gaps_eq {text : List Char} (placed : c.In text) (h : Excerpts c es d) :
    gapsFrom text c.place.offset (es.map (·.token)) = es.map fun e => some e.gap := by
  induction h with
  | nil => rfl
  | @cons c e rest d here later ih =>
      have gap : Text.slice? text c.place.offset e.token.span.start = some e.gap := by
        rw [here.span]
        refine (placed.slice e.gap.length).trans ?_
        rw [(List.prefix_iff_eq_take.mp here.passable.ahead).symm]
      have moved : (e.behind c).In text := (placed.forward _).forward _
      rw [List.map_cons, gapsFrom, gap, here.stop, ih moved, List.map_cons]

theorem text_eq {text : List Char} (placed : c.In text) (h : Excerpts c es d) :
    ∀ e ∈ es, Text.slice? text e.token.span.start e.token.span.stop = some e.token.text.toList := by
  induction h with
  | nil =>
      intro e member
      cases member
  | @cons c e rest d here later ih =>
      intro f member
      rcases List.mem_cons.mp member with rfl | inRest
      · rw [here.span]
        refine ((placed.forward f.gap.length).slice f.token.text.toList.length).trans ?_
        rw [(List.prefix_iff_eq_take.mp here.text).symm]
      · exact ih ((placed.forward _).forward _) f inRest

theorem bounds (h : Excerpts c es d) :
    ∀ e ∈ es, c.place.offset ≤ e.token.span.start ∧ e.token.span.start ≤ e.token.span.stop := by
  induction h with
  | nil =>
      intro e member
      cases member
  | @cons c e rest d here later ih =>
      intro f member
      have first := Cursor.offset_le_forward c e.gap.length
      have second := Cursor.offset_le_forward (c.forward e.gap.length) e.token.text.toList.length
      rcases List.mem_cons.mp member with rfl | inRest
      · rw [here.span]
        exact ⟨first, second⟩
      · obtain ⟨start, stop⟩ := ih f inRest
        exact ⟨Nat.le_trans (Nat.le_trans first second) start, stop⟩

theorem ordered (h : Excerpts c es d) :
    (es.map (·.token.span)).Pairwise fun a b => a.stop ≤ b.start := by
  induction h with
  | nil => exact .nil
  | @cons c e rest d here later ih =>
      rw [List.map_cons, List.pairwise_cons]
      refine ⟨?_, ih⟩
      intro span member
      obtain ⟨f, inRest, rfl⟩ := List.mem_map.mp member
      rw [here.stop]
      exact (later.bounds f inRest).1

theorem passable (h : Excerpts c es d) : ∀ e ∈ es, ∃ c, Passable e.mode c e.gap := by
  induction h with
  | nil =>
      intro e member
      cases member
  | @cons c e rest d here later ih =>
      intro f member
      rcases List.mem_cons.mp member with rfl | inRest
      · exact ⟨c, here.passable⟩
      · exact ih f inRest

end Excerpts

/-! ### Sessions that take every token -/

/-- The next token, also that of the end, or another mode. -/
inductive Request where
  | next
  | change (what : ModeChange)
deriving DecidableEq, Repr

def Request.action : Request → Action
  | .next => .next
  | .change what => .change what

namespace Scanner

theorem Gives.at {s s' : Scanner} {gap : List Char} {t : Token} (h : s.Gives gap t s') :
    Excerpt.At ⟨⟨s.mode, t⟩, gap⟩ s.cursor := by
  refine ⟨h.passable, h.text, h.span, ?_⟩
  intro eof
  exact (h.ended eof).2.2

/-- Behind an error there are no more tokens. -/
theorem readings_of_failure {s : Scanner} {e : LexError} (failed : s.failure = some e)
    (requests : List Request) : s.readings (requests.map Request.action) = [] := by
  induction requests generalizing s with
  | nil => rfl
  | cons request requests ih =>
      cases request with
      | next =>
          simp only [List.map_cons, Request.action, readings, act, next_of_failure failed]
          exact ih failed
      | change what => exact ih (s := s.change what) failed

/-- The tokens of a session are excerpts of the text ahead. -/
theorem readings_excerpts (s : Scanner) (requests : List Request) :
    ∃ es d, es.map Excerpt.toReading = s.readings (requests.map Request.action) ∧
      Excerpts s.cursor es d := by
  induction requests generalizing s with
  | nil => exact ⟨[], s.cursor, rfl, .nil⟩
  | cons request requests ih =>
      cases request with
      | change what => exact ih (s.change what)
      | next =>
          rcases next_cases s with ⟨e, failed, -⟩ | ⟨-, gap, t, s', gives, called⟩ |
            ⟨-, gap, cause, e, s', fails, called⟩
          · exact ⟨[], s.cursor, (readings_of_failure failed (.next :: requests)).symm, .nil⟩
          · obtain ⟨es, d, same, later⟩ := ih s'
            refine ⟨⟨⟨s.mode, t⟩, gap⟩ :: es, d, ?_, .cons gives.at ?_⟩
            · simp only [List.map_cons, Request.action, readings, act, called, same]
              rfl
            · rw [gives.after] at later
              exact later
          · have failed : s'.failure = some e := by rw [fails.after]
            refine ⟨[], s.cursor, ?_, .nil⟩
            simp only [List.map_cons, Request.action, readings, act, called]
            exact (readings_of_failure failed requests).symm

/-- Every token is cut out of the source by its span, the spans come one behind another, and what
lies between them may be passed over in the mode of the call. Once the end is given, the gaps and
the tokens are the whole source. -/
theorem session_lossless (source : String) (m : Mode) (requests : List Request) :
    ∃ es : List Excerpt,
      es.map Excerpt.toReading =
        (Scanner.ofText source m).readings (requests.map Request.action) ∧
      gapsFrom source.toList 0 (es.map (·.token)) = (es.map fun e => some e.gap) ∧
      (∀ e ∈ es, e.token.span.text? source = some e.token.text ∧
        e.token.span.start ≤ e.token.span.stop) ∧
      ((es.map (·.token.span)).Pairwise fun a b => a.stop ≤ b.start) ∧
      (∀ e ∈ es, Gap true e.gap ∧ (e.mode.inContent = true → e.gap = []) ∧
        (e.mode.blanks = true ∨ e.mode.pragma = true → Gap false e.gap) ∧
        (Scanner.ofText (String.ofList e.gap)).tokenize = .ok []) ∧
      ((∃ e ∈ es, e.token.isEof = true) → es.flatMap Excerpt.chars = source.toList) := by
  have placed := Cursor.In.ofText source
  obtain ⟨es, d, same, run⟩ := readings_excerpts (Scanner.ofText source m) requests
  refine ⟨es, same, run.gaps_eq placed, ?_, run.ordered, ?_, ?_⟩
  · intro e member
    refine ⟨?_, (run.bounds e member).2⟩
    rw [Span.text?, run.text_eq placed e member, Option.map_some, String.ofList_toList]
  · intro e member
    obtain ⟨c, passable⟩ := run.passable e member
    have form := gap_weaken passable.form
    refine ⟨form, passable.content, ?_, tokenize_gap form⟩
    intro dense
    have solid : e.mode.passesBlanks = false := by
      rcases dense with explicit | inside
      · simp [Mode.passesBlanks, explicit]
      · simp [Mode.passesBlanks, inside]
    rw [← solid]
    exact passable.form
  · intro last
    have all : source.toList = es.flatMap Excerpt.chars ++ d.rest := run.rest_eq
    rw [all, run.ended last, List.append_nil]

theorem session_lossless_comment :
    ∃ es : List Excerpt,
      es.map Excerpt.toReading = (Scanner.ofText "\x7b(: :)").readings [.next, .next] ∧
      (∃ e ∈ es, e.token.isEof = true) ∧ es.flatMap Excerpt.chars = "\x7b(: :)".toList := by
  have brace := next_of_token (s := Scanner.ofText "\x7b(: :)") rfl (settle_of_token rfl)
  have eof := next_of_token (s := (Scanner.ofText "\x7b(: :)").next.2) (by rw [brace]; rfl)
    (by rw [brace]; exact (settle_of_skip rfl).trans (settle_of_token rfl))
  have last : ∃ r ∈ (Scanner.ofText "\x7b(: :)").readings [.next, .next],
      r.token.isEof = true := by
    simp [readings, act, eof, Answer.token?, Token.isEof, tokenAt]
  obtain ⟨es, same, -, -, -, -, whole⟩ := session_lossless "\x7b(: :)" {} [.next, .next]
  have ended : ∃ e ∈ es, e.token.isEof = true := by
    obtain ⟨r, given, isEof⟩ := last
    obtain ⟨e, member, rfl⟩ := List.mem_map.mp (same ▸ given)
    exact ⟨e, member, isEof⟩
  exact ⟨es, same, ended, whole ended⟩

end Scanner

end QueryScan
