import QueryScan.Proofs.Permission
import QueryScan.Proofs.Positions
import QueryScan.Proofs.RuleSoundness
import QueryScan.Scan.Session

/-! Whole sessions. One call passes over a gap and reads one token or finds one fault; the cursor
stays in the source whatever is asked, so what holds of one call holds of every call. -/
namespace QueryScan

open Grammar

theorem Grammar.gap_append {b : Bool} {u v : List Char} (first : Gap b u) (second : Gap b v) :
    Gap b (u ++ v) := by
  induction first with
  | nil => exact second
  | blank allowed blank _ ih => exact .blank allowed blank ih
  | @comment p w comment _ ih =>
      rw [List.append_assoc]
      exact .comment comment ih

theorem Grammar.gap_of_blanks {w : List Char} (all : ∀ c ∈ w, Unicode.isBlank c = true) :
    Gap true w := by
  induction w with
  | nil => exact .nil
  | cons c w ih =>
      refine .blank rfl (all c List.mem_cons_self) (ih ?_)
      intro x member
      exact all x (List.mem_cons_of_mem c member)

/-- Blanks are passed over where they are neither tokens nor part of a pragma. -/
def Mode.passesBlanks (m : Mode) : Bool :=
  !(m.blanks || m.pragma)

theorem gap_of_trivia {m : Mode} {w : List Char} (h : Trivia m w) : Gap m.passesBlanks w := by
  rcases h with comment | ⟨implicit, outside, all⟩
  · have single : Gap m.passesBlanks (w ++ []) := .comment comment .nil
    rwa [List.append_nil] at single
  · rw [show m.passesBlanks = true by simp [Mode.passesBlanks, implicit, outside]]
    exact gap_of_blanks all.2

/-- The text at the cursor starts with `gap`, which may be passed over in the mode. -/
structure Passable (m : Mode) (c : Cursor) (gap : List Char) : Prop where
  ahead : gap <+: c.rest
  form : Gap m.passesBlanks gap
  content : m.inContent = true → gap = []

namespace Scanner

/-- What is passed over comes before the token or the fault. -/
theorem settle_cases (m : Mode) (c : Cursor) :
    ∃ gap, Passable m c gap ∧
      ((∃ k n, settle m c = (c.forward gap.length, .ok (k, n)) ∧
          Scan.step m (c.forward gap.length).rest = .token k n) ∨
        ∃ cause, settle m c = (c.forward gap.length, .error cause) ∧
          Scan.step m (c.forward gap.length).rest = .fault cause) := by
  fun_induction settle m c with
  | case1 c n found ih =>
      obtain ⟨gap, passable, outcome⟩ := ih
      have reads := Scan.step_reads m c.rest
      have outside := Scan.step_permitted m c.rest
      rw [found] at reads outside
      obtain ⟨w, r, split, rfl, trivia⟩ := reads
      rw [Cursor.forward_forward, ← List.length_append] at outcome
      refine ⟨w ++ gap, ⟨?_, gap_append (gap_of_trivia trivia) passable.form, ?_⟩, outcome⟩
      · rw [split, List.prefix_append_right_inj]
        simpa only [Cursor.forward_rest, split, List.drop_left] using passable.ahead
      · intro content
        rw [show m.inContent = false from outside] at content
        contradiction
  | case2 c k n found =>
      exact ⟨[], ⟨List.nil_prefix, .nil, fun _ => rfl⟩, .inl ⟨k, n, rfl, found⟩⟩
  | case3 c cause found =>
      exact ⟨[], ⟨List.nil_prefix, .nil, fun _ => rfl⟩, .inr ⟨cause, rfl, found⟩⟩

theorem settle_unfold (m : Mode) (c : Cursor) :
    settle m c =
      match Scan.step m c.rest with
      | .skip n => settle m (c.forward n)
      | .token kind length => (c, .ok (kind, length))
      | .fault cause => (c, .error cause) := by
  rw [settle]
  split
  · next found => rw [found]
  · next found => rw [found]
  · next found => rw [found]

theorem settle_of_token {m : Mode} {c : Cursor} {k : Kind} {n : Nat}
    (found : Scan.step m c.rest = .token k n) : settle m c = (c, .ok (k, n)) := by
  rw [settle_unfold, found]

theorem settle_of_fault {m : Mode} {c : Cursor} {cause : Fault}
    (found : Scan.step m c.rest = .fault cause) : settle m c = (c, .error cause) := by
  rw [settle_unfold, found]

theorem settle_of_skip {m : Mode} {c : Cursor} {n : Nat}
    (found : Scan.step m c.rest = .skip n) : settle m c = settle m (c.forward n) := by
  rw [settle_unfold, found]

theorem next_of_token {s : Scanner} {c : Cursor} {k : Kind} {n : Nat} (sound : s.failure = none)
    (settled : settle s.mode s.cursor = (c, .ok (k, n))) :
    s.next = (.ok (tokenAt c k n), { s with
      cursor := c.forward n
      mode := s.mode.onToken k
      pragmaStart := pragmaBehind s.pragmaStart c.place k }) := by
  unfold next
  split
  · next failed => rw [sound] at failed; contradiction
  · rw [settled]

theorem next_of_fault {s : Scanner} {c : Cursor} {cause : Fault} (sound : s.failure = none)
    (settled : settle s.mode s.cursor = (c, .error cause)) :
    s.next = (.error (cause.locate c s.pragmaStart), { s with
      cursor := c.forward (cause.reach c.rest)
      failure := some (cause.locate c s.pragmaStart)
      log := s.log.emit (cause.locate c s.pragmaStart).diagnostic }) := by
  unfold next
  split
  · next failed => rw [sound] at failed; contradiction
  · rw [settled]

theorem next_of_failure {s : Scanner} {e : LexError} (failed : s.failure = some e) :
    s.next = (.error e, s) := by
  simp only [next, failed]

/-- The next call takes the first characters ahead, `w`, as a token of the kind `k`. -/
structure Takes (s : Scanner) (k : Kind) (w : List Char) : Prop where
  ahead : w <+: s.cursor.rest
  given : s.next.1 = .ok ⟨k, String.ofList w,
    s.cursor.place.upTo (s.cursor.forward w.length).place.offset⟩
  behind : s.next.2.cursor = s.cursor.forward w.length

theorem takes_of_step {s : Scanner} {k : Kind} {w : List Char} (sound : s.failure = none)
    (ahead : w <+: s.cursor.rest)
    (found : Scan.step s.mode s.cursor.rest = .token k w.length) : s.Takes k w := by
  have called := next_of_token sound (settle_of_token found)
  obtain ⟨r, split⟩ := ahead
  refine ⟨⟨r, split⟩, ?_, ?_⟩
  · rw [called, tokenAt, ← split, List.take_left]
  · rw [called]

/-- A call passes over `gap` and gives `t`. -/
structure Gives (s : Scanner) (gap : List Char) (t : Token) (s' : Scanner) : Prop where
  passable : Passable s.mode s.cursor gap
  read : Scan.step s.mode (s.cursor.forward gap.length).rest = .token t.kind t.text.toList.length
  text : t.text.toList <+: (s.cursor.forward gap.length).rest
  span : t.span = (s.cursor.forward gap.length).place.upTo
    ((s.cursor.forward gap.length).forward t.text.toList.length).place.offset
  after : s' = { s with
    cursor := (s.cursor.forward gap.length).forward t.text.toList.length
    mode := s.mode.onToken t.kind
    pragmaStart := pragmaBehind s.pragmaStart (s.cursor.forward gap.length).place t.kind }

theorem Gives.permitted {s s' : Scanner} {gap : List Char} {t : Token} (h : s.Gives gap t s') :
    s.mode.permits t.kind = true := by
  have permitted := Scan.step_permitted s.mode (s.cursor.forward gap.length).rest
  rwa [h.read] at permitted

theorem Gives.lexeme {s s' : Scanner} {gap : List Char} {t : Token} (h : s.Gives gap t s') :
    Lexeme s.mode t.kind t.text.toList := by
  have reads := Scan.step_reads s.mode (s.cursor.forward gap.length).rest
  obtain ⟨r, ahead⟩ := h.text
  rw [h.read, ← ahead] at reads
  exact reads.lexeme

/-- The end is only given where nothing is ahead. -/
theorem Gives.ended {s s' : Scanner} {gap : List Char} {t : Token} (h : s.Gives gap t s')
    (eof : t.isEof = true) :
    t.kind = .eof ∧ t.text.toList = [] ∧ (s.cursor.forward gap.length).rest = [] := by
  have kind : t.kind = .eof := by simpa [Token.isEof] using eof
  have read := h.read
  rw [kind] at read
  obtain ⟨ended, length⟩ := Scan.step_eof read
  exact ⟨kind, List.length_eq_zero_iff.mp length, ended⟩

theorem Gives.text_ne_nil {s s' : Scanner} {gap : List Char} {t : Token} (h : s.Gives gap t s')
    (more : t.isEof = false) : t.text.toList ≠ [] := by
  obtain ⟨w, r, -, length, ne⟩ :=
    Scan.step_token_split h.read (by simpa [Token.isEof] using more)
  intro empty
  rw [empty] at length
  exact ne (List.length_eq_zero_iff.mp length.symm)

/-- A call passes over `gap` and fails for `cause`. -/
structure Fails (s : Scanner) (gap : List Char) (cause : Fault) (e : LexError) (s' : Scanner) :
    Prop where
  passable : Passable s.mode s.cursor gap
  found : Scan.step s.mode (s.cursor.forward gap.length).rest = .fault cause
  error : e = cause.locate (s.cursor.forward gap.length) s.pragmaStart
  after : s' = { s with
    cursor := (s.cursor.forward gap.length).forward
      (cause.reach (s.cursor.forward gap.length).rest)
    failure := some e
    log := s.log.emit e.diagnostic }

/-- The three outcomes of a call: an earlier error again, a token, or a new error. -/
theorem next_cases (s : Scanner) :
    (∃ e, s.failure = some e ∧ s.next = (.error e, s)) ∨
      (s.failure = none ∧ ∃ gap t s', s.Gives gap t s' ∧ s.next = (.ok t, s')) ∨
      (s.failure = none ∧ ∃ gap cause e s', s.Fails gap cause e s' ∧ s.next = (.error e, s')) := by
  cases failed : s.failure with
  | some e => exact .inl ⟨e, rfl, next_of_failure failed⟩
  | none =>
      refine .inr ?_
      obtain ⟨gap, passable, ⟨k, n, settled, found⟩ | ⟨cause, settled, found⟩⟩ :=
        settle_cases s.mode s.cursor
      · refine .inl ⟨rfl, gap, _, _, ?_, next_of_token failed settled⟩
        have reads := Scan.step_reads s.mode (s.cursor.forward gap.length).rest
        rw [found] at reads
        obtain ⟨w, r, split, rfl, -⟩ := reads
        have text : (tokenAt (s.cursor.forward gap.length) k w.length).text.toList = w := by
          simp only [tokenAt, String.toList_ofList, split, List.take_left]
        constructor
        · exact passable
        · rw [text]; exact found
        · rw [text, split]; exact List.prefix_append w r
        · rw [text]; rfl
        · rw [text]; rfl
      · refine .inr ⟨rfl, gap, cause, _, _, ?_, next_of_fault failed settled⟩
        exact ⟨passable, found, rfl, rfl⟩

theorem gives_of_next {s s' : Scanner} {t : Token} (h : s.next = (.ok t, s')) :
    ∃ gap, s.Gives gap t s' := by
  rcases next_cases s with ⟨e, -, same⟩ | ⟨-, gap, t', u, gives, same⟩ | ⟨-, _, _, e, u, -, same⟩
  · rw [h] at same; cases same
  · rw [h] at same
    cases same
    exact ⟨gap, gives⟩
  · rw [h] at same; cases same

theorem fails_of_next {s s' : Scanner} {e : LexError} (sound : s.failure = none)
    (h : s.next = (.error e, s')) : ∃ gap cause, s.Fails gap cause e s' := by
  rcases next_cases s with ⟨e', failed, -⟩ | ⟨-, _, t, u, -, same⟩ |
    ⟨-, gap, cause, e', u, fails, same⟩
  · rw [sound] at failed; contradiction
  · rw [h] at same; cases same
  · rw [h] at same
    cases same
    exact ⟨gap, cause, fails⟩

end Scanner

/-- The token in an answer, if there is one. -/
def Answer.token? : Answer → Option Token
  | .token (.ok t) => some t
  | .item (some (.ok t)) => some t
  | _ => none

/-- The error in an answer, if there is one. -/
def Answer.error? : Answer → Option LexError
  | .token (.error e) => some e
  | .item (some (.error e)) => some e
  | _ => none

/-- A token and the mode in which it was asked for. -/
structure Reading where
  mode : Mode
  token : Token

namespace Scanner

/-- What a request does, and what it is answered with. -/
inductive Reply (s : Scanner) : Action → Answer → Scanner → Prop
  | next {result s'} : s.next = (result, s') → Reply s .next (.token result) s'
  | spent : s.exhausted = true → Reply s .pull (.item none) s
  | pulled {t s'} : s.exhausted = false → s.next = (.ok t, s') → t.isEof = false →
      Reply s .pull (.item (some (.ok t))) s'
  | ended {t s'} : s.exhausted = false → s.next = (.ok t, s') → t.isEof = true →
      Reply s .pull (.item none) { s' with exhausted := true }
  | failed {e s'} : s.exhausted = false → s.next = (.error e, s') →
      Reply s .pull (.item (some (.error e))) { s' with exhausted := true }
  | change (what : ModeChange) : Reply s (.change what) .done (s.change what)
  | errors : Reply s .errors (.errors s.log.hasErrors s.log.count) s
  | takeLog : Reply s .takeLog (.log s.log.entries) { s with log := {} }

theorem reply_act (s : Scanner) (a : Action) : s.Reply a (s.act a).1 (s.act a).2 := by
  cases a with
  | next => exact .next rfl
  | pull =>
      simp only [act, pull]
      split
      · next spent => exact .spent spent
      · next going =>
          have fresh : s.exhausted = false := by simpa using going
          split
          · next called =>
              split
              · next eof => exact .ended fresh called eof
              · next more => exact .pulled fresh called (by simpa using more)
          · next called => exact .failed fresh called
  | change what => exact .change what
  | errors => exact .errors
  | takeLog => exact .takeLog

namespace Reply

variable {s s' : Scanner} {a : Action} {answer : Answer}

theorem token {t : Token} (h : s.Reply a answer s') (given : answer.token? = some t) :
    s.next = (.ok t, s') := by
  cases h with
  | @next result _ called =>
      cases result with
      | ok t' => cases given; exact called
      | error e => cases given
  | pulled fresh called more => cases given; exact called
  | spent | ended | failed | change | errors | takeLog => cases given

theorem error {e : LexError} (h : s.Reply a answer s') (given : answer.error? = some e) :
    s.next.1 = .error e := by
  cases h with
  | @next result _ called =>
      cases result with
      | ok t => cases given
      | error e' => cases given; rw [called]
  | failed fresh called => cases given; rw [called]
  | spent | pulled | ended | change | errors | takeLog => cases given

/-- What a call and a change of mode keep is kept by every request, when it depends neither on the
log nor on how far the sequence of tokens has come. -/
theorem keeps {I : Scanner → Prop} (called : ∀ s, I s → I s.next.2)
    (changed : ∀ s what, I s → I (s.change what))
    (marked : ∀ s spent log, I s → I { s with exhausted := spent, log := log })
    (h : s.Reply a answer s') (before : I s) : I s' := by
  have behind := called s before
  cases h with
  | next same => rwa [same] at behind
  | spent => exact before
  | pulled _ same _ => rwa [same] at behind
  | ended _ same _ => rw [same] at behind; exact marked _ _ _ behind
  | failed _ same => rw [same] at behind; exact marked _ _ _ behind
  | change what => exact changed s what before
  | errors => exact before
  | takeLog => exact marked _ _ _ before

end Reply

/-- The scanner behind all that is asked of it. -/
def after (s : Scanner) : List Action → Scanner
  | [] => s
  | a :: rest => (s.act a).2.after rest

/-- The tokens of a session, each with the mode before it. -/
def readings (s : Scanner) : List Action → List Reading
  | [] => []
  | a :: rest =>
    ((s.act a).1.token?.map (Reading.mk s.mode)).toList ++ (s.act a).2.readings rest

/-- The readings hold the tokens of the answers and no others. -/
theorem map_token_readings (s : Scanner) (actions : List Action) :
    (s.readings actions).map (·.token) =
      (s.session actions).filterMap fun answer => answer.1.token? := by
  induction actions generalizing s with
  | nil => rfl
  | cons a rest ih =>
      rw [readings, session, List.map_append, ih]
      cases given : (s.act a).1.token? with
      | none => simp [given]
      | some t => simp [given]

/-- What holds of every single call holds of every token of a session. -/
theorem forall_readings {P : Reading → Prop}
    (each : ∀ s t s', next s = (.ok t, s') → P ⟨s.mode, t⟩) (s : Scanner)
    (actions : List Action) : ∀ r ∈ s.readings actions, P r := by
  induction actions generalizing s with
  | nil =>
      intro r member
      cases member
  | cons a rest ih =>
      intro r member
      rcases List.mem_append.mp member with now | later
      · obtain ⟨t, given, rfl⟩ := Option.map_eq_some_iff.mp (Option.mem_toList.mp now)
        exact each s t _ ((s.reply_act a).token given)
      · exact ih (s.act a).2 r later

/-- What every request keeps holds along a session, and so does all that follows from it. -/
theorem forall_session {I : Scanner → Prop} {P : Answer × Scanner → Prop}
    (each : ∀ s a r, I s → s.Reply a r.1 r.2 → I r.2 ∧ P r) {s : Scanner} (start : I s)
    (actions : List Action) : ∀ r ∈ s.session actions, P r := by
  induction actions generalizing s with
  | nil =>
      intro r member
      cases member
  | cons a rest ih =>
      intro r member
      obtain ⟨kept, given⟩ := each s a _ start (s.reply_act a)
      rcases List.mem_cons.mp member with rfl | later
      · exact given
      · exact ih kept r later

/-! ### The sequence of tokens -/

theorem pull_of_token {s s' : Scanner} {t : Token} (fresh : s.exhausted = false)
    (called : s.next = (.ok t, s')) (more : t.isEof = false) : s.pull = (some (.ok t), s') := by
  simp [pull, fresh, called, more]

theorem pull_of_eof {s s' : Scanner} {t : Token} (fresh : s.exhausted = false)
    (called : s.next = (.ok t, s')) (last : t.isEof = true) :
    s.pull = (none, { s' with exhausted := true }) := by
  simp [pull, fresh, called, last]

theorem pull_of_error {s s' : Scanner} {e : LexError} (fresh : s.exhausted = false)
    (called : s.next = (.error e, s')) :
    s.pull = (some (.error e), { s' with exhausted := true }) := by
  simp [pull, fresh, called]

theorem token_of_pull {s s' : Scanner} {t : Token} (h : s.pull = (some (.ok t), s')) :
    s.next = (.ok t, s') ∧ t.isEof = false := by
  have reply := s.reply_act .pull
  simp only [act, h] at reply
  cases reply with
  | pulled _ called more => exact ⟨called, more⟩

theorem collect_unfold (s : Scanner) (read : Array Token) :
    s.collect read =
      match s.pull with
      | (some (.ok t), s') => s'.collect (read.push t)
      | (some (.error e), s') => (read, some e, s')
      | (none, s') => (read, none, s') := by
  rw [collect]
  split
  · next found => rw [found]
  · next found => rw [found]
  · next found => rw [found]

/-- The sequence of tokens is `ts`, and it ends without an error. -/
inductive Yields : Scanner → List Token → Prop
  | done {s s'} : s.pull = (none, s') → Yields s []
  | more {s s' t ts} : s.pull = (some (.ok t), s') → Yields s' ts → Yields s (t :: ts)

theorem yields_of_collect {s s' : Scanner} {read tokens : Array Token}
    (h : s.collect read = (tokens, none, s')) :
    ∃ ts, s.Yields ts ∧ tokens.toList = read.toList ++ ts := by
  fun_induction collect s read with
  | case1 s read t u pulled ih =>
      obtain ⟨ts, yields, same⟩ := ih h
      refine ⟨t :: ts, .more pulled yields, ?_⟩
      rw [same, Array.toList_push, List.append_assoc]
      rfl
  | case2 s read e u pulled => cases h
  | case3 s read u pulled =>
      cases h
      exact ⟨[], .done pulled, (List.append_nil _).symm⟩

theorem Yields.collect {s : Scanner} {ts : List Token} (h : s.Yields ts) (read : Array Token) :
    ∃ tokens s', s.collect read = (tokens, none, s') ∧ tokens.toList = read.toList ++ ts := by
  induction h generalizing read with
  | @done s s' pulled =>
      refine ⟨read, s', ?_, (List.append_nil _).symm⟩
      rw [collect_unfold, pulled]
  | @more s s' t ts pulled _ ih =>
      obtain ⟨tokens, last, same, list⟩ := ih (read.push t)
      refine ⟨tokens, last, ?_, ?_⟩
      · rw [collect_unfold, pulled]
        exact same
      · rw [list, Array.toList_push, List.append_assoc]
        rfl

theorem tokenize_eq_ok_iff {s : Scanner} {ts : List Token} :
    s.tokenize = .ok ts ↔ s.Yields ts := by
  constructor
  · intro h
    unfold tokenize at h
    split at h
    · next tokens s' same =>
        cases h
        obtain ⟨ts, yields, list⟩ := yields_of_collect same
        rwa [list]
    · cases h
  · intro h
    obtain ⟨tokens, s', same, list⟩ := h.collect #[]
    simp only [tokenize, same, list]
    rfl

/-- The next tokens of the sequence, from the first scanner to the second. -/
inductive Pulls : Scanner → List Token → Scanner → Prop
  | nil {s} : Pulls s [] s
  | cons {s s' last t ts} : s.pull = (some (.ok t), s') → Pulls s' ts last →
      Pulls s (t :: ts) last

theorem Pulls.collect {s last : Scanner} {ts : List Token} (h : s.Pulls ts last)
    (read : Array Token) : s.collect read = last.collect (read ++ ts.toArray) := by
  induction h generalizing read with
  | nil => simp
  | @cons s s' last t ts pulled _ ih =>
      rw [collect_unfold, pulled]
      exact (ih (read.push t)).trans (by simp)

theorem collect_at_end {s : Scanner} (sound : s.failure = none) (fresh : s.exhausted = false)
    (found : Scan.step s.mode s.cursor.rest = .token .eof 0) (read : Array Token) :
    ∃ s', s.collect read = (read, none, s') ∧ s'.mode = s.mode := by
  have called := next_of_token sound (settle_of_token found)
  have pulled := pull_of_eof fresh called rfl
  rw [collect_unfold, pulled]
  exact ⟨_, rfl, rfl⟩

theorem collect_at_fault {s : Scanner} (sound : s.failure = none) (fresh : s.exhausted = false)
    {cause : Fault} (found : Scan.step s.mode s.cursor.rest = .fault cause) (read : Array Token) :
    ∃ s', s.collect read = (read, some (cause.locate s.cursor s.pragmaStart), s') ∧
      s'.mode = s.mode := by
  have called := next_of_fault sound (settle_of_fault found)
  have pulled := pull_of_error fresh called
  rw [collect_unfold, pulled]
  exact ⟨_, rfl, rfl⟩

/-! ### The cursor -/

theorem next_placed {text : List Char} {s : Scanner} (placed : s.cursor.In text) :
    s.next.2.cursor.In text := by
  rcases next_cases s with ⟨e, -, same⟩ | ⟨-, gap, t, s', gives, same⟩ |
    ⟨-, gap, cause, e, s', fails, same⟩
  · rw [same]; exact placed
  · rw [same, gives.after]
    exact (placed.forward _).forward _
  · rw [same, fails.after]
    exact (placed.forward _).forward _

theorem Reply.placed {text : List Char} {s s' : Scanner} {a : Action} {answer : Answer}
    (h : s.Reply a answer s') (placed : s.cursor.In text) : s'.cursor.In text := by
  refine h.keeps (I := fun s => s.cursor.In text) ?_ ?_ ?_ placed
  · intro s placed
    exact next_placed placed
  · intro s what placed
    exact placed
  · intro s spent log placed
    exact placed

theorem after_placed {text : List Char} {s : Scanner} (placed : s.cursor.In text)
    (actions : List Action) : (s.after actions).cursor.In text := by
  induction actions generalizing s with
  | nil => exact placed
  | cons a rest ih => exact ih ((s.reply_act a).placed placed)

end Scanner

end QueryScan
