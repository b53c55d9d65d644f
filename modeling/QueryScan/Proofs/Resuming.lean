import QueryScan.Proofs.Outcomes
import Mathlib.Data.List.Forall2

/-! Reading on in a fresh scanner. The mode is all that scanning takes along: the text ahead, read
afresh in the mode at hand, gives what would have come anyway, each place moved by that of the cut.
Where an open pragma started is not part of the mode, and is the one thing that gets lost. -/
namespace QueryScan

/-! ### Places of a text inside another -/

/-- The place `p` of a text that itself stands at `origin`. Only on its first line do columns
move. -/
def Place.within (origin p : Place) : Place :=
  ⟨p.offset + origin.offset, p.line + (origin.line - 1),
    if p.line = 1 then p.column + (origin.column - 1) else p.column⟩

def Span.within (origin : Place) (s : Span) : Span :=
  (origin.within ⟨s.start, s.line, s.column⟩).upTo (s.stop + origin.offset)

def Token.within (origin : Place) (t : Token) : Token :=
  { t with span := t.span.within origin }

def LexError.within (origin : Place) : LexError → LexError
  | .noViableToken found s => .noViableToken found (s.within origin)
  | .unterminated construct s => .unterminated construct (s.within origin)
  | .malformedNumber text s => .malformedNumber text (s.within origin)
  | .malformedReference s => .malformedReference (s.within origin)

namespace Place

variable {origin p : Place}

/-- The counter of lines has a number left for every line feed ahead, and has had none twice. -/
def Room (p : Place) (ahead : List Char) : Prop :=
  '\n' ∈ ahead → p.line ≠ 0 ∧ p.line.toNat + ahead.count '\n' ≤ UInt32.size

theorem Room.step {c : Char} {r : List Char} (h : p.Room (c :: r)) : (p.step c).Room r := by
  intro feeds
  obtain ⟨ne, room⟩ := h (List.mem_cons_of_mem c feeds)
  have some : 0 < r.count '\n' := List.count_pos_iff.mpr feeds
  unfold Place.step
  split
  · next feed =>
      rw [feed, List.count_cons_self] at room
      have next : (p.line + 1).toNat = p.line.toNat + 1 := by
        rw [UInt32.toNat_add, UInt32.toNat_one]
        exact Nat.mod_eq_of_lt (by simp only [UInt32.size] at room; omega)
      refine ⟨fun zero => ?_, ?_⟩
      · rw [show p.line + 1 = 0 from zero, UInt32.toNat_zero] at next
        omega
      · rw [show (p.line + 1).toNat = _ from next]
        omega
  · next other =>
      rw [List.count_cons_of_ne other] at room
      exact ⟨ne, room⟩

theorem Room.after {w r : List Char} (h : p.Room (w ++ r)) : (p.after w).Room r := by
  induction w generalizing p with
  | nil => exact h
  | cons c w ih => exact ih h.step

theorem step_within {c : Char} {r : List Char} (room : p.Room (c :: r)) :
    (origin.within p).step c = origin.within (p.step c) := by
  unfold step
  split
  · next feed =>
      obtain ⟨ne, -⟩ := room (feed ▸ List.mem_cons_self)
      have later : p.line + 1 ≠ 1 := by
        intro same
        exact ne (by rw [← UInt32.add_sub_cancel p.line 1, same, UInt32.sub_self])
      simp only [within, mk.injEq]
      refine ⟨by omega, by ac_rfl, ?_⟩
      rw [if_neg later]
  · simp only [within, mk.injEq, true_and]
    refine ⟨by omega, ?_⟩
    split
    · ac_rfl
    · rfl

theorem after_within {w r : List Char} (room : p.Room (w ++ r)) :
    (origin.within p).after w = origin.within (p.after w) := by
  induction w generalizing p with
  | nil => rfl
  | cons c w ih => rw [after_cons, after_cons, step_within room, ih room.step]

/-- A text starts where it stands. -/
theorem within_start (origin : Place) : origin.within {} = origin := by
  simp only [within, Nat.zero_add, if_true, UInt32.add_comm 1, UInt32.sub_add_cancel]

end Place

/-- The cursor `c` has the same text ahead as `fresh`, which counts from `origin`. -/
structure Cursor.Echoes (origin : Place) (fresh c : Cursor) : Prop where
  rest : c.rest = fresh.rest
  place : c.place = origin.within fresh.place
  room : fresh.place.Room fresh.rest

namespace Cursor.Echoes

variable {origin : Place} {fresh c : Cursor}

theorem forward (h : Echoes origin fresh c) (n : Nat) :
    Echoes origin (fresh.forward n) (c.forward n) := by
  have room : fresh.place.Room (fresh.rest.take n ++ fresh.rest.drop n) := by
    rw [List.take_append_drop]
    exact h.room
  constructor
  · rw [forward_rest, forward_rest, h.rest]
  · rw [forward_place, forward_place, h.place, h.rest, Place.after_within room]
  · rw [forward_place, forward_rest]
    exact room.after

theorem offset (h : Echoes origin fresh c) :
    c.place.offset = fresh.place.offset + origin.offset := by
  rw [h.place]
  rfl

theorem offset_add (h : Echoes origin fresh c) (k : Nat) :
    c.place.offset + k = fresh.place.offset + k + origin.offset := by
  rw [h.offset, Nat.add_right_comm]

theorem upTo (h : Echoes origin fresh c) (stop : Nat) :
    c.place.upTo (stop + origin.offset) = (fresh.place.upTo stop).within origin := by
  rw [h.place]
  rfl

theorem tokenAt (h : Echoes origin fresh c) (k : Kind) (n : Nat) :
    Scanner.tokenAt c k n = (Scanner.tokenAt fresh k n).within origin := by
  simp only [Scanner.tokenAt, Token.within, h.rest, (h.forward n).offset, h.upTo]

end Cursor.Echoes

/-! ### Errors -/

/-- The error `e'` is `e` with its place moved. From inside a pragma the start of the pragma is not
known, so an error that blames it keeps only its end. -/
inductive LexError.Echoes (origin : Place) (inside : Bool) : LexError → LexError → Prop
  | moved (e : LexError) : Echoes origin inside e (e.within origin)
  | pragma (start start' : Place) (stop : Nat) : inside = true →
      Echoes origin inside (.unterminated .pragma (start.upTo stop))
        (.unterminated .pragma (start'.upTo (stop + origin.offset)))

namespace Fault

variable {origin : Place} {fresh c : Cursor}

theorem locate_within (h : Cursor.Echoes origin fresh c) (pragma : Option Place) (cause : Fault) :
    cause.locate c (pragma.map origin.within) = (cause.locate fresh pragma).within origin := by
  cases cause with
  | noViable ahead found =>
      have there := h.forward ahead
      simp only [locate, LexError.within, there.offset_add, there.upTo]
  | unterminated construct =>
      simp only [locate, LexError.within, h.rest, h.offset_add]
      by_cases open' : construct = .pragma
      · rw [if_pos open', if_pos open']
        cases pragma with
        | none => rw [Option.map_none, Option.getD_none, Option.getD_none, h.upTo]
        | some p => rfl
      · rw [if_neg open', if_neg open', h.upTo]
  | malformedNumber length =>
      simp only [locate, LexError.within, h.rest, (h.forward length).offset, h.upTo]
  | malformedReference ahead length =>
      have there := h.forward ahead
      simp only [locate, LexError.within, (there.forward length).offset, there.upTo]

theorem locate_echoes (h : Cursor.Echoes origin fresh c) {inside : Bool} {known : Option Place}
    {pragma : Option Place} (opened : inside = false → pragma = known.map origin.within)
    (cause : Fault) :
    LexError.Echoes origin inside (cause.locate fresh known) (cause.locate c pragma) := by
  by_cases blamed : inside = true ∧ cause = .unterminated .pragma
  · obtain ⟨within, rfl⟩ := blamed
    simp only [locate, if_true, h.rest, h.offset_add]
    exact .pragma _ _ _ within
  · have same : cause.locate c pragma = cause.locate c (known.map origin.within) := by
      cases inside with
      | false => rw [opened rfl]
      | true =>
          cases cause with
          | unterminated construct =>
              have other : construct ≠ .pragma := by
                rintro rfl
                exact blamed ⟨rfl, rfl⟩
              simp only [locate, if_neg other]
          | noViable | malformedNumber | malformedReference => rfl
    rw [same, locate_within h]
    exact .moved _

end Fault

/-! ### Two scanners on the same text -/

namespace Scanner

variable {origin : Place} {inside : Bool}

theorem settle_echoes {fresh c d : Cursor} {m : Mode} {outcome : Except Fault (Kind × Nat)}
    (h : Cursor.Echoes origin fresh c) (settled : settle m fresh = (d, outcome)) :
    ∃ c', settle m c = (c', outcome) ∧ Cursor.Echoes origin d c' := by
  fun_induction settle m fresh generalizing c with
  | case1 fresh n found ih =>
      rw [settle_of_skip (c := c) (by rw [h.rest]; exact found)]
      exact ih (h.forward n) settled
  | case2 fresh k n found =>
      cases settled
      exact ⟨c, settle_of_token (by rw [h.rest]; exact found), h⟩
  | case3 fresh cause found =>
      cases settled
      exact ⟨c, settle_of_fault (by rw [h.rest]; exact found), h⟩

/-- The scanner `s` goes on like `fresh`, whose text starts at `origin`. Where nothing is left to
read it does not matter whether the end has been told. -/
structure Echoes (origin : Place) (inside : Bool) (fresh s : Scanner) : Prop where
  cursor : Cursor.Echoes origin fresh.cursor s.cursor
  mode : s.mode = fresh.mode
  pragma : inside = false → s.pragmaStart = fresh.pragmaStart.map origin.within
  failure : Option.Rel (LexError.Echoes origin inside) fresh.failure s.failure
  spent : s.exhausted = fresh.exhausted ∨ ∃ t, fresh.Ended t

/-- The result of a call, with its place moved. -/
inductive ResultEchoes (origin : Place) (inside : Bool) :
    Except LexError Token → Except LexError Token → Prop
  | token (t : Token) : ResultEchoes origin inside (.ok t) (.ok (t.within origin))
  | error {e e' : LexError} : LexError.Echoes origin inside e e' →
      ResultEchoes origin inside (.error e) (.error e')

/-- The answers to a request, the places in them moved, and the scanners behind it. -/
structure AnswerEchoes (origin : Place) (inside : Bool) (r r' : Answer × Scanner) : Prop where
  token : r'.1.token? = r.1.token?.map (Token.within origin)
  error : Option.Rel (LexError.Echoes origin inside) r.1.error? r'.1.error?
  place : r'.2.cursor.place = origin.within r.2.cursor.place
  mode : r'.2.mode = r.2.mode

theorem ResultEchoes.token_answer {r r' : Except LexError Token}
    (h : ResultEchoes origin inside r r') :
    (Answer.token r').token? = (Answer.token r).token?.map (Token.within origin) ∧
      Option.Rel (LexError.Echoes origin inside) (Answer.token r).error?
        (Answer.token r').error? := by
  cases h with
  | token t => exact ⟨rfl, .none⟩
  | error echo => exact ⟨rfl, .some echo⟩

theorem ResultEchoes.item_answer {i i' : Option (Except LexError Token)}
    (h : Option.Rel (ResultEchoes origin inside) i i') :
    (Answer.item i').token? = (Answer.item i).token?.map (Token.within origin) ∧
      Option.Rel (LexError.Echoes origin inside) (Answer.item i).error?
        (Answer.item i').error? := by
  cases h with
  | none => exact ⟨rfl, .none⟩
  | some result =>
      cases result with
      | token t => exact ⟨rfl, .none⟩
      | error echo => exact ⟨rfl, .some echo⟩

theorem Ended.pull {s : Scanner} {t : Token} (h : s.Ended t) :
    s.pull = (none, { s with exhausted := true }) := by
  cases spent : s.exhausted with
  | true =>
      simp only [Scanner.pull, spent, if_true]
      rw [← spent]
  | false => exact pull_of_eof spent h.next (by rw [h.token]; rfl)

theorem pragmaBehind_within {known pragma : Option Place} {p : Place}
    (h : pragma = known.map origin.within) (k : Kind) :
    pragmaBehind pragma (origin.within p) k = (pragmaBehind known p k).map origin.within := by
  unfold pragmaBehind
  split
  · rfl
  · rfl
  · exact h

namespace Echoes

variable {fresh s : Scanner}

theorem ended (h : Echoes origin inside fresh s) {t : Token} (last : fresh.Ended t) :
    ∃ t', s.Ended t' := by
  refine ⟨_, ?_, h.cursor.rest.trans last.rest, ?_, rfl⟩
  · have failure := h.failure
    rw [last.sound] at failure
    cases failed : s.failure with
    | none => rfl
    | some e =>
        rw [failed] at failure
        cases failure
  · rw [h.mode, last.outside]

theorem spent_next (h : Echoes origin inside fresh s) :
    s.next.2.exhausted = fresh.next.2.exhausted ∨ ∃ t, fresh.next.2.Ended t := by
  rcases h.spent with same | ⟨t, last⟩
  · refine .inl ?_
    rw [next_exhausted, next_exhausted, same]
  · refine .inr ⟨t, ?_⟩
    rw [last.next]
    exact last

theorem next (h : Echoes origin inside fresh s) :
    ResultEchoes origin inside fresh.next.1 s.next.1 ∧
      Echoes origin inside fresh.next.2 s.next.2 := by
  have spent := h.spent_next
  match known : fresh.failure, failed : s.failure, h.failure with
  | some e, some e', .some echo =>
      rw [next_of_failure known, next_of_failure failed]
      exact ⟨.error echo, h⟩
  | none, none, .none =>
      rcases first : settle fresh.mode fresh.cursor with ⟨d, ⟨cause⟩ | ⟨k, n⟩⟩
      · obtain ⟨c, second, cursor⟩ := settle_echoes h.cursor first
        rw [← h.mode] at second
        have echo := Fault.locate_echoes cursor h.pragma cause
        rw [next_of_fault known first, next_of_fault failed second] at spent ⊢
        refine ⟨.error echo, ?_, h.mode, h.pragma, .some echo, spent⟩
        rw [cursor.rest]
        exact cursor.forward _
      · obtain ⟨c, second, cursor⟩ := settle_echoes h.cursor first
        rw [← h.mode] at second
        rw [next_of_token known first, next_of_token failed second] at spent ⊢
        refine ⟨?_, cursor.forward n, ?_, ?_, ?_, spent⟩
        · rw [cursor.tokenAt]
          exact .token _
        · rw [h.mode]
        · intro outside
          rw [cursor.place]
          exact pragmaBehind_within (h.pragma outside) k
        · exact h.failure

theorem marked (h : Echoes origin inside fresh s) :
    Echoes origin inside { fresh with exhausted := true } { s with exhausted := true } :=
  ⟨h.cursor, h.mode, h.pragma, h.failure, .inl rfl⟩

theorem pull (h : Echoes origin inside fresh s) :
    Option.Rel (ResultEchoes origin inside) fresh.pull.1 s.pull.1 ∧
      Echoes origin inside fresh.pull.2 s.pull.2 := by
  rcases h.spent with same | ⟨t, last⟩
  · cases live : fresh.exhausted with
    | true =>
        simp only [Scanner.pull, live, same, if_true]
        exact ⟨.none, h⟩
    | false =>
        rw [live] at same
        obtain ⟨result, behind⟩ := h.next
        rcases first : fresh.next with ⟨r, u⟩
        rcases second : s.next with ⟨r', v⟩
        rw [first, second] at result behind
        cases result with
        | token t =>
            cases last : t.isEof with
            | true =>
                rw [pull_of_eof live first last, pull_of_eof same second last]
                exact ⟨.none, behind.marked⟩
            | false =>
                rw [pull_of_token live first last, pull_of_token same second last]
                exact ⟨.some (.token t), behind⟩
        | error echo =>
            rw [pull_of_error live first, pull_of_error same second]
            exact ⟨.some (.error echo), behind.marked⟩
  · obtain ⟨t', last'⟩ := h.ended last
    rw [last.pull, last'.pull]
    exact ⟨.none, h.marked⟩

/-- What is asked of both scanners is answered alike by both, and they go on alike. -/
theorem act (h : Echoes origin inside fresh s) (a : Action) :
    AnswerEchoes origin inside (fresh.act a) (s.act a) ∧
      Echoes origin inside (fresh.act a).2 (s.act a).2 := by
  cases a with
  | next =>
      obtain ⟨result, behind⟩ := h.next
      obtain ⟨token, error⟩ := result.token_answer
      exact ⟨⟨token, error, behind.cursor.place, behind.mode⟩, behind⟩
  | pull =>
      obtain ⟨result, behind⟩ := h.pull
      obtain ⟨token, error⟩ := ResultEchoes.item_answer result
      exact ⟨⟨token, error, behind.cursor.place, behind.mode⟩, behind⟩
  | change what =>
      have mode : s.mode.change what = fresh.mode.change what := by rw [h.mode]
      refine ⟨⟨rfl, .none, h.cursor.place, mode⟩, h.cursor, mode, h.pragma, h.failure, ?_⟩
      refine h.spent.imp_right ?_
      rintro ⟨t, last⟩
      exact ⟨t, last.reply (.change what)⟩
  | errors => exact ⟨⟨rfl, .none, h.cursor.place, h.mode⟩, h⟩
  | takeLog =>
      refine ⟨⟨rfl, .none, h.cursor.place, h.mode⟩, h.cursor, h.mode, h.pragma, h.failure, ?_⟩
      refine h.spent.imp_right ?_
      rintro ⟨t, last⟩
      exact ⟨t, last.reply .takeLog⟩

theorem session (h : Echoes origin inside fresh s) (actions : List Action) :
    List.Forall₂ (AnswerEchoes origin inside) (fresh.session actions) (s.session actions) := by
  induction actions generalizing fresh s with
  | nil => exact .nil
  | cons a rest ih => exact .cons (h.act a).1 (ih (h.act a).2)

theorem collect (h : Echoes origin inside fresh s) (read read' : Array Token)
    (same : read'.toList = read.toList.map (Token.within origin)) :
    (s.collect read').1.toList = (fresh.collect read).1.toList.map (Token.within origin) ∧
      Option.Rel (LexError.Echoes origin inside) (fresh.collect read).2.1
        (s.collect read').2.1 := by
  fun_induction Scanner.collect fresh read generalizing s read' with
  | case1 fresh read t u pulled ih =>
      obtain ⟨result, behind⟩ := h.pull
      rcases second : s.pull with ⟨item, v⟩
      rw [pulled, second] at result behind
      cases result with
      | some result =>
          cases result with
          | token t =>
              rw [collect_unfold s, second]
              apply ih behind
              rw [Array.toList_push, Array.toList_push, List.map_append, same]
              rfl
  | case2 fresh read e u pulled =>
      obtain ⟨result, -⟩ := h.pull
      rcases second : s.pull with ⟨item, v⟩
      rw [pulled, second] at result
      cases result with
      | some result =>
          cases result with
          | error echo =>
              rw [collect_unfold s, second]
              exact ⟨same, .some echo⟩
  | case3 fresh read u pulled =>
      obtain ⟨result, -⟩ := h.pull
      rcases second : s.pull with ⟨item, v⟩
      rw [pulled, second] at result
      cases result with
      | none =>
          rw [collect_unfold s, second]
          exact ⟨same, .none⟩

end Echoes

end Scanner

/-! ### What a scanner remembers besides its mode -/

namespace Scanner

/-- No start of a pragma is kept outside one, and the end is told only where nothing is left. -/
structure Tidy (s : Scanner) : Prop where
  pragma : s.mode.pragma = false → s.pragmaStart = none
  spent : s.exhausted = true → s.failure = none → ∃ t, s.Ended t

theorem pragmaBehind_eq_none {m : Mode} {known : Option Place} (p : Place) {k : Kind}
    (h : m.pragma = false → known = none) (outside : (m.onToken k).pragma = false) :
    pragmaBehind known p k = none := by
  rw [Mode.pragma_onToken] at outside
  unfold pragmaBehind
  split
  · simp at outside
  · rfl
  · next start stop =>
      rw [if_neg start, if_neg stop] at outside
      exact h outside

theorem next_pragma {s : Scanner} (h : s.mode.pragma = false → s.pragmaStart = none) :
    s.next.2.mode.pragma = false → s.next.2.pragmaStart = none := by
  rcases next_cases s with ⟨e, -, same⟩ | ⟨-, gap, t, s', gives, same⟩ |
    ⟨-, gap, cause, e, s', fails, same⟩
  · rw [same]
    exact h
  · rw [same, gives.after]
    exact pragmaBehind_eq_none _ h
  · rw [same, fails.after]
    exact h

theorem Tidy.reply {s s' : Scanner} {a : Action} {answer : Answer} (h : s.Tidy)
    (reply : s.Reply a answer s') : s'.Tidy := by
  constructor
  · refine reply.keeps (I := fun s => s.mode.pragma = false → s.pragmaStart = none)
      ?_ ?_ ?_ h.pragma
    · intro s h
      exact next_pragma h
    · intro s what h outside
      exact h ((s.mode.pragma_change what).symm.trans outside)
    · intro s spent log h
      exact h
  · intro spent sound
    have failure := reply.failure
    rw [sound] at failure
    have before : s.failure = none := (Option.or_eq_none_iff.mp failure.symm).1
    have kept : s.exhausted = true → ∃ t, s'.Ended t := by
      intro spent
      obtain ⟨t, last⟩ := h.spent spent before
      exact ⟨t, last.reply reply⟩
    have same := next_exhausted s
    cases reply with
    | next called =>
        rw [called] at same
        exact kept (same.symm.trans spent)
    | pulled fresh called more =>
        rw [called] at same
        exact kept (same.symm.trans spent)
    | @ended t u fresh called last =>
        have ended := ended_of_next called last
        exact ⟨t, ended.sound, ended.rest, ended.outside, ended.token⟩
    | failed fresh called =>
        rw [before] at failure
        cases failure
    | spent | change | errors | takeLog => exact kept spent

theorem after_tidy {s : Scanner} (h : s.Tidy) (actions : List Action) :
    (s.after actions).Tidy := by
  induction actions generalizing s with
  | nil => exact h
  | cons a rest ih => exact ih (h.reply (s.reply_act a))

/-- A fresh scanner on the text ahead, in the mode at hand, goes on as the scanner does. -/
theorem echoes_fresh {s : Scanner} (lines : s.cursor.rest.count '\n' < UInt32.size) (tidy : s.Tidy)
    (sound : s.failure = none) :
    Echoes s.cursor.place s.mode.pragma
      (Scanner.ofText (String.ofList s.cursor.rest) s.mode) s := by
  constructor
  · refine ⟨String.toList_ofList.symm, (Place.within_start _).symm, ?_⟩
    have first : (1 : UInt32) ≠ 0 := by decide
    refine fun _ => ⟨first, ?_⟩
    show 1 + (String.ofList s.cursor.rest).toList.count '\n' ≤ UInt32.size
    rw [String.toList_ofList]
    omega
  · rfl
  · exact tidy.pragma
  · rw [sound]
    exact .none
  · cases spent : s.exhausted with
    | false => exact .inl rfl
    | true =>
        obtain ⟨t, last⟩ := tidy.spent spent sound
        exact .inr ⟨_, rfl, String.toList_ofList.trans last.rest, last.outside, rfl⟩

/-- Behind any session without an error, a fresh scanner on the rest of the source, in the mode at
hand, answers all that may be asked as the scanner itself does, with the places in the answers
moved by that of the cut; and so it comes to the same tokens and the same error or none. With one
line feed more than allowed here the fresh scanner could come to a second first line. -/
theorem session_resumes (source : String) (lines : source.toList.count '\n' < UInt32.size)
    (m : Mode) (actions : List Action) (s : Scanner)
    (reached : (Scanner.ofText source m).after actions = s) (sound : s.failure = none) :
    ∃ rest, Text.slice? source.toList s.cursor.place.offset source.utf8ByteSize = some rest ∧
      (∀ later, List.Forall₂ (AnswerEchoes s.cursor.place s.mode.pragma)
        ((Scanner.ofText (String.ofList rest) s.mode).session later) (s.session later)) ∧
      s.collect.1.toList =
        (Scanner.ofText (String.ofList rest) s.mode).collect.1.toList.map
          (Token.within s.cursor.place) ∧
      Option.Rel (LexError.Echoes s.cursor.place s.mode.pragma)
        (Scanner.ofText (String.ofList rest) s.mode).collect.2.1 s.collect.2.1 := by
  have placed : s.cursor.In source.toList := reached ▸ after_placed (.ofText source) actions
  have start : (Scanner.ofText source m).Tidy := ⟨fun _ => rfl, nofun⟩
  have ahead : s.cursor.rest.count '\n' < UInt32.size := by
    have inside : s.cursor.rest.Sublist source.toList :=
      placed.source ▸ List.sublist_append_right ..
    exact Nat.lt_of_le_of_lt (inside.count_le '\n') lines
  have echoes := echoes_fresh ahead (reached ▸ after_tidy start actions) sound
  obtain ⟨tokens, outcome⟩ := echoes.collect #[] #[] rfl
  refine ⟨s.cursor.rest, ?_, echoes.session, tokens, outcome⟩
  have cut := placed.slice_end
  rwa [Text.byteLength_eq, String.ofList_toList] at cut

/-- Behind the `<` on the second line the text ` 1e` fails on its own first line. -/
theorem session_resumes_number :
    ∃ s, (Scanner.ofText "(:é:)\n< 1e").after [.next] = s ∧ s.failure = none ∧
      s.cursor.place = ⟨8, 2, 2⟩ ∧
      (Scanner.ofText " 1e").collect.2.1 = some (.malformedNumber "1e" ⟨1, 3, 1, 2⟩) ∧
      s.collect.2.1 = some (.malformedNumber "1e" ⟨9, 11, 2, 3⟩) := by
  obtain ⟨s, reached, sound, place, mode⟩ :
      ∃ s, (Scanner.ofText "(:é:)\n< 1e").after [.next] = s ∧ s.failure = none ∧
        s.cursor.place = ⟨8, 2, 2⟩ ∧ s.mode = {} := by
    have called := next_of_token (s := Scanner.ofText "(:é:)\n< 1e") rfl
      ((settle_of_skip rfl).trans ((settle_of_skip rfl).trans (settle_of_token rfl)))
    refine ⟨_, rfl, ?_⟩
    simp only [after, act, called]
    exact ⟨rfl, rfl, rfl⟩
  have fresh : (Scanner.ofText " 1e").collect.2.1 =
      some (.malformedNumber "1e" ⟨1, 3, 1, 2⟩) := by
    have failed := next_of_fault (s := Scanner.ofText " 1e") rfl
      ((settle_of_skip rfl).trans (settle_of_fault rfl))
    rw [collect_unfold, pull_of_error rfl failed]
    rfl
  obtain ⟨rest, cut, -, -, outcome⟩ := session_resumes _ (by decide) _ _ s reached sound
  rw [place] at cut outcome
  obtain rfl : rest = " 1e".toList := Option.some.inj (cut.symm.trans rfl)
  rw [mode, String.ofList_toList, fresh] at outcome
  refine ⟨s, reached, sound, place, fresh, ?_⟩
  rcases failed : s.collect.2.1 with - | e
  · rw [failed] at outcome
    cases outcome
  · rw [failed] at outcome
    cases outcome with
    | some echo =>
      cases echo
      rfl

/-- Behind a first name of one letter and with line feeds ahead. -/
theorem next_name_feeds {n : Nat} (pos : 0 < n) {r : List Char} :
    ∃ t s,
      (Scanner.ofText (String.ofList ('a' :: (List.replicate n '\n' ++ r)))).next = (.ok t, s) ∧
      s.mode = {} ∧ s.failure = none ∧
      s.cursor = ⟨['a'], List.replicate n '\n' ++ r, ⟨1, 1, 2⟩⟩ := by
  have rest : (Scanner.ofText (String.ofList ('a' :: (List.replicate n '\n' ++ r)))).cursor.rest =
      'a' :: (List.replicate n '\n' ++ r) := String.toList_ofList
  have found : Scan.step {} ('a' :: (List.replicate n '\n' ++ r)) = .token .name 1 := by
    obtain ⟨k, rfl⟩ := Nat.exists_eq_add_one.mpr pos
    rfl
  have called := next_of_token (s := Scanner.ofText (String.ofList _)) rfl
    (settle_of_token (rest ▸ found))
  refine ⟨_, _, called, rfl, rfl, ?_⟩
  simp only [Scanner.ofText, Cursor.ofText, String.toList_ofList]
  rfl

/-- With `2 ^ 32` line feeds between them the second name stands on a first line again when it is
read afresh, and is moved to another column than it really has. -/
theorem session_resumes_wrapped :
    ∃ t s u v, (Scanner.ofText (String.ofList
          ('a' :: (List.replicate UInt32.size '\n' ++ ['b'])))).next = (.ok t, s) ∧
      s.cursor.place = ⟨1, 1, 2⟩ ∧
      (Scanner.ofText (String.ofList s.cursor.rest) s.mode).next.1 = .ok u ∧
      s.next.1 = .ok v ∧ v.column = 1 ∧ (u.within s.cursor.place).column = 2 := by
  have pos : 0 < UInt32.size := by decide
  obtain ⟨t, s, called, mode, sound, cursor⟩ := next_name_feeds pos (r := ['b'])
  have rest : s.cursor.rest = List.replicate UInt32.size '\n' ++ ['b'] := by rw [cursor]
  have fresh := next_feeds (s := Scanner.ofText (String.ofList s.cursor.rest) s.mode) mode rfl pos
    (String.toList_ofList.trans rest) rfl rfl
  refine ⟨t, s, _, _, called, by rw [cursor], fresh, next_feeds mode sound pos rest rfl rfl, rfl,
    ?_⟩
  rw [cursor]
  show (if (1 : UInt32) + .ofNat UInt32.size = 1 then (1 : UInt32) + (2 - 1) else 1) = 2
  decide

end Scanner

end QueryScan
