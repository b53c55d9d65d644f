import QueryScan.Proofs.Sessions

/-! Numbers, told by the text ahead. The longest mantissa is taken first, and what stands behind it
decides the rest: with no exponent mark it is a number by itself, with a whole exponent it is a
double, and with a part of one it is an error. A dot that starts no number is a symbol. -/
namespace QueryScan

open Unicode (isDigit)
open Text (run run_split)

namespace Grammar

/-- The longest start of the text that belongs to the language. -/
def Longest (language : List Char → Prop) (input w : List Char) : Prop :=
  language w ∧ w <+: input ∧ ∀ v, language v → v <+: input → v.length ≤ w.length

def NumberAhead (input : List Char) : Prop :=
  ∃ c r, isDigit c = true ∧ (input = c :: r ∨ input = '.' :: c :: r)

def MarkAhead (input : List Char) : Prop :=
  ∃ mark r, (mark = 'e' ∨ mark = 'E') ∧ input = mark :: r

/-- An exponent mark and at most one sign. -/
def ExponentStub (e : List Char) : Prop :=
  ∃ mark sign, (mark = 'e' ∨ mark = 'E') ∧ (sign = [] ∨ sign = ['+'] ∨ sign = ['-']) ∧
    e = mark :: sign

/-- An exponent mark, at most one sign, and digits. -/
def Exponent (e : List Char) : Prop :=
  ∃ stub digits, ExponentStub stub ∧ Run isDigit digits ∧ e = stub ++ digits

theorem Mantissa.dotted_iff {b : Bool} {w : List Char} (h : Mantissa b w) :
    b = true ↔ '.' ∈ w := by
  cases h with
  | @whole d digits =>
      refine iff_of_false Bool.false_ne_true ?_
      intro dot
      exact absurd (digits.2 '.' dot) (by decide)
  | dotted => simp
  | bare => simp

theorem Exponent.markAhead {e r : List Char} (h : Exponent e) (ahead : e <+: r) : MarkAhead r := by
  obtain ⟨stub, digits, ⟨mark, sign, form, -, rfl⟩, -, rfl⟩ := h
  obtain ⟨t, rfl⟩ := ahead
  exact ⟨mark, _, form, rfl⟩

end Grammar

open Grammar

namespace Scan

theorem startsNumber_of_ahead {input : List Char} (h : NumberAhead input) :
    startsNumber input = true := by
  obtain ⟨c, r, digit, rfl | rfl⟩ := h
  · have single : Run isDigit [c] := ⟨List.cons_ne_nil c [], by simpa using digit⟩
    exact startsNumber_append (.whole single) r
  · exact digit

theorem longest_mantissa {input w r : List Char} {b : Bool} (split : input = w ++ r)
    (length : (mantissa input).1 = w.length) (valid : Mantissa b w) :
    Longest (fun v => ∃ b, Mantissa b v) input w := by
  refine ⟨⟨b, valid⟩, ⟨r, split.symm⟩, ?_⟩
  rintro v ⟨_, other⟩ ⟨t, rfl⟩
  rw [← length]
  exact (le_mantissa_append other t).1

theorem exponentRest_of_prefix {mark : Char} {e t : List Char} (read : Nat) (h : Exponent e)
    (ahead : e <+: mark :: t) :
    ∃ n, exponentRest (read + 1) t = .token .double n ∧ read + e.length ≤ n := by
  obtain ⟨stub, digits, ⟨first, sign, -, signed, rfl⟩, all, rfl⟩ := h
  obtain ⟨-, u, rfl⟩ := List.cons_prefix_cons.mp ahead
  have taken := exponentRest_append (read + 1) u signed all
  rw [← List.append_assoc] at taken
  refine ⟨_, taken, ?_⟩
  simp only [List.length_append, List.length_cons]
  omega

/-- A sign is part of the stub whenever there is one. -/
theorem longest_stub {mark : Char} {sign r : List Char} (form : mark = 'e' ∨ mark = 'E')
    (signed : sign = [] ∨ sign = ['+'] ∨ sign = ['-'])
    (taken : sign = [] → ∀ c ∈ r.head?, c ≠ '+' ∧ c ≠ '-') :
    Longest ExponentStub (mark :: (sign ++ r)) (mark :: sign) := by
  refine ⟨⟨mark, sign, form, signed, rfl⟩, List.prefix_append (mark :: sign) r, ?_⟩
  rintro _ ⟨first, other, -, form', rfl⟩ ahead
  obtain ⟨-, behind⟩ := List.cons_prefix_cons.mp ahead
  simp only [List.length_cons, Nat.add_le_add_iff_right]
  rcases signed with rfl | rfl | rfl
  · obtain ⟨t, rfl⟩ := behind
    rcases form' with rfl | rfl | rfl
    · exact Nat.le_refl _
    · exact absurd rfl (taken rfl '+' rfl).1
    · exact absurd rfl (taken rfl '-' rfl).2
  · rcases form' with rfl | rfl | rfl <;> simp
  · rcases form' with rfl | rfl | rfl <;> simp

/-- Behind an exponent mark the longest exponent is read; where there is none, the fault is put
behind the mark and its sign. -/
theorem exponentRest_longest {mark : Char} (form : mark = 'e' ∨ mark = 'E') (read : Nat)
    (t : List Char) :
    (∃ e, Longest Exponent (mark :: t) e ∧
        exponentRest (read + 1) t = .token .double (read + e.length)) ∨
      ∃ e, Longest ExponentStub (mark :: t) e ∧ (∀ v, Exponent v → ¬ v <+: mark :: t) ∧
        exponentRest (read + 1) t = .fault (.malformedNumber (read + e.length)) := by
  obtain ⟨sign, r, rfl, length, signed, taken⟩ := signLength_split t
  have stub : Longest ExponentStub (mark :: (sign ++ r)) (mark :: sign) :=
    longest_stub form signed taken
  have reach : read + 1 + sign.length = read + (mark :: sign).length := by
    rw [List.length_cons]
    omega
  obtain ⟨digits, u, rfl, same, all, -⟩ := run_split isDigit r
  have found : exponentRest (read + 1) (sign ++ (digits ++ u)) =
      if digits.length = 0 then .fault (.malformedNumber (read + (mark :: sign).length))
      else .token .double (read + (mark :: sign).length + digits.length) := by
    simp only [exponentRest, length, List.drop_left, same, reach]
  by_cases none : digits = []
  · have fault := found.trans (if_pos (List.length_eq_zero_iff.mpr none))
    refine .inr ⟨mark :: sign, stub, ?_, fault⟩
    intro v exponent ahead
    obtain ⟨n, token, -⟩ := exponentRest_of_prefix read exponent ahead
    rw [fault] at token
    cases token
  · have token := found.trans (if_neg fun zero => none (List.length_eq_zero_iff.mp zero))
    rw [Nat.add_assoc, ← List.length_append] at token
    refine .inl ⟨mark :: sign ++ digits, ⟨⟨mark :: sign, digits, stub.1, ⟨none, all⟩, rfl⟩,
      ⟨u, by simp⟩, ?_⟩, token⟩
    intro v exponent ahead
    obtain ⟨n, token', reaches⟩ := exponentRest_of_prefix read exponent ahead
    rw [token] at token'
    cases token'
    omega

/-- A number ahead is read by what stands behind its longest mantissa. -/
theorem number_cases {input : List Char} (starts : startsNumber input = true) :
    ∃ b w r, input = w ++ r ∧ Mantissa b w ∧ Longest (fun v => ∃ b, Mantissa b v) input w ∧
      ((¬ MarkAhead r ∧ number input = .token (if b then .decimal else .integer) w.length) ∨
        (∃ e, Longest Exponent r e ∧ number input = .token .double (w ++ e).length) ∨
        ∃ e, Longest ExponentStub r e ∧ (∀ v, Exponent v → ¬ v <+: r) ∧
          number input = .fault (.malformedNumber (w ++ e).length)) := by
  obtain ⟨w, r, split, length, valid⟩ := mantissa_split starts
  have whole := number_eq split (Prod.ext length rfl)
  refine ⟨(mantissa input).2, w, r, split, valid, longest_mantissa split length valid, ?_⟩
  by_cases mark : MarkAhead r
  · obtain ⟨c, t, form, rfl⟩ := mark
    have exponent : isExponentMark c = true := by simpa [isExponentMark] using form
    rw [whole, numberRest, if_pos exponent]
    simp only [List.length_append]
    exact .inr (exponentRest_longest form w.length t)
  · refine .inl ⟨mark, ?_⟩
    rw [whole]
    cases r with
    | nil => rfl
    | cons c t =>
        have other : ¬ isExponentMark c = true := by
          intro exponent
          exact mark ⟨c, t, by simpa only [isExponentMark, Bool.or_eq_true, beq_iff_eq] using
            exponent, rfl⟩
        rw [numberRest, if_neg other]

-- The first of two dots still belongs to the mantissa before them.
example : number ['1', '.', '.', '2'] = .token .decimal 2 := by decide

theorem step_dots {m : Mode} {r : List Char} (context : m.context = .expression)
    (plain : ∀ c ∈ r.head?, isDigit c = false) :
    step m ('.' :: r) =
      if r.head? = some '.' then .token (.symbol .doubleDot) 2 else .token (.symbol .dot) 1 := by
  have starts : startsNumber ('.' :: r) = false := by
    cases r with
    | nil => rfl
    | cons c t => exact plain c rfl
  rw [step_dot context starts]
  refine firstOf_of_some ?_
  cases r with
  | nil => simp [dotRule, not_inContent context, symbolAmong, dots]
  | cons c t =>
      by_cases dot : c = '.'
      · subst dot
        simp [dotRule, not_inContent context, symbolAmong, dots]
      · have apart : ¬ '.' = c := fun same => dot same.symm
        simp [dotRule, not_inContent context, symbolAmong, dots, dot, apart]

end Scan

namespace Scanner

open Scan

/-- How a call answers at a number whose mantissa is `w`, with `r` behind it. -/
structure TakesNumber (s : Scanner) (w r : List Char) : Prop where
  plain : ¬ MarkAhead r → s.Takes (if '.' ∈ w then .decimal else .integer) w
  double : (∃ e, Exponent e ∧ e <+: r) → ∃ e, Longest Exponent r e ∧ s.Takes .double (w ++ e)
  malformed : MarkAhead r → (∀ e, Exponent e → ¬ e <+: r) →
    ∃ e, Longest ExponentStub r e ∧
      s.next.1 = .error (.malformedNumber (String.ofList (w ++ e))
        (s.cursor.place.upTo (s.cursor.forward (w ++ e).length).place.offset))
  only : ∀ text span, s.next.1 = .error (.malformedNumber text span) →
    MarkAhead r ∧ ∀ e, Exponent e → ¬ e <+: r

theorem Takes.ne_error {s : Scanner} {k : Kind} {w : List Char} (h : s.Takes k w) (e : LexError) :
    s.next.1 ≠ .error e := by
  rw [h.given]
  nofun

theorem next_malformed {s : Scanner} {w r : List Char} (sound : s.failure = none)
    (split : s.cursor.rest = w ++ r)
    (found : Scan.step s.mode s.cursor.rest = .fault (.malformedNumber w.length)) :
    s.next.1 = .error (.malformedNumber (String.ofList w)
      (s.cursor.place.upTo (s.cursor.forward w.length).place.offset)) := by
  rw [next_of_fault sound (settle_of_fault found)]
  simp only [Fault.locate, split, List.take_left]

theorem takesNumber {s : Scanner} (sound : s.failure = none) (outside : s.mode.inContent = false)
    (ahead : NumberAhead s.cursor.rest) :
    ∃ w r, s.cursor.rest = w ++ r ∧ Longest (fun v => ∃ b, Mantissa b v) s.cursor.rest w ∧
      s.TakesNumber w r := by
  have starts := startsNumber_of_ahead ahead
  obtain ⟨b, w, r, split, valid, longest, cases⟩ := number_cases starts
  refine ⟨w, r, split, longest, ?_⟩
  have found := step_number (Mode.expression_of_not_inContent outside) starts
  rcases cases with ⟨noMark, token⟩ | ⟨e, exponent, token⟩ | ⟨e, stub, noExponent, fault⟩
  · have takes : s.Takes (if b then .decimal else .integer) w :=
      takes_of_step sound ⟨r, split.symm⟩ (found.trans token)
    refine ⟨fun _ => ?_, ?_, fun mark => absurd mark noMark, ?_⟩
    · simpa only [valid.dotted_iff] using takes
    · rintro ⟨e, exponent, behind⟩
      exact absurd (exponent.markAhead behind) noMark
    · intro text span error
      exact absurd error (takes.ne_error _)
  · have takes : s.Takes .double (w ++ e) := by
      refine takes_of_step sound ?_ (found.trans token)
      rw [split]
      exact (List.prefix_append_right_inj w).mpr exponent.2.1
    refine ⟨?_, fun _ => ⟨e, exponent, takes⟩, ?_, ?_⟩
    · intro noMark
      exact absurd (exponent.1.markAhead exponent.2.1) noMark
    · intro _ none
      exact absurd exponent.2.1 (none e exponent.1)
    · intro text span error
      exact absurd error (takes.ne_error _)
  · obtain ⟨t, rfl⟩ := stub.2.1
    have mark : MarkAhead (e ++ t) := by
      obtain ⟨c, sign, form, -, rfl⟩ := stub.1
      exact ⟨c, _, form, rfl⟩
    refine ⟨fun noMark => absurd mark noMark, ?_, fun _ _ => ⟨e, stub, ?_⟩,
      fun _ _ _ => ⟨mark, noExponent⟩⟩
    · rintro ⟨v, exponent, behind⟩
      exact absurd behind (noExponent v exponent)
    · refine next_malformed (r := t) sound ?_ (found.trans fault)
      rw [split, List.append_assoc]

/-- Outside content the longest mantissa ahead is read, and what stands behind it tells the kind of
the number: no exponent mark, a whole exponent, or a part of one, which is the only text told to be
a malformed number. A dot without a digit behind it is a symbol, and so are two dots. -/
theorem next_number {s : Scanner} (sound : s.failure = none)
    (outside : s.mode.inContent = false) :
    (NumberAhead s.cursor.rest →
      ∃ w r, s.cursor.rest = w ++ r ∧ Longest (fun v => ∃ b, Mantissa b v) s.cursor.rest w ∧
        s.TakesNumber w r) ∧
    ∀ r, s.cursor.rest = '.' :: r → (∀ c ∈ r.head?, isDigit c = false) →
      if r.head? = some '.' then s.Takes (.symbol .doubleDot) ['.', '.']
      else s.Takes (.symbol .dot) ['.'] := by
  refine ⟨takesNumber sound outside, ?_⟩
  intro r dot plain
  have found := step_dots (Mode.expression_of_not_inContent outside) plain
  rw [← dot] at found
  split
  · next two =>
      obtain ⟨t, rfl⟩ := List.head?_eq_some_iff.mp two
      exact takes_of_step sound ⟨t, dot.symm⟩ (found.trans (if_pos rfl))
  · next one => exact takes_of_step sound ⟨r, dot.symm⟩ (found.trans (if_neg one))

/-- The sign belongs to the text of the error, and the letter behind it does not. Three dots are two
and one. -/
theorem next_number_stub :
    NumberAhead (Scanner.ofText "1.5e+x").cursor.rest ∧
      (Scanner.ofText "1.5e+x").next.1 = .error (.malformedNumber "1.5e+" ⟨0, 5, 1, 1⟩) ∧
      (∃ w r, "1.5e+x".toList = w ++ r ∧ Longest (fun v => ∃ b, Mantissa b v) "1.5e+x".toList w ∧
        MarkAhead r ∧ ∀ e, Exponent e → ¬ e <+: r) ∧
      (Scanner.ofText "...").Takes (.symbol .doubleDot) ['.', '.'] := by
  have ahead : NumberAhead (Scanner.ofText "1.5e+x").cursor.rest :=
    ⟨'1', ['.', '5', 'e', '+', 'x'], by decide, .inl rfl⟩
  have given : (Scanner.ofText "1.5e+x").next.1 =
      .error (.malformedNumber "1.5e+" ⟨0, 5, 1, 1⟩) := by
    exact next_malformed (w := ['1', '.', '5', 'e', '+']) (r := ['x']) rfl rfl rfl
  obtain ⟨w, r, split, longest, takes⟩ := (next_number rfl rfl).1 ahead
  have dots := (next_number (s := Scanner.ofText "...") rfl rfl).2 ['.', '.'] rfl
    (by simpa using isDigit_dot)
  exact ⟨ahead, given, ⟨w, r, split, longest, takes.only _ _ given⟩, dots⟩

end Scanner

end QueryScan
