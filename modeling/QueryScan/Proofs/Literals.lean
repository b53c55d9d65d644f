import QueryScan.Proofs.CharClass
import QueryScan.Proofs.Lexemes
import QueryScan.Proofs.Runs
import QueryScan.Scan.Progress

/-! Numbers, references and string literals: what is read belongs to the grammar, and a text of the
grammar is read whole whatever stands behind it. -/
namespace QueryScan.Scan

open Grammar
open Unicode (isDigit)
open Text (run isHexDigit signLength run_append run_cons_of_neg run_cons_of_pos run_split)

theorem run_pos_split {p : Char → Bool} {input : List Char} (pos : run p input ≠ 0) :
    ∃ w r, input = w ++ r ∧ run p input = w.length ∧ Run p w := by
  obtain ⟨w, r, split, length, all, -⟩ := run_split p input
  refine ⟨w, r, split, length, ?_, all⟩
  rintro rfl
  exact pos (by simpa using length)

/-! ### Numbers -/

theorem isDigit_dot : isDigit '.' = false := by decide

theorem head?_ne_dot {d : List Char} (digits : Run isDigit d) (r : List Char) :
    (d ++ r).head? ≠ some '.' := by
  obtain ⟨c, t, rfl⟩ := List.exists_cons_of_ne_nil digits.1
  have digit := digits.2 c List.mem_cons_self
  intro dot
  simp only [List.cons_append, List.head?_cons, Option.some.injEq] at dot
  rw [dot, isDigit_dot] at digit
  contradiction

theorem mantissa_of_ne_dot {input : List Char} (h : input.head? ≠ some '.') :
    mantissa input =
      match input.drop (run isDigit input) with
      | '.' :: r => (run isDigit input + 1 + run isDigit r, true)
      | _ => (run isDigit input, false) := by
  unfold mantissa
  split
  · simp at h
  · rfl

/-- Behind a dot a mantissa goes on with digits only. -/
theorem mantissa_append_dotted {w : List Char} (h : Mantissa true w) (r : List Char) :
    mantissa (w ++ r) = (w.length + run isDigit r, true) := by
  cases h with
  | @bare e digits =>
      rw [List.cons_append, mantissa, run_append r digits.2, List.length_cons]
      congr 1
      omega
  | @dotted d e digits rest =>
      have head : (d ++ '.' :: e ++ r).head? ≠ some '.' := by
        rw [List.append_assoc]
        exact head?_ne_dot digits _
      have whole : run isDigit (d ++ '.' :: e ++ r) = d.length := by
        rw [List.append_assoc, run_append _ digits.2, List.cons_append,
          run_cons_of_neg _ isDigit_dot, Nat.add_zero]
      have behind : (d ++ '.' :: e ++ r).drop d.length = '.' :: (e ++ r) := by simp
      rw [mantissa_of_ne_dot head, whole, behind]
      simp only [run_append r rest, List.length_append, List.length_cons, Prod.mk.injEq, and_true]
      omega

/-- Before a dot a mantissa goes on with digits, and with a dot behind them. -/
theorem mantissa_append_whole {w : List Char} (h : Mantissa false w) (r : List Char) :
    mantissa (w ++ r) =
      match r.drop (run isDigit r) with
      | '.' :: s => (w.length + run isDigit r + 1 + run isDigit s, true)
      | _ => (w.length + run isDigit r, false) := by
  cases h with
  | whole digits =>
      have behind : (w ++ r).drop (w.length + run isDigit r) = r.drop (run isDigit r) := by
        rw [← List.drop_drop, List.drop_left]
      rw [mantissa_of_ne_dot (head?_ne_dot digits r), run_append r digits.2, behind]

/-- A mantissa at the start of a text is read to its end or further, and with more characters if
it turns out to hold a dot. -/
theorem le_mantissa_append {b : Bool} {w : List Char} (h : Mantissa b w) (r : List Char) :
    w.length ≤ (mantissa (w ++ r)).1 ∧
      ((mantissa (w ++ r)).1 = w.length → (mantissa (w ++ r)).2 = b) := by
  cases b with
  | true =>
      rw [mantissa_append_dotted h r]
      exact ⟨Nat.le_add_right _ _, fun _ => rfl⟩
  | false =>
      rw [mantissa_append_whole h r]
      split
      · refine ⟨by dsimp only; omega, ?_⟩
        intro same
        dsimp only at same
        omega
      · exact ⟨Nat.le_add_right _ _, fun _ => rfl⟩

/-- A mantissa is read exactly when what follows cannot belong to it. -/
theorem mantissa_append_eq {b : Bool} {w r : List Char} (h : Mantissa b w)
    (stop : ∀ c ∈ r.head?, isDigit c = false ∧ c ≠ '.') : mantissa (w ++ r) = (w.length, b) := by
  have behind : run isDigit r = 0 := by
    cases r with
    | nil => rfl
    | cons c r => exact run_cons_of_neg r (stop c rfl).1
  cases b with
  | true => rw [mantissa_append_dotted h, behind, Nat.add_zero]
  | false =>
      rw [mantissa_append_whole h, behind, List.drop_zero, Nat.add_zero]
      split
      · next c => exact absurd rfl (stop '.' rfl).2
      · rfl

theorem startsNumber_cases {input : List Char} (starts : startsNumber input = true) :
    (∃ r, input = '.' :: r ∧ run isDigit r ≠ 0) ∨
      (input.head? ≠ some '.' ∧ run isDigit input ≠ 0) := by
  unfold startsNumber at starts
  split at starts
  · next c r =>
      refine .inl ⟨c :: r, rfl, ?_⟩
      rw [run_cons_of_pos r starts]
      exact Nat.succ_ne_zero _
  · next c r plain =>
      refine .inr ⟨?_, ?_⟩
      · intro dot
        simp only [List.head?_cons, Option.some.injEq] at dot
        rw [dot, isDigit_dot] at starts
        contradiction
      · rw [run_cons_of_pos r starts]
        exact Nat.succ_ne_zero _
  · contradiction

/-- What is read as a mantissa is one, and has a dot if it is said to. -/
theorem mantissa_split {input : List Char} (starts : startsNumber input = true) :
    ∃ w r, input = w ++ r ∧ (mantissa input).1 = w.length ∧ Mantissa (mantissa input).2 w := by
  rcases startsNumber_cases starts with ⟨r, rfl, pos⟩ | ⟨head, pos⟩
  · obtain ⟨e, r, rfl, length, digits⟩ := run_pos_split pos
    refine ⟨'.' :: e, r, rfl, ?_, .bare digits⟩
    rw [mantissa, length, List.length_cons]
    exact Nat.add_comm 1 _
  · obtain ⟨d, r, rfl, length, digits⟩ := run_pos_split pos
    rw [mantissa_of_ne_dot head, length, List.drop_left]
    split
    · next s =>
        obtain ⟨e, r, rfl, length', rest, -⟩ := run_split isDigit s
        refine ⟨d ++ '.' :: e, r, by simp, ?_, .dotted digits rest⟩
        simp only [length', List.length_append, List.length_cons]
        omega
    · exact ⟨d, r, rfl, rfl, .whole digits⟩

theorem isDigit_of_isExponentMark {c : Char} (mark : isExponentMark c = true) :
    isDigit c = false ∧ c ≠ '.' := by
  simp only [isExponentMark, Bool.or_eq_true, beq_iff_eq] at mark
  rcases mark with rfl | rfl <;> decide

/-- A sign is taken whenever there is one. -/
theorem signLength_split (input : List Char) :
    ∃ sign r, input = sign ++ r ∧ signLength input = sign.length ∧
      (sign = [] ∨ sign = ['+'] ∨ sign = ['-']) ∧
      (sign = [] → ∀ c ∈ r.head?, c ≠ '+' ∧ c ≠ '-') := by
  unfold signLength
  split
  · next r => exact ⟨['+'], r, rfl, rfl, .inr (.inl rfl), nofun⟩
  · next r => exact ⟨['-'], r, rfl, rfl, .inr (.inr rfl), nofun⟩
  · next noPlus noMinus =>
      refine ⟨[], input, rfl, rfl, .inl rfl, ?_⟩
      intro _ c head
      obtain ⟨t, rfl⟩ := List.head?_eq_some_iff.mp head
      constructor
      · rintro rfl
        exact noPlus t rfl
      · rintro rfl
        exact noMinus t rfl

/-- A sign is only told from the digits behind it when there is at least one. -/
theorem signLength_append {sign digits : List Char} (r : List Char)
    (h : sign = [] ∨ sign = ['+'] ∨ sign = ['-']) (run : Run isDigit digits) :
    signLength (sign ++ (digits ++ r)) = sign.length := by
  rcases h with rfl | rfl | rfl
  · obtain ⟨c, t, rfl⟩ := List.exists_cons_of_ne_nil run.1
    have digit := run.2 c List.mem_cons_self
    simp only [List.nil_append, List.cons_append, List.length_nil]
    unfold signLength
    split
    · next same =>
        rw [(List.cons.inj same).1] at digit
        exact absurd digit (by decide)
    · next same =>
        rw [(List.cons.inj same).1] at digit
        exact absurd digit (by decide)
    · rfl
  · rfl
  · rfl

/-- Behind an exponent mark all of an optional sign and the digits is read. -/
theorem exponentRest_append {sign digits : List Char} (read : Nat) (r : List Char)
    (h : sign = [] ∨ sign = ['+'] ∨ sign = ['-']) (all : Run isDigit digits) :
    exponentRest read (sign ++ (digits ++ r)) =
      .token .double (read + sign.length + (digits.length + run isDigit r)) := by
  have some : digits.length + run isDigit r ≠ 0 := by
    have := List.length_pos_iff.mpr all.1
    omega
  simp only [exponentRest, signLength_append r h all, List.drop_left, run_append r all.2,
    if_neg some]

theorem exponentRest_cases (read : Nat) (input : List Char) :
    (∃ cause, exponentRest read input = .fault cause) ∨
      ∃ sign digits r, input = sign ++ (digits ++ r) ∧
        (sign = [] ∨ sign = ['+'] ∨ sign = ['-']) ∧ Run isDigit digits ∧
        exponentRest read input = .token .double (read + sign.length + digits.length) := by
  obtain ⟨sign, r, rfl, length, form, -⟩ := signLength_split input
  simp only [exponentRest, length, List.drop_left]
  split
  · exact .inl ⟨_, rfl⟩
  · next some =>
      obtain ⟨digits, r, rfl, same, all⟩ := run_pos_split some
      exact .inr ⟨sign, digits, r, rfl, form, all, by rw [same]⟩

/-- A number ends with its mantissa, or goes on behind an exponent mark. -/
theorem numberRest_cases (length : Nat) (dotted : Bool) (input : List Char) :
    numberRest length dotted input = .token (if dotted then .decimal else .integer) length ∨
      ∃ mark r, input = mark :: r ∧ isExponentMark mark = true ∧
        numberRest length dotted input = exponentRest (length + 1) r := by
  unfold numberRest
  split
  · next c r =>
      split
      · next mark => exact .inr ⟨c, r, rfl, mark, rfl⟩
      · exact .inl rfl
  · exact .inl rfl

theorem number_eq {input w r : List Char} {b : Bool} (split : input = w ++ r)
    (read : mantissa input = (w.length, b)) : number input = numberRest w.length b r := by
  rw [number, read, split]
  simp only [List.drop_left]

/-- A number is read from a text of the grammar. -/
theorem number_reads (m : Mode) {input : List Char} (starts : startsNumber input = true) :
    (number input).Reads m input := by
  obtain ⟨w, r, split, length, valid⟩ := mantissa_split starts
  rw [number_eq split (Prod.ext length rfl)]
  rcases numberRest_cases w.length (mantissa input).2 r with found | ⟨mark, t, rfl, exponent, found⟩
  · rw [found]
    refine ⟨w, r, split, rfl, ?_⟩
    revert valid
    cases (mantissa input).2 <;> exact id
  · rw [found]
    rcases exponentRest_cases (w.length + 1) t with
      ⟨cause, fault⟩ | ⟨sign, digits, r, rfl, form, all, token⟩
    · rw [fault]
      trivial
    · rw [token]
      refine ⟨w ++ mark :: (sign ++ digits), r, by simp [split], ?_, ?_⟩
      · simp only [List.length_append, List.length_cons]
        omega
      · refine ⟨_, w, mark, sign, digits, valid, ?_, form, all, rfl⟩
        simpa [isExponentMark] using exponent

theorem startsNumber_append {b : Bool} {w : List Char} (h : Mantissa b w) (r : List Char) :
    startsNumber (w ++ r) = true := by
  have digitFirst : ∀ {d : List Char} (t : List Char), Run isDigit d →
      startsNumber (d ++ t) = true := by
    intro d t digits
    have dot := head?_ne_dot digits t
    obtain ⟨c, e, rfl⟩ := List.exists_cons_of_ne_nil digits.1
    have digit := digits.2 c List.mem_cons_self
    rw [List.cons_append] at dot ⊢
    unfold startsNumber
    split
    · next same => exact absurd (by rw [same]; rfl) dot
    · next same => exact (List.cons.inj same).1 ▸ digit
    · contradiction
  cases h with
  | whole digits => exact digitFirst r digits
  | dotted digits rest =>
      rw [List.append_assoc]
      exact digitFirst _ digits
  | bare digits =>
      obtain ⟨c, e, rfl⟩ := List.exists_cons_of_ne_nil digits.1
      exact digits.2 c List.mem_cons_self

theorem numberRest_covers {length : Nat} {dotted b : Bool} {w input : List Char}
    (le : w.length ≤ length) (same : length = w.length → dotted = b) :
    (numberRest length dotted input).Covers (if b then .decimal else .integer) w := by
  rcases numberRest_cases length dotted input with found | ⟨mark, r, rfl, -, found⟩
  · rw [found]
    refine ⟨le, fun equal => ?_⟩
    rw [same equal]
  · rw [found]
    rcases exponentRest_cases (length + 1) r with
      ⟨cause, fault⟩ | ⟨sign, digits, r, rfl, -, -, token⟩
    · rw [fault]
      trivial
    · rw [token]
      exact ⟨by omega, fun equal => by omega⟩

/-- No shorter number is read than one at the start of the text. -/
theorem number_covers {b : Bool} {w : List Char} (h : Mantissa b w) (r : List Char) :
    (number (w ++ r)).Covers (if b then .decimal else .integer) w := by
  obtain ⟨le, same⟩ := le_mantissa_append h r
  exact numberRest_covers le same

theorem number_append_double {w : List Char} (h : Double w) (r : List Char) :
    number (w ++ r) = .token .double (w.length + run isDigit r) := by
  obtain ⟨b, v, mark, sign, digits, valid, form, signed, all, rfl⟩ := h
  have exponent : isExponentMark mark = true := by simpa [isExponentMark] using form
  obtain ⟨digit, dot⟩ := isDigit_of_isExponentMark exponent
  have split : v ++ mark :: (sign ++ digits) ++ r = v ++ mark :: (sign ++ (digits ++ r)) := by simp
  rw [split, number_eq rfl (mantissa_append_eq valid (by simp [digit, dot])), numberRest,
    if_pos exponent, exponentRest_append _ r signed all]
  simp only [List.length_append, List.length_cons]
  congr 1
  omega

theorem number_covers_double {w : List Char} (h : Double w) (r : List Char) :
    (number (w ++ r)).Covers .double w := by
  rw [number_append_double h r]
  exact ⟨Nat.le_add_right _ _, fun _ => rfl⟩

/-- A number without an exponent ends before what is neither digit, dot nor exponent mark. -/
theorem number_append {b : Bool} {w r : List Char} (h : Mantissa b w)
    (stop : ∀ c ∈ r.head?, isDigit c = false ∧ c ≠ '.' ∧ isExponentMark c = false) :
    number (w ++ r) = .token (if b then .decimal else .integer) w.length := by
  have read := mantissa_append_eq h fun c head => ⟨(stop c head).1, (stop c head).2.1⟩
  rw [number_eq rfl read]
  cases r with
  | nil => rfl
  | cons c r => rw [numberRest, if_neg (by simp [stop c rfl])]

theorem number_kind {input : List Char} {k : Kind} {n : Nat} (h : number input = .token k n) :
    k = .integer ∨ k = .decimal ∨ k = .double := by
  rcases numberRest_cases (mantissa input).1 (mantissa input).2 (input.drop (mantissa input).1) with
    found | ⟨mark, r, -, -, found⟩
  · rw [number, found] at h
    cases h
    cases (mantissa input).2
    · exact .inl rfl
    · exact .inr (.inl rfl)
  · rw [number, found] at h
    rcases exponentRest_cases ((mantissa input).1 + 1) r with
      ⟨cause, fault⟩ | ⟨sign, digits, t, -, -, -, token⟩
    · rw [fault] at h
      cases h
    · rw [token] at h
      cases h
      exact .inr (.inr rfl)

/-! ### References -/

theorem digitsAndSemicolon?_append {p : Char → Bool} {digits : List Char} (r : List Char)
    (all : Run p digits) (stop : p ';' = false) :
    digitsAndSemicolon? p (digits ++ ';' :: r) = some (digits.length + 1) := by
  have length : run p (digits ++ ';' :: r) = digits.length := by
    rw [run_append _ all.2, run_cons_of_neg r stop, Nat.add_zero]
  simp [digitsAndSemicolon?, length, all.1]

theorem digitsAndSemicolon?_split {p : Char → Bool} {input : List Char} {n : Nat}
    (h : digitsAndSemicolon? p input = some n) :
    ∃ digits r, input = digits ++ ';' :: r ∧ n = digits.length + 1 ∧ Run p digits := by
  simp only [digitsAndSemicolon?] at h
  split at h
  · next found =>
      cases h
      obtain ⟨digits, r, rfl, length, all⟩ := run_pos_split found.1
      rw [length, List.drop_left] at found
      obtain ⟨t, rfl⟩ := List.head?_eq_some_iff.mp found.2
      exact ⟨digits, t, rfl, by rw [length], all⟩
  · contradiction

theorem nameAndSemicolon?_split {input : List Char} {n : Nat}
    (h : nameAndSemicolon? input = some n) :
    ∃ name r, name ∈ entityNames ∧ input = name ++ ';' :: r ∧ n = name.length + 1 := by
  simp only [nameAndSemicolon?, Option.bind_eq_bind, Option.bind_eq_some_iff] at h
  obtain ⟨name, found, behind⟩ := h
  split at behind
  · next semicolon =>
      cases behind
      have start := List.find?_some found
      obtain ⟨t, rfl⟩ := List.isPrefixOf_iff_prefix.mp start
      rw [List.drop_left] at semicolon
      obtain ⟨r, rfl⟩ := List.head?_eq_some_iff.mp semicolon
      exact ⟨name, r, List.mem_of_find?_eq_some found, rfl, rfl⟩
  · contradiction

/-- The references of each kind. -/
def Reference (k : Kind) (w : List Char) : Prop :=
  (k = .entityRef ∧ EntityRef w) ∨ (k = .charRef ∧ CharRef w)

theorem Reference.lexeme (m : Mode) {k : Kind} {w : List Char} (h : Reference k w) :
    Lexeme m k w := by
  rcases h with ⟨rfl, valid⟩ | ⟨rfl, valid⟩ <;> exact valid

theorem Reference.form {k : Kind} {w : List Char} (h : Reference k w) :
    EntityRef w ∨ CharRef w := by
  rcases h with ⟨-, valid⟩ | ⟨-, valid⟩
  · exact .inl valid
  · exact .inr valid

theorem exists_reference {p : List Char} (form : EntityRef p ∨ CharRef p) :
    ∃ k, Reference k p := by
  rcases form with entity | char
  · exact ⟨.entityRef, .inl ⟨rfl, entity⟩⟩
  · exact ⟨.charRef, .inr ⟨rfl, char⟩⟩

/-- A reference is read from a text of the grammar. -/
theorem reference?_split {input : List Char} {k : Kind} {n : Nat}
    (h : reference? input = some (k, n)) :
    ∃ w r, input = w ++ r ∧ n = w.length ∧ Reference k w := by
  unfold reference? at h
  split at h
  · obtain ⟨i, found, same⟩ := Option.map_eq_some_iff.mp h
    cases same
    obtain ⟨digits, r, rfl, rfl, all⟩ := digitsAndSemicolon?_split found
    refine ⟨_, r, by simp, ?_, .inr ⟨rfl, .inr ⟨digits, all, rfl⟩⟩⟩
    simp only [List.length_cons, List.length_append, List.length_nil]
    omega
  · obtain ⟨i, found, same⟩ := Option.map_eq_some_iff.mp h
    cases same
    obtain ⟨digits, r, rfl, rfl, all⟩ := digitsAndSemicolon?_split found
    refine ⟨_, r, by simp, ?_, .inr ⟨rfl, .inl ⟨digits, all, rfl⟩⟩⟩
    simp only [List.length_cons, List.length_append, List.length_nil]
    omega
  · obtain ⟨i, found, same⟩ := Option.map_eq_some_iff.mp h
    cases same
    obtain ⟨name, r, member, rfl, rfl⟩ := nameAndSemicolon?_split found
    refine ⟨_, r, by simp, ?_, .inl ⟨rfl, name, by simpa [entityNames] using member, rfl⟩⟩
    simp only [List.length_cons, List.length_append, List.length_nil]
    omega
  · contradiction

theorem reference_reads (m : Mode) (input : List Char) : (reference input).Reads m input := by
  unfold reference
  split
  · next found =>
      obtain ⟨w, r, split, length, valid⟩ := reference?_split found
      exact ⟨w, r, split, length, valid.lexeme m⟩
  · trivial

/-- A reference at the start of a text is found there, whatever follows it. -/
theorem reference?_append {k : Kind} {w : List Char} (h : Reference k w) (r : List Char) :
    reference? (w ++ r) = some (k, w.length) := by
  rcases h with ⟨rfl, name, member, rfl⟩ | ⟨rfl, ⟨digits, all, rfl⟩ | ⟨digits, all, rfl⟩⟩
  · rcases member with rfl | rfl | rfl | rfl | rfl <;>
      simp [reference?, nameAndSemicolon?, entityNames]
  · have found := digitsAndSemicolon?_append r all (by decide)
    have decimal : ∀ t, digits ++ ';' :: r ≠ 'x' :: t := by
      obtain ⟨c, e, rfl⟩ := List.exists_cons_of_ne_nil all.1
      have digit := all.2 c List.mem_cons_self
      intro t same
      rw [(List.cons.inj same).1] at digit
      exact absurd digit (by decide)
    simp only [List.cons_append, List.append_assoc, List.nil_append]
    rw [reference?.eq_2 _ decimal, found]
    simp only [Option.map_some, List.length_cons, List.length_append, List.length_nil]
    congr 2
    omega
  · have found := digitsAndSemicolon?_append r all (by decide)
    simp only [List.cons_append, List.append_assoc, List.nil_append, reference?, found,
      Option.map_some, List.length_cons, List.length_append, List.length_nil]
    congr 2
    omega

/-- At most one reference begins at a point. -/
theorem reference_unique {p q r : List Char} (hp : EntityRef p ∨ CharRef p)
    (hq : EntityRef q ∨ CharRef q) (ahead : p <+: r) (ahead' : q <+: r) : p = q := by
  obtain ⟨k, first⟩ := exists_reference hp
  obtain ⟨l, second⟩ := exists_reference hq
  obtain ⟨t, rfl⟩ := ahead
  obtain ⟨u, same⟩ := ahead'
  have found := reference?_append first t
  rw [← same, reference?_append second u] at found
  exact (List.append_inj_left same (Prod.mk.inj (Option.some.inj found)).2).symm

/-! ### String literals -/

theorem delimiter_ne_amp (d : Delimiter) : d.char ≠ '&' := by
  cases d <;> decide

theorem reference_cons {w : List Char} (h : EntityRef w ∨ CharRef w) : ∃ t, w = '&' :: t := by
  rcases h with ⟨name, -, rfl⟩ | ⟨digits, -, rfl⟩ | ⟨digits, -, rfl⟩ <;> exact ⟨_, rfl⟩

/-- The pieces of a string are read one after another, whatever follows them. -/
theorem stringRest_append {d : Char} {body : List Char} (amp : d ≠ '&') (h : StringBody d body)
    (read : Nat) (r : List Char) :
    stringRest d read (body ++ r) = stringRest d (read + body.length) r := by
  induction h generalizing read with
  | nil => rfl
  | @doubled w h ih =>
      rw [List.cons_append, List.cons_append, stringRest, if_pos rfl]
      simp only [if_true, ih, List.length_cons]
      congr 1
      omega
  | @reference p w valid h ih =>
      obtain ⟨k, form⟩ := exists_reference valid
      have found := reference?_append form (w ++ r)
      obtain ⟨t, rfl⟩ := reference_cons valid
      rw [List.cons_append] at found
      rw [List.append_assoc, List.cons_append, stringRest.eq_def]
      simp only [if_neg amp.symm, if_true, found, List.length_cons, Nat.add_sub_cancel,
        List.drop_left, ih, List.length_append]
      congr 1
      omega
  | @plain c w quote ampersand h ih =>
      rw [List.cons_append, stringRest.eq_def]
      simp only [if_neg quote, if_neg ampersand, ih, List.length_cons]
      congr 1
      omega

/-- A string literal ends at a single delimiter, and all before it is of the grammar. -/
theorem stringRest_split {d : Char} {read n : Nat} {k : Kind} {input : List Char}
    (h : stringRest d read input = .token k n) :
    k = .string ∧ ∃ body r, input = body ++ d :: r ∧ n = read + body.length + 1 ∧
      StringBody d body := by
  fun_induction stringRest d read input with
  | case1 => contradiction
  | case2 read s ih =>
      obtain ⟨rfl, body, r, rfl, rfl, valid⟩ := ih h
      refine ⟨rfl, d :: d :: body, r, rfl, ?_, .doubled valid⟩
      simp only [List.length_cons]
      omega
  | case3 read e s single =>
      cases h
      exact ⟨rfl, [], e :: s, rfl, rfl, .nil⟩
  | case4 read =>
      cases h
      exact ⟨rfl, [], [], rfl, rfl, .nil⟩
  | case5 read r amp k' length found ih =>
      obtain ⟨rfl, body, t, rest, rfl, valid⟩ := ih h
      obtain ⟨p, u, split, rfl, valid'⟩ := reference?_split found
      have form := valid'.form
      obtain ⟨q, rfl⟩ := reference_cons form
      rw [(List.cons.inj split).2, List.length_cons, Nat.add_sub_cancel,
        List.append_eq, List.drop_left] at rest
      refine ⟨rfl, '&' :: q ++ body, t, by rw [split, rest]; simp, ?_, .reference form valid⟩
      simp only [List.length_cons, List.length_append]
      omega
  | case6 read r amp missing => contradiction
  | case7 read c r quote amp ih =>
      obtain ⟨rfl, body, t, rfl, rfl, valid⟩ := ih h
      refine ⟨rfl, c :: body, t, rfl, ?_, .plain quote amp valid⟩
      simp only [List.length_cons]
      omega

theorem stringRest_ne_skip (d : Char) (read n : Nat) (input : List Char) :
    stringRest d read input ≠ .skip n := by
  fun_induction stringRest d read input <;> simp_all

theorem stringRest_reads (m : Mode) (d : Delimiter) (r : List Char) :
    (stringRest d.char 1 r).Reads m (d.char :: r) := by
  cases found : stringRest d.char 1 r with
  | token k n =>
      obtain ⟨rfl, body, t, rfl, rfl, valid⟩ := stringRest_split found
      refine ⟨d.char :: (body ++ [d.char]), t, by simp, ?_, d, body, valid, rfl⟩
      simp only [List.length_cons, List.length_append, List.length_nil]
      omega
  | skip n => exact absurd found (stringRest_ne_skip _ _ _ _)
  | fault cause => trivial

/-- No shorter string is read than one at the start of the text. -/
theorem stringRest_covers {d : Delimiter} {body : List Char} (h : StringBody d.char body)
    (r : List Char) :
    (stringRest d.char 1 (body ++ d.char :: r)).Covers .string (d.char :: (body ++ [d.char])) := by
  rw [stringRest_append (delimiter_ne_amp d) h]
  cases found : stringRest d.char (1 + body.length) (d.char :: r) with
  | token k n =>
      obtain ⟨rfl, rest, t, -, rfl, -⟩ := stringRest_split found
      refine ⟨?_, fun _ => rfl⟩
      simp only [List.length_cons, List.length_append, List.length_nil]
      omega
  | skip n => trivial
  | fault cause => trivial

end QueryScan.Scan
