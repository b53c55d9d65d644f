import QueryScan.Proofs.Recognition

/-! Numbers, string literals and names, recognized with a cursor. A number is first tried in vain as
far as the mark of its exponent, and then read. -/
namespace QueryScan.Recognizer

open Reader (once Performs Settles Ends)
open Scan
open Unicode (isDigit isNameStart isNameChar)
open Text (run signLength)

variable {c : Cursor} {pragma : Option Place} {m : Mode}

theorem mantissa_ends (starts : startsNumber c.rest = true) :
    mantissa.Ends c (some (Scan.mantissa c.rest).2) (c.forward (Scan.mantissa c.rest).1) := by
  unfold Scan.mantissa
  split
  · next r ahead =>
      have digits := ends_run isDigit (c := c) (n := 1) rfl
      have some' : run isDigit (c.rest.drop 1) > 0 := by
        rw [ahead] at starts ⊢
        cases r with
        | nil => exact absurd starts (by decide)
        | cons y r => exact run_pos starts
      refine (Reader.ends_eat ahead).bind (digits.bind ?_)
      rw [if_pos some', ahead]
      exact Ends.pure _ _
  · next plain =>
      have digits := Reader.ends_eatWhile isDigit c
      have some' : run isDigit c.rest > 0 := whole_pos plain starts
      refine (Reader.ends_eat_of_ne plain).bind (digits.bind ?_)
      rw [if_pos some']
      dsimp only
      split
      · next r ahead =>
          exact (ends_character ahead).bind ((ends_run isDigit (drop_next ahead)).bind
            (Ends.pure _ _))
      · next undotted =>
          exact (ends_character_of_ne fun r => undotted r).bind (Ends.pure _ _)

theorem signLength_eq (input : List Char) :
    signLength input = (input.head? == some '+' || input.head? == some '-').toNat := by
  unfold signLength
  split
  · rfl
  · rfl
  · next plus minus =>
      cases input with
      | nil => rfl
      | cons x r =>
          have notPlus : x ≠ '+' := fun same => plus r (by rw [same])
          have notMinus : x ≠ '-' := fun same => minus r (by rw [same])
          have unsigned : (some x == some '+' || some x == some '-') = false := by
            simp [notPlus, notMinus]
          rw [List.head?_cons, unsigned]
          rfl

theorem signLength_le (input : List Char) : signLength input ≤ input.length := by
  obtain ⟨sign, r, rfl, length, -⟩ := signLength_split input
  rw [length, List.length_append]
  exact Nat.le_add_right _ _

theorem exponent_settles {n : Nat} {x : Char} {r : List Char} (ahead : c.rest.drop n = x :: r)
    (mark : isExponentMark x = true) :
    (exponent (start c)).Settles c pragma n (exponentRest (n + 1) r) := by
  have behind : c.rest.drop (n + 1) = r := drop_next ahead
  have marked := either_ends 'e' 'E' c n
  have sign := either_ends '+' '-' c (n + 1)
  have signed : c.rest.drop (n + 1 + signLength r) = r.drop (signLength r) := by
    rw [← List.drop_drop, behind]
  have le : n + 1 + signLength r ≤ c.rest.length := by
    have length := congrArg List.length ahead
    have := signLength_le r
    rw [List.length_drop, List.length_cons] at length
    omega
  rw [ahead] at marked
  dsimp only at marked sign
  rw [behind, ← signLength_eq] at sign
  have read : (some x == some 'e' || some x == some 'E') = true := mark
  rw [List.head?_cons, read] at marked
  refine marked.bind (sign.bind ((ends_run isDigit signed).bind ?_))
  unfold exponentRest
  dsimp only
  split
  · next empty =>
      rw [empty]
      exact settles_malformedNumber le
  · exact Ends.pure _ _

theorem numeral_settles (starts : startsNumber c.rest = true) :
    (numeral (start c)).Settles c pragma 0 (Scan.number c.rest) := by
  have read := mantissa_ends starts
  have marked := either_ends 'e' 'E' c (Scan.mantissa c.rest).1
  generalize found : ((c.rest.drop (Scan.mantissa c.rest).1).head? == some 'e' ||
    (c.rest.drop (Scan.mantissa c.rest).1).head? == some 'E') = double at marked
  -- The trial goes as far as the mark, and the same mantissa is then read for good.
  have trial : Ends (Reader.speculate (do
      if (← mantissa).isSome then either 'e' 'E' else return false) .done) c double c :=
    Ends.speculate (read.bind marked)
  refine trial.bind (read.bind ?_)
  unfold Scan.number numberRest
  dsimp only
  cases ahead : c.rest.drop (Scan.mantissa c.rest).1 with
  | nil =>
      rw [ahead] at found
      subst found
      exact Ends.pure _ _
  | cons x r =>
      rw [ahead] at found
      have same : isExponentMark x = double := found
      dsimp only
      rw [same]
      cases double with
      | true => exact exponent_settles ahead same
      | false => exact Ends.pure _ _

theorem numberAhead_eq (input : List Char) :
    numberAhead input[0]? input[1]? = startsNumber input := by
  match input with
  | [] => rfl
  | [x] =>
      by_cases dot : x = '.'
      · subst dot
        decide
      · simp [numberAhead, startsNumber, dot]
  | x :: y :: r =>
      by_cases dot : x = '.'
      · subst dot
        rfl
      · simp [numberAhead, startsNumber, dot]

theorem number_performs (outside : m.inContent = false) :
    (number (start c)).Performs c pragma
      ([numberRule, dotRule].findSome? fun rule => rule m c.rest) := by
  have first := Reader.ends_lookahead 1 c
  have second := Reader.ends_lookahead 2 c
  cases starts : startsNumber c.rest with
  | true =>
      have found : ([numberRule, dotRule].findSome? fun rule => rule m c.rest) =
          some (Scan.number c.rest) := by
        simp [numberRule, outside, starts]
      rw [found]
      refine first.bind (second.bind ?_)
      rw [if_pos ((numberAhead_eq c.rest).trans starts)]
      exact certain_performs (numeral_settles starts)
  | false =>
      have found : ([numberRule, dotRule].findSome? fun rule => rule m c.rest) =
          symbolAmong dots c.rest := by
        have skipped : numberRule m c.rest = none := by simp [numberRule, starts]
        rw [List.findSome?_cons, skipped]
        refine List.findSome?_singleton.trans ?_
        simp [dotRule, outside]
      rw [found]
      refine first.bind (second.bind ?_)
      rw [if_neg (by rw [numberAhead_eq, starts]; exact Bool.false_ne_true)]
      exact symbol_performs dots

theorem number_performs_outside :
    (guarded (!m.inContent) (number (start c))).Performs c pragma
      ([numberRule, dotRule].findSome? fun rule => rule m c.rest) := by
  refine outside_performs number_performs fun inside => ?_
  simp [numberRule, dotRule, inside]

theorem ends_reference {n : Nat} {input : List Char} (ahead : c.rest.drop n = input) :
    referenceReader.Ends (c.forward n) ((reference? input).map Prod.fst)
      (c.forward (n + (reference? input).elim 0 Prod.snd)) := by
  rw [← ahead, ← Cursor.forward_rest, ← Cursor.forward_forward]
  exact referenceReader_run (c.forward n)

theorem stringBody_settles {d : Char} {passes n : Nat} (enough : c.rest.length ≤ n + passes) :
    (stringBody (start c) d passes).Settles c pragma n (stringRest d n (c.rest.drop n)) := by
  generalize ahead : c.rest.drop n = input
  fun_induction stringRest d n input generalizing passes with
  | case1 read =>
      cases passes with
      | zero => exact settles_unterminated .string ahead
      | succ k => exact (ends_look ahead).bind (settles_unterminated .string ahead)
  | case2 read s ih =>
      obtain ⟨k, rfl⟩ := passes_left enough ahead
      have later := @ih k (by omega) (drop_behind (t := [d, d]) ahead)
      refine (ends_look ahead).bind ?_
      dsimp only [List.head?_cons]
      rw [if_pos rfl]
      exact (ends_step ahead).bind ((ends_character (drop_next ahead)).bind later)
  | case3 read e s other =>
      obtain ⟨k, rfl⟩ := passes_left enough ahead
      have single : ∀ r, c.rest.drop (read + 1) ≠ d :: r := by
        rw [drop_next ahead]
        exact fun r same => other (List.cons.inj same).1
      refine (ends_look ahead).bind ?_
      dsimp only [List.head?_cons]
      rw [if_pos rfl]
      exact (ends_step ahead).bind ((ends_character_of_ne single).bind (Ends.pure _ _))
  | case4 read =>
      obtain ⟨k, rfl⟩ := passes_left enough ahead
      have single : ∀ r, c.rest.drop (read + 1) ≠ d :: r := by
        rw [drop_next ahead]
        exact fun r => (List.cons_ne_nil d r).symm
      refine (ends_look ahead).bind ?_
      dsimp only [List.head?_cons]
      rw [if_pos rfl]
      exact (ends_step ahead).bind ((ends_character_of_ne single).bind (Ends.pure _ _))
  | case5 read r kind length other found ih =>
      obtain ⟨k, rfl⟩ := passes_left enough ahead
      -- A reference is one pass, however long it is.
      have pos := reference?_pos found
      have behind : c.rest.drop (read + length) = r.drop (length - 1) := by
        rw [← List.drop_drop, ahead, ← Nat.sub_add_cancel pos]
        rfl
      have later := @ih k (by omega) behind
      have referred := ends_reference ahead
      rw [found] at referred
      refine (ends_look ahead).bind ?_
      dsimp only [List.head?_cons]
      rw [if_neg other, if_pos rfl]
      exact referred.bind later
  | case6 read r other missing =>
      obtain ⟨k, rfl⟩ := passes_left enough ahead
      have referred := ends_reference ahead
      rw [missing] at referred
      refine (ends_look ahead).bind ?_
      dsimp only [List.head?_cons]
      rw [if_neg other, if_pos rfl]
      exact referred.bind (settles_malformedReference ahead)
  | case7 read x r plain unmarked ih =>
      obtain ⟨k, rfl⟩ := passes_left enough ahead
      have later := @ih k (by omega) (drop_next ahead)
      refine (ends_look ahead).bind ?_
      dsimp only [List.head?_cons]
      rw [if_neg plain, if_neg unmarked]
      exact (ends_step ahead).bind later

theorem string_settles {d : Char} {r : List Char} (ahead : c.rest = d :: r) :
    (string (start c)).Settles c pragma 0 (stringRest d 1 r) := by
  have behind : c.rest.drop 1 = r := by rw [ahead]; rfl
  have body : (stringBody (start c) d c.rest.length).Settles c pragma 1 _ :=
    stringBody_settles (Nat.le_add_left _ _)
  have first := Reader.ends_advance c
  rw [behind] at body
  rw [ahead] at first
  exact first.bind body

theorem string_performs {x : Char} {r : List Char} (ahead : c.rest = x :: r) :
    (guarded ((Delimiter.ofChar? x).isSome && m.strings && !m.inElement)
      (certain (string (start c)))).Performs c pragma (stringRule m c.rest) := by
  have rule : stringRule m c.rest =
      if (Delimiter.ofChar? x).isSome && m.strings && !m.inElement then some (stringRest x 1 r)
      else none := by
    rw [ahead]
    rfl
  rw [rule]
  exact certain_performs_guarded fun _ => string_settles ahead

theorem name_settles {x : Char} {r : List Char} (ahead : c.rest = x :: r) :
    (name (start c)).Settles c pragma 0
      (.token (.ofName (c.rest.take (1 + run isNameChar r))) (1 + run isNameChar r)) := by
  have behind : c.rest.drop 1 = r := by rw [ahead]; rfl
  have le : 1 + run isNameChar r ≤ c.rest.length := by
    have : run isNameChar r ≤ r.length := (List.takeWhile_prefix _).length_le
    rw [ahead, List.length_cons]
    omega
  exact (Reader.ends_advance c).bind ((ends_run isNameChar behind).bind
    ((ends_textSince c le).bind (Ends.pure _ _)))

theorem name_performs {x : Char} {r : List Char} (ahead : c.rest = x :: r) :
    (guarded (isNameStart x) (certain (name (start c)))).Performs c pragma (nameRule m c.rest) := by
  have rule : nameRule m c.rest = if isNameStart x then
      some (.token (.ofName (c.rest.take (1 + run isNameChar r))) (1 + run isNameChar r))
      else none := by
    rw [ahead]
    rfl
  rw [rule]
  exact certain_performs_guarded fun _ => name_settles ahead

end QueryScan.Recognizer
