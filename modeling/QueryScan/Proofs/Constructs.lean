import QueryScan.Proofs.Literals

/-! Comments, CDATA sections, processing instructions and pragmas. Each is read up to its first
closing mark; a text of the grammar is read whole, whatever stands behind it. -/
namespace QueryScan.Scan

open Grammar
open Unicode (isBlank isNameStart isNameChar)
open Text (run run_append run_cons_of_neg run_split find?_eq_some find?_append not_infix_of_first)

/-! ### XML comments -/

theorem xmlCommentRest_cons {c : Char} (read : Nat) (r : List Char) (plain : c ≠ '-') :
    xmlCommentRest read (c :: r) = xmlCommentRest (read + 1) r := by
  rw [xmlCommentRest.eq_def]
  split
  · next same => exact absurd (List.cons.inj same).1 plain
  · next same => exact absurd (List.cons.inj same).1 plain
  · next same => rw [(List.cons.inj same).2]
  · next same => exact absurd same (List.cons_ne_nil c r)

theorem xmlCommentRest_hyphen {c : Char} (read : Nat) (r : List Char) (plain : c ≠ '-') :
    xmlCommentRest read ('-' :: c :: r) = xmlCommentRest (read + 2) r := by
  have first : xmlCommentRest read ('-' :: c :: r) = xmlCommentRest (read + 1) (c :: r) := by
    rw [xmlCommentRest.eq_def]
    split
    · next same => exact absurd (List.cons.inj (List.cons.inj same).2).1 plain
    · next same => exact absurd (List.cons.inj (List.cons.inj same).2).1 plain
    · next same => rw [(List.cons.inj same).2]
    · next same => exact absurd same (List.cons_ne_nil _ _)
  rw [first, xmlCommentRest_cons _ _ plain]

theorem xmlCommentRest_append {body : List Char} (h : XmlCommentBody body) (read : Nat)
    (r : List Char) :
    xmlCommentRest read (body ++ '-' :: '-' :: '>' :: r) =
      .token .comment (read + body.length + 3) := by
  induction h generalizing read with
  | nil => rfl
  | plain other h ih =>
      rw [List.cons_append, xmlCommentRest_cons _ _ other, ih, List.length_cons]
      congr 1
      omega
  | hyphen other h ih =>
      rw [List.cons_append, List.cons_append, xmlCommentRest_hyphen _ _ other, ih,
        List.length_cons, List.length_cons]
      congr 1
      omega

/-- A character that does not stand before a hyphen with another hyphen can be put before a
comment's body. -/
theorem xmlCommentBody_cons {c : Char} {body t : List Char} (h : XmlCommentBody body)
    (apart : ∀ tail, c = '-' → body ++ '-' :: t = '-' :: tail → False) :
    XmlCommentBody (c :: body) := by
  by_cases hyphen : c = '-'
  · subst hyphen
    cases h with
    | nil => exact absurd rfl (apart t rfl)
    | plain other h => exact .hyphen other h
    | hyphen other h => exact absurd rfl (apart _ rfl)
  · exact .plain hyphen h

theorem xmlCommentRest_split {read n : Nat} {k : Kind} {input : List Char}
    (h : xmlCommentRest read input = .token k n) :
    k = .comment ∧ ∃ body r, input = body ++ '-' :: '-' :: '>' :: r ∧ n = read + body.length + 3 ∧
      XmlCommentBody body := by
  fun_induction xmlCommentRest read input with
  | case1 read r =>
      cases h
      exact ⟨rfl, [], r, rfl, rfl, .nil⟩
  | case2 read r open? => contradiction
  | case3 read c r notClosed notHyphens ih =>
      obtain ⟨rfl, body, t, rfl, rfl, valid⟩ := ih h
      refine ⟨rfl, c :: body, t, rfl, ?_, xmlCommentBody_cons valid notHyphens⟩
      rw [List.length_cons]
      omega
  | case4 read => contradiction

theorem xmlCommentRest_ne_skip (read n : Nat) (input : List Char) :
    xmlCommentRest read input ≠ .skip n := by
  fun_induction xmlCommentRest read input <;> simp_all

theorem xmlCommentRest_reads (m : Mode) (r : List Char) :
    (xmlCommentRest 4 r).Reads m ('<' :: '!' :: '-' :: '-' :: r) := by
  cases found : xmlCommentRest 4 r with
  | token k n =>
      obtain ⟨rfl, body, t, rfl, rfl, valid⟩ := xmlCommentRest_split found
      refine ⟨_, t, by simp, ?_, body, valid, rfl⟩
      simp only [List.length_cons, List.length_append, List.length_nil]
      omega
  | skip n => exact absurd found (xmlCommentRest_ne_skip _ _ _)
  | fault cause => trivial

theorem xmlCommentRule_append (m : Mode) {w : List Char} (h : XmlComment w) (r : List Char) :
    xmlCommentRule m (w ++ r) = some (.token .comment w.length) := by
  obtain ⟨body, valid, rfl⟩ := h
  have read := xmlCommentRest_append valid 4 r
  simp only [List.cons_append, List.append_assoc, List.nil_append, xmlCommentRule, read,
    List.length_cons, List.length_append, List.length_nil]
  congr 2
  omega

/-! ### CDATA sections and processing instructions -/

theorem cdataEnd_unbordered : Text.Unbordered [']', ']', '>'] := by decide

theorem instructionEnd_unbordered : Text.Unbordered ['?', '>'] := by decide

theorem isBlank_question : isBlank '?' = false := by decide

theorem cdataRule_append (m : Mode) {w : List Char} (h : Cdata w) (r : List Char) :
    cdataRule m (w ++ r) = some (.token .cdata w.length) := by
  obtain ⟨body, without, rfl⟩ := h
  have found := find?_append r (by simp) cdataEnd_unbordered without
  simp only [List.cons_append, List.nil_append] at found
  simp only [List.cons_append, List.append_assoc, List.nil_append, cdataRule, found,
    List.length_cons, List.length_append, List.length_nil]
  congr 2
  omega

/-- A mark that is looked for from a blank on stands behind blanks and a text without the mark.
Its first character is no blank, so the mark cuts none of them off. -/
theorem find?_behind_blanks {a c : Char} {mark t : List Char} {n : Nat} (solid : isBlank a = false)
    (blank : isBlank c = true) (found : Text.find? (a :: mark) (c :: t) = some n) :
    ∃ blanks body r, Run isBlank blanks ∧ c :: t = blanks ++ (body ++ (a :: mark ++ r)) ∧
      n = blanks.length + body.length ∧
      ∀ u v, body ++ a :: mark = u ++ a :: mark ++ v → v = [] := by
  obtain ⟨w, r, split, rfl, first⟩ := find?_eq_some (List.cons_ne_nil a mark) found
  obtain ⟨blanks, body, rfl, -, all, stop⟩ := run_split isBlank w
  refine ⟨blanks, body, r, ⟨?_, all⟩, by simpa using split, List.length_append, ?_⟩
  · rintro rfl
    cases body with
    | nil =>
        rw [(List.cons.inj split).1, solid] at blank
        cases blank
    | cons x body =>
        rw [(List.cons.inj split).1, stop x rfl] at blank
        cases blank
  · intro u v same
    refine first (blanks ++ u) v ?_
    simpa using congrArg (blanks ++ ·) same

/-- The rest of an instruction is its closing mark, or blanks and a text up to that mark. -/
theorem instructionRest_cases (read : Nat) (input : List Char) :
    (∃ cause, instructionRest read input = .fault cause) ∨
      (∃ r, input = '?' :: '>' :: r ∧ instructionRest read input = .token .instruction (read + 2)) ∨
      ∃ blanks body r, Run isBlank blanks ∧ ¬ ['?', '>'] <:+: body ∧
        input = blanks ++ (body ++ '?' :: '>' :: r) ∧
        instructionRest read input =
          .token .instruction (read + (blanks.length + body.length) + 2) := by
  unfold instructionRest
  split
  · next r => exact .inr (.inl ⟨r, rfl, rfl⟩)
  · exact .inl ⟨_, rfl⟩
  · next c t notClosed =>
      split
      · next blank =>
          split
          · next n found =>
              obtain ⟨blanks, body, r, all, split, rfl, first⟩ :=
                find?_behind_blanks isBlank_question blank found
              exact .inr (.inr ⟨blanks, body, r, all, not_infix_of_first (by simp) first, split,
                rfl⟩)
          · exact .inl ⟨_, rfl⟩
      · exact .inl ⟨_, rfl⟩

theorem not_infix_behind_blanks {a : Char} {mark blanks body : List Char}
    (solid : isBlank a = false) (all : ∀ c ∈ blanks, isBlank c = true)
    (without : ¬ (a :: mark) <:+: body) : ¬ (a :: mark) <:+: blanks ++ body := by
  refine Text.not_infix_append ?_ without
  intro member
  rw [all a member] at solid
  contradiction

theorem instructionRest_append {blanks body : List Char} (all : Run isBlank blanks)
    (without : ¬ ['?', '>'] <:+: body) (read : Nat) (r : List Char) :
    instructionRest read (blanks ++ (body ++ '?' :: '>' :: r)) =
      .token .instruction (read + (blanks.length + body.length) + 2) := by
  have found := find?_append r (by simp) instructionEnd_unbordered
    (not_infix_behind_blanks isBlank_question all.2 without)
  obtain ⟨c, t, rfl⟩ := List.exists_cons_of_ne_nil all.1
  have blank := all.2 c List.mem_cons_self
  simp only [List.append_assoc, List.cons_append, List.nil_append] at found
  rw [List.cons_append, instructionRest.eq_def]
  split
  · next same =>
      rw [(List.cons.inj same).1, isBlank_question] at blank
      contradiction
  · next same => exact absurd same (List.cons_ne_nil _ _)
  · next same =>
      obtain ⟨rfl, rfl⟩ := List.cons.inj same
      rw [if_pos blank, found]
      simp only [List.length_cons, List.length_append]
      congr 2
      omega

/-- An instruction whose target has been read is one of the grammar. -/
theorem instructionRest_reads (m : Mode) {c : Char} (start : isNameStart c = true)
    (r : List Char) :
    (instructionRest (3 + run isNameChar r) (r.drop (run isNameChar r))).Reads m
      ('<' :: '?' :: c :: r) := by
  obtain ⟨target, t, rfl, length, all, -⟩ := run_split isNameChar r
  have name : Name (c :: target) := ⟨c, target, rfl, start, all⟩
  rw [length, List.drop_left]
  rcases instructionRest_cases (3 + target.length) t with
    ⟨cause, found⟩ | ⟨r, rfl, found⟩ | ⟨blanks, body, r, blank, without, rfl, found⟩
  · rw [found]
    trivial
  · rw [found]
    refine ⟨_, r, ?_, ?_, c :: target, name, .inl rfl⟩
    · simp
    · simp only [List.length_cons, List.length_append, List.length_nil]
      omega
  · rw [found]
    refine ⟨_, r, ?_, ?_, c :: target, name, .inr ⟨blanks, body, blank, without, rfl⟩⟩
    · simp
    · simp only [List.length_cons, List.length_append, List.length_nil]
      omega

/-- A target ends where the mark or the blanks behind it start. -/
theorem instructionRule_target (m : Mode) {target t : List Char} (name : Name target)
    (stop : run isNameChar t = 0) :
    instructionRule m ('<' :: '?' :: (target ++ t)) =
      some (instructionRest (2 + target.length) t) := by
  obtain ⟨c, rest, rfl, start, all⟩ := name
  have length : run isNameChar (rest ++ t) = rest.length := by
    rw [run_append t all, stop, Nat.add_zero]
  have reach : 3 + rest.length = 2 + (c :: rest).length := by
    rw [List.length_cons]
    omega
  simp only [List.cons_append, instructionRule, if_pos start, length, List.drop_left, reach]

theorem instructionRule_append (m : Mode) {w : List Char} (h : Instruction w) (r : List Char) :
    instructionRule m (w ++ r) = some (.token .instruction w.length) := by
  obtain ⟨target, name, rfl | ⟨blanks, body, all, without, rfl⟩⟩ := h
  · have stop : run isNameChar ('?' :: '>' :: r) = 0 := run_cons_of_neg _ (by decide)
    simp only [List.cons_append, List.append_assoc, List.nil_append,
      instructionRule_target m name stop, instructionRest, List.length_cons, List.length_append,
      List.length_nil]
    congr 2
    omega
  · have stop : run isNameChar (blanks ++ (body ++ '?' :: '>' :: r)) = 0 := by
      obtain ⟨c, t, rfl⟩ := List.exists_cons_of_ne_nil all.1
      exact run_cons_of_neg _ (Unicode.isNameChar_of_isBlank (all.2 c List.mem_cons_self))
    simp only [List.cons_append, List.append_assoc, List.nil_append,
      instructionRule_target m name stop, instructionRest_append all without, List.length_cons,
      List.length_append, List.length_nil]
    congr 2
    omega

/-! ### Pragmas -/

theorem pragmaMark_unbordered : Text.Unbordered ['#', ')'] := by decide

theorem isBlank_hash : isBlank '#' = false := by decide

/-- The end of a pragma that starts at a blank or a hash is one of the grammar. -/
theorem pragmaEnd_reads (m : Mode) {c : Char} (t : List Char)
    (lead : isBlank c = true ∨ c = '#') : (pragmaEnd (c :: t)).Reads m (c :: t) := by
  unfold pragmaEnd
  split
  · next r same => exact ⟨['#', ')'], r, same, rfl, .inl rfl⟩
  · trivial
  · next notClosed notHash =>
      have blank : isBlank c = true := by
        refine lead.resolve_right ?_
        rintro rfl
        exact notHash t rfl
      split
      · next n found =>
          obtain ⟨blanks, content, r, all, split, rfl, first⟩ :=
            find?_behind_blanks isBlank_hash blank found
          refine ⟨blanks ++ (content ++ ['#', ')']), r, by simp [split], ?_,
            .inr ⟨blanks, content, all, rfl, first⟩⟩
          simp only [List.length_append, List.length_cons, List.length_nil]
          omega
      · trivial

theorem pragmaEnd_append {w : List Char} (h : PragmaEnd w) (r : List Char) :
    pragmaEnd (w ++ r) = .token .pragmaEnd w.length := by
  rcases h with rfl | ⟨blanks, content, all, rfl, first⟩
  · rfl
  · have without := not_infix_behind_blanks isBlank_hash all.2 (not_infix_of_first (by simp) first)
    have found := find?_append r (by simp) pragmaMark_unbordered without
    obtain ⟨c, t, rfl⟩ := List.exists_cons_of_ne_nil all.1
    have hash : c ≠ '#' := by
      rintro rfl
      have blank := all.2 '#' List.mem_cons_self
      rw [isBlank_hash] at blank
      contradiction
    simp only [List.append_assoc, List.cons_append, List.nil_append] at found ⊢
    rw [pragmaEnd.eq_def]
    split
    · next same => exact absurd (List.cons.inj same).1 hash
    · next same => exact absurd (List.cons.inj same).1 hash
    · rw [found]
      simp only [List.length_cons, List.length_append, List.length_nil, Nat.add_assoc]

/-! ### Comments of the query language -/

/-- The text closes the innermost comment and `depth` further ones. -/
def Closes : Nat → List Char → Prop
  | 0, w => CommentBody w
  | depth + 1, w => ∃ b r, CommentBody b ∧ Closes depth r ∧ w = b ++ r

theorem commentBody_ne_nil {w : List Char} (h : CommentBody w) : w ≠ [] := by
  cases h <;> simp

/-- The innermost comment is closed first; another depth only adds what follows. -/
theorem closes_split {depth : Nat} {w : List Char} (h : Closes depth w) :
    ∃ b r, CommentBody b ∧ w = b ++ r ∧ ∀ b', CommentBody b' → Closes depth (b' ++ r) := by
  cases depth with
  | zero => exact ⟨w, [], h, by simp, fun b' valid => by simpa [Closes] using valid⟩
  | succ depth =>
      obtain ⟨b, r, valid, rest, rfl⟩ := h
      exact ⟨b, r, valid, rfl, fun b' valid' => ⟨b', r, valid', rest, rfl⟩⟩

theorem commentRest_split {depth read n : Nat} {input : List Char}
    (h : commentRest depth read input = some n) :
    ∃ w r, input = w ++ r ∧ n = read + w.length ∧ Closes depth w := by
  fun_induction commentRest depth read input with
  | case1 depth read r ih =>
      obtain ⟨w, t, rfl, rfl, b, u, inner, outer, rfl⟩ := ih h
      obtain ⟨b', v, valid, rfl, close⟩ := closes_split outer
      refine ⟨'(' :: ':' :: (b ++ b') ++ v, t, by simp, ?_, close _ (.nested inner valid)⟩
      simp only [List.length_cons, List.length_append]
      omega
  | case2 read r =>
      cases h
      exact ⟨[':', ')'], r, rfl, rfl, .close⟩
  | case3 read r d ih =>
      obtain ⟨w, t, rfl, rfl, closed⟩ := ih h
      refine ⟨':' :: ')' :: w, t, rfl, ?_, [':', ')'], w, .close, closed, rfl⟩
      simp only [List.length_cons]
      omega
  | case4 depth read c r notOpen notClose ih =>
      obtain ⟨w, t, rfl, rfl, closed⟩ := ih h
      obtain ⟨b, u, valid, rfl, close⟩ := closes_split closed
      obtain ⟨x, b, rfl⟩ := List.exists_cons_of_ne_nil (commentBody_ne_nil valid)
      refine ⟨c :: (x :: b) ++ u, t, by simp, ?_, close _ (.char ?_ ?_ valid)⟩
      · simp only [List.length_cons, List.length_append]
        omega
      · rintro rfl head
        simp only [List.head?_cons, Option.some.injEq] at head
        exact notOpen (b ++ u ++ t) rfl (by simp [head])
      · rintro rfl head
        simp only [List.head?_cons, Option.some.injEq] at head
        exact notClose (b ++ u ++ t) rfl (by simp [head])
  | case5 depth read => contradiction

theorem commentRest_char {c : Char} {r : List Char} (depth read : Nat)
    (notOpen : c = '(' → r.head? ≠ some ':') (notClose : c = ':' → r.head? ≠ some ')') :
    commentRest depth read (c :: r) = commentRest depth (read + 1) r := by
  rw [commentRest.eq_def]
  split
  · next same =>
      obtain ⟨rfl, rfl⟩ := List.cons.inj same
      exact absurd rfl (notOpen rfl)
  · next same =>
      obtain ⟨rfl, rfl⟩ := List.cons.inj same
      exact absurd rfl (notClose rfl)
  · next same => rw [(List.cons.inj same).2]
  · next same => exact absurd same (List.cons_ne_nil c r)

/-- The rest of a comment is read to its end, and then that of the comment around it. -/
theorem commentRest_append {b : List Char} (h : CommentBody b) (depth read : Nat) (r : List Char) :
    commentRest depth read (b ++ r) =
      match depth with
      | 0 => some (read + b.length)
      | d + 1 => commentRest d (read + b.length) r := by
  induction h generalizing depth read r with
  | close => cases depth <;> rfl
  | @nested b w inner outer ihInner ihOuter =>
      have lengths : read + 2 + b.length + w.length = read + ('(' :: ':' :: (b ++ w)).length := by
        simp only [List.length_cons, List.length_append]
        omega
      rw [List.cons_append, List.cons_append, commentRest, List.append_assoc, ihInner]
      dsimp only
      rw [ihOuter, lengths]
  | @char c w notOpen notClose rest ih =>
      obtain ⟨x, t, rfl⟩ := List.exists_cons_of_ne_nil (commentBody_ne_nil rest)
      have lengths : read + 1 + (x :: t).length = read + (c :: x :: t).length := by
        simp only [List.length_cons]
        omega
      rw [List.cons_append, commentRest_char depth read (by simpa using notOpen)
        (by simpa using notClose), ih, lengths]

end QueryScan.Scan
