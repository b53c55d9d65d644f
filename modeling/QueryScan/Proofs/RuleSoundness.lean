import QueryScan.Proofs.Constructs
import QueryScan.Proofs.Names

/-! Every rule by itself reads texts of the grammar: a token of some kind has a text of that kind,
and only comments and blanks are passed over. The order of the rules plays no part in it. -/
namespace QueryScan.Scan

open Grammar
open Unicode (isBlank isNameStart isNameChar)
open Text (run run_split)

theorem symbolAmong_reads (m : Mode) {table : List (List Char × Symbol)}
    (known : table ∈ symbolTables) {input : List Char} {s : Step}
    (h : symbolAmong table input = some s) : s.Reads m input := by
  obtain ⟨entry, found, rfl⟩ := Option.map_eq_some_iff.mp h
  have start := List.find?_some found
  obtain ⟨r, rfl⟩ := List.isPrefixOf_iff_prefix.mp start
  have spelled := symbolTables_spelled table known entry (List.mem_of_find?_eq_some found)
  exact ⟨entry.1, r, rfl, rfl, spelled⟩

/-- A run of a class gives texts of the kind, when all non-empty runs of the class are such. -/
theorem runOf_reads (m : Mode) {kind : Kind} {p : Char → Bool} {input : List Char} {s : Step}
    (valid : ∀ w, Run p w → Lexeme m kind w) (h : runOf kind p input = some s) :
    s.Reads m input := by
  simp only [runOf] at h
  split at h
  · contradiction
  · next some =>
      cases h
      obtain ⟨w, r, split, length, all⟩ := run_pos_split some
      exact ⟨w, r, split, length, valid w all⟩

theorem commentRule_reads {m : Mode} {input : List Char} {s : Step}
    (h : commentRule m input = some s) : s.Reads m input := by
  unfold commentRule at h
  split at h
  · split at h
    · contradiction
    · split at h
      · next found =>
          cases h
          obtain ⟨w, r, rfl, rfl, closed⟩ := commentRest_split found
          refine ⟨'(' :: ':' :: w, r, rfl, ?_, .inl ⟨w, closed, rfl⟩⟩
          simp only [List.length_cons]
          omega
      · cases h
        trivial
  · contradiction

theorem cdataRule_reads {m : Mode} {input : List Char} {s : Step}
    (h : cdataRule m input = some s) : s.Reads m input := by
  unfold cdataRule at h
  split at h
  · next r =>
      split at h
      · next found =>
          cases h
          obtain ⟨body, t, rfl, rfl, first⟩ := Text.find?_eq_some (by simp) found
          refine ⟨_, t, ?_, ?_, body, Text.not_infix_of_first (by simp) first, rfl⟩
          · simp
          · simp only [List.length_cons, List.length_append, List.length_nil]
            omega
      · cases h
        trivial
  · contradiction

theorem instructionRule_reads {m : Mode} {input : List Char} {s : Step}
    (h : instructionRule m input = some s) : s.Reads m input := by
  unfold instructionRule at h
  split at h
  · next c r =>
      split at h
      · next start =>
          cases h
          exact instructionRest_reads m start r
      · contradiction
  · contradiction

theorem pragmaStartRule_reads {m : Mode} {input : List Char} {s : Step}
    (h : pragmaStartRule m input = some s) : s.Reads m input := by
  unfold pragmaStartRule at h
  split at h
  · next r =>
      split at h
      · contradiction
      · cases h
        obtain ⟨blanks, t, rfl, length, all, -⟩ := run_split isBlank r
        refine ⟨'(' :: '#' :: blanks, t, rfl, ?_, blanks, all, rfl⟩
        simp only [length, List.length_cons]
        omega
  · contradiction

theorem pragmaEndRule_reads {m : Mode} {input : List Char} {s : Step}
    (h : pragmaEndRule m input = some s) : s.Reads m input := by
  unfold pragmaEndRule at h
  split at h
  · next c r =>
      split at h
      · next lead =>
          cases h
          simp only [Bool.and_eq_true, Bool.or_eq_true, beq_iff_eq] at lead
          exact pragmaEnd_reads m r lead.2
      · contradiction
  · contradiction

theorem attributeEscapeRule_reads {m : Mode} {input : List Char} {s : Step}
    (h : attributeEscapeRule m input = some s) : s.Reads m input := by
  unfold attributeEscapeRule at h
  split at h
  · next d a b r context =>
      split at h
      · next same =>
          cases h
          obtain ⟨rfl, rfl⟩ := same
          exact ⟨[d.char, d.char], r, rfl, rfl, rfl⟩
      · contradiction
  · contradiction

theorem delimiter_of_ofChar? {c : Char} {d : Delimiter} (h : Delimiter.ofChar? c = some d) :
    c = d.char := by
  unfold Delimiter.ofChar? at h
  split at h
  · next same =>
      cases h
      exact same
  · split at h
    · next same =>
        cases h
        exact same
    · contradiction

theorem stringRule_reads {m : Mode} {input : List Char} {s : Step}
    (h : stringRule m input = some s) : s.Reads m input := by
  unfold stringRule at h
  split at h
  · next c r =>
      split at h
      · next opens =>
          cases h
          simp only [Bool.and_eq_true, Option.isSome_iff_exists] at opens
          obtain ⟨⟨⟨d, found⟩, -⟩, -⟩ := opens
          rw [delimiter_of_ofChar? found]
          exact stringRest_reads m d r
      · contradiction
  · contradiction

theorem quoteRule_reads {m : Mode} {input : List Char} {s : Step}
    (h : quoteRule m input = some s) : s.Reads m input := by
  unfold quoteRule at h
  split at h
  · next c r =>
      split at h
      · contradiction
      · obtain ⟨d, found, rfl⟩ := Option.map_eq_some_iff.mp h
        exact ⟨[d.char], r, by rw [delimiter_of_ofChar? found]; rfl, rfl, rfl⟩
  · contradiction

theorem attributeRule_reads {m : Mode} {input : List Char} {s : Step}
    (h : attributeRule m input = some s) : s.Reads m input := by
  unfold attributeRule at h
  split at h
  · next d c r context =>
      split at h
      · cases h
        exact reference_reads m _
      · refine runOf_reads m ?_ h
        intro w all
        refine ⟨d, by simp [Mode.delimiter?, context], all.1, ?_⟩
        intro x member
        have plain := all.2 x member
        simp only [isPlain, Bool.and_eq_true, bne_iff_ne, Bool.not_eq_true', Bool.or_eq_false_iff,
          beq_eq_false_iff_ne] at plain
        simp [plain]
  · contradiction

theorem elementRule_reads {m : Mode} {input : List Char} {s : Step}
    (h : elementRule m input = some s) : s.Reads m input := by
  unfold elementRule at h
  split at h
  · split at h
    · cases h
      exact reference_reads m _
    · refine runOf_reads m ?_ h
      intro w all
      refine ⟨all.1, ?_⟩
      intro x member
      have plain := all.2 x member
      simp only [isPlain, Bool.not_eq_true', Bool.or_eq_false_iff, beq_eq_false_iff_ne] at plain
      simp [plain]
  · contradiction

theorem blankRule_reads {m : Mode} {input : List Char} {s : Step}
    (h : blankRule m input = some s) : s.Reads m input := by
  unfold blankRule at h
  split at h
  · next c r =>
      split at h
      · next here =>
          simp only [Bool.and_eq_true, Bool.not_eq_true'] at here
          have pos : run isBlank (c :: r) ≠ 0 := by
            rw [Text.run_cons_of_pos r here.2]
            exact Nat.succ_ne_zero _
          obtain ⟨w, t, split, length, all⟩ := run_pos_split pos
          cases h
          split
          · exact ⟨w, t, split, length, all⟩
          · next explicit =>
              have implicit : m.blanks = false := by simpa using explicit
              exact ⟨w, t, split, length, .inr ⟨implicit, here.1, all⟩⟩
      · contradiction
  · contradiction

theorem nameRule_reads {m : Mode} {input : List Char} {s : Step}
    (h : nameRule m input = some s) : s.Reads m input := by
  unfold nameRule at h
  split at h
  · next c r =>
      split at h
      · next start =>
          cases h
          obtain ⟨w, t, rfl, length, all, -⟩ := run_split isNameChar r
          have taken : (c :: (w ++ t)).take (1 + run isNameChar (w ++ t)) = c :: w := by
            rw [length, Nat.add_comm, List.take_succ_cons, List.take_left]
          refine ⟨c :: w, t, rfl, ?_, ?_⟩
          · rw [length, List.length_cons, Nat.add_comm]
          · rw [taken]
            exact Kind.ofName_lexeme m ⟨c, w, rfl, start, all⟩
      · contradiction
  · contradiction

/-- Each rule reads texts of the grammar, or passes over what may be passed over. -/
theorem rule_reads {rule : Rule} (member : rule ∈ rules) {m : Mode} {input : List Char}
    {s : Step} (h : rule m input = some s) : s.Reads m input := by
  simp only [rules, List.mem_cons, List.not_mem_nil, or_false] at member
  rcases member with rfl | rfl | rfl | rfl | rfl | rfl | rfl | rfl | rfl | rfl | rfl | rfl | rfl |
    rfl | rfl | rfl | rfl | rfl | rfl | rfl | rfl
  · exact symbolAmong_reads m (by simp [symbolTables]) h
  · exact commentRule_reads h
  · unfold xmlCommentRule at h
    split at h
    · cases h
      exact xmlCommentRest_reads m _
    · contradiction
  · exact cdataRule_reads h
  · unfold numberRule at h
    split at h
    · next starts =>
        cases h
        simp only [Bool.and_eq_true] at starts
        exact number_reads m starts.2
    · contradiction
  · exact symbolAmong_reads m (by simp [symbolTables]) (Option.ite_none_left_eq_some.mp h).2
  · exact symbolAmong_reads m (by simp [symbolTables]) (Option.ite_none_left_eq_some.mp h).2
  · exact instructionRule_reads h
  · exact symbolAmong_reads m (by simp [symbolTables]) h
  · exact attributeEscapeRule_reads h
  · exact stringRule_reads h
  · exact symbolAmong_reads m (by simp [symbolTables]) (Option.ite_none_left_eq_some.mp h).2
  · exact pragmaStartRule_reads h
  · exact pragmaEndRule_reads h
  · exact symbolAmong_reads m (by simp [symbolTables]) h
  · exact attributeRule_reads h
  · exact quoteRule_reads h
  · exact elementRule_reads h
  · exact blankRule_reads h
  · exact nameRule_reads h
  · exact symbolAmong_reads m (by simp [symbolTables]) h

/-- What a step takes is a text of the grammar, in every mode and on every input. -/
theorem step_reads (m : Mode) (input : List Char) : (step m input).Reads m input := by
  cases input with
  | nil =>
      simp only [step, endStep]
      split
      · trivial
      · exact ⟨[], [], rfl, rfl, rfl⟩
  | cons c r =>
      simp only [step]
      cases found : rules.findSome? fun rule => rule m (c :: r) with
      | none => trivial
      | some s =>
          obtain ⟨rule, member, fires⟩ := List.exists_of_findSome?_eq_some found
          exact rule_reads member fires

/-- A token that is not that of the end is read from some of the text. -/
theorem step_token_split {m : Mode} {input : List Char} {k : Kind} {n : Nat}
    (found : step m input = .token k n) (more : k ≠ .eof) :
    ∃ w r, input = w ++ r ∧ n = w.length ∧ w ≠ [] := by
  have reads := step_reads m input
  rw [found] at reads
  obtain ⟨w, r, split, rfl, -⟩ := reads
  refine ⟨w, r, split, rfl, ?_⟩
  rintro rfl
  rw [eq_nil_of_step_eq_token found] at found
  exact more (eq_eof_of_step_nil found)

theorem step_skip_split {m : Mode} {input : List Char} {n : Nat} (found : step m input = .skip n) :
    ∃ w r, input = w ++ r ∧ n = w.length ∧ w ≠ [] := by
  have reads := step_reads m input
  have pos := (pos_of_step_eq_skip found).1
  rw [found] at reads
  obtain ⟨w, r, split, rfl, -⟩ := reads
  exact ⟨w, r, split, rfl, List.length_pos_iff.mp pos⟩

/-- The token of the end is read from no character, and only where there is none. -/
theorem step_eof {m : Mode} {input : List Char} {n : Nat}
    (found : step m input = .token .eof n) : input = [] ∧ n = 0 := by
  have reads := step_reads m input
  rw [found] at reads
  obtain ⟨w, r, -, rfl, empty⟩ := reads
  obtain rfl : w = [] := empty
  exact ⟨eq_nil_of_step_eq_token found, rfl⟩

end QueryScan.Scan
