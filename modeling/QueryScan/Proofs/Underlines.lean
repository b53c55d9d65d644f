import QueryScan.Proofs.Carets

/-! The end of an underline. A line is shown without any of the carriage returns at its end, but the
text under which the carets stand loses at most one, and that only before a line feed. The others
are underlined beyond the end of what is shown. -/
namespace QueryScan

open Unicode (isBlank)

namespace Text

/-- How many carriage returns at the end of its first line a text has. -/
def returns (text : List Char) : Nat :=
  ((text.takeWhile (· != '\n')).reverse.takeWhile (· == '\r')).length

/-- How many of them are underlined though they are not shown: a line feed takes one with it. -/
def overhang (text : List Char) : Nat :=
  if '\n' ∈ text then returns text - 1 else returns text

theorem takeWhile_of_single {text : List Char} (single : '\n' ∉ text) :
    text.takeWhile (· != '\n') = text := by
  rw [List.takeWhile_eq_self_iff]
  exact bne_of_notMem single

theorem takeWhile_of_feed {u : List Char} (single : '\n' ∉ u) (v : List Char) :
    (u ++ '\n' :: v).takeWhile (· != '\n') = u :=
  takeWhile_run (bne_of_notMem single) (by simp)

theorem Shows.returns {text shown : List Char} {n : Nat}
    (h : Shows (text.takeWhile (· != '\n')) shown n) : Text.returns text = n := by
  have back : (List.replicate n '\r' ++ shown.reverse).takeWhile (· == '\r') =
      List.replicate n '\r' := by
    refine takeWhile_run (by simp) ?_
    intro c first
    rw [List.head?_reverse] at first
    simp only [beq_eq_false_iff_ne]
    rintro rfl
    exact h.last first
  rw [Text.returns, h.split, List.reverse_append, List.reverse_replicate, back,
    List.length_replicate]

theorem length_stripEnd? {shown : List Char} {n : Nat} (last : shown.getLast? ≠ some '\r') :
    ((stripEnd? ['\r'] (shown ++ List.replicate n '\r')).getD
      (shown ++ List.replicate n '\r')).length = shown.length + (n - 1) := by
  cases n with
  | zero =>
      have none : ¬ (['\r'].isSuffixOf shown = true) := by
        rw [List.isSuffixOf_iff_suffix]
        rintro ⟨u, rfl⟩
        exact last (by simp)
      simp [stripEnd?, none]
  | succ n =>
      have some : ['\r'].isSuffixOf (shown ++ List.replicate (n + 1) '\r') = true := by
        rw [List.isSuffixOf_iff_suffix, List.replicate_succ', ← List.append_assoc]
        exact List.suffix_append _ _
      simp [stripEnd?, some]

end Text

namespace Snippet

/-- The underline is as long as what is shown of the first line, and the overhang. -/
theorem length_firstLine {text shown : List Char} {n : Nat}
    (h : Text.Shows (text.takeWhile (· != '\n')) shown n) :
    (firstLine text).length = shown.length + Text.overhang text := by
  have total : (text.takeWhile (· != '\n')).length = shown.length + n := by
    rw [h.split, List.length_append, List.length_replicate]
  by_cases several : '\n' ∈ text
  · have shorter : (text.takeWhile (· != '\n')).length < text.length := by
      obtain ⟨u, v, rfl, single⟩ := List.eq_append_cons_of_mem several
      rw [Text.takeWhile_of_feed single, List.length_append, List.length_cons]
      omega
    rw [firstLine, if_pos shorter, h.split, Text.length_stripEnd? h.last, Text.overhang,
      if_pos several, h.returns]
  · have whole := Text.takeWhile_of_single several
    rw [firstLine, whole, if_neg (Nat.lt_irrefl _), Text.overhang, if_neg several, h.returns,
      ← total, whole]

/-- The underline ends with the line that is shown unless the text has an overhang, and where the
text crosses a line break it goes exactly that much beyond the line. -/
structure Underlines (s : Snippet) (text : List Char) : Prop where
  within : s.endColumn - 1 ≤ s.line.length ↔ Text.overhang text = 0
  crossing : '\n' ∈ text → s.endColumn - 1 = s.line.length + Text.overhang text

end Snippet

namespace Span.Starts

variable {source : String} {span : Span} {text lead tail shown : List Char} {returns : Nat}

theorem underlines_end (h : span.Starts source text lead tail)
    (displayed : Text.Shows tail shown returns) (reach : text.takeWhile (· != '\n') = tail) :
    (Snippet.mk (String.ofList (lead ++ shown)) span.line.toNat span.column.toNat
      (span.column.toNat + (Snippet.firstLine text).length)).Underlines text := by
  have width := Snippet.length_firstLine (reach ▸ displayed)
  have column := h.column
  have ends : span.column.toNat + (Snippet.firstLine text).length - 1 =
      (String.ofList (lead ++ shown)).length + Text.overhang text := by
    rw [String.length_ofList, List.length_append]
    omega
  have within : span.column.toNat + (Snippet.firstLine text).length - 1 ≤
      (String.ofList (lead ++ shown)).length ↔ Text.overhang text = 0 := by
    rw [ends]
    omega
  exact ⟨within, fun _ => ends⟩

theorem underlines_inside (h : span.Starts source text lead tail)
    (displayed : Text.Shows tail shown returns) (solid : ∀ c ∈ text, isBlank c = false) :
    (Snippet.mk (String.ofList (lead ++ shown)) span.line.toNat span.column.toNat
      (span.column.toNat + (Snippet.firstLine text).length)).Underlines text := by
  have single : '\n' ∉ text := fun feed => absurd (solid _ feed) (by decide)
  have whole : Text.Shows (text.takeWhile (· != '\n')) text 0 := by
    rw [Text.takeWhile_of_single single]
    refine ⟨(List.append_nil _).symm, fun cr => ?_⟩
    exact absurd (solid _ (List.mem_of_getLast? cr)) (by decide)
  have none : Text.overhang text = 0 := by rw [Text.overhang, if_neg single, whole.returns]
  have width := Snippet.length_firstLine whole
  have fits : text.length ≤ shown.length := by
    obtain ⟨after, split⟩ := h.staying single
    rw [displayed.split] at split
    rcases List.append_eq_append_iff.mp split with ⟨t, rfl, -⟩ | ⟨t, rfl, cr⟩
    · exact (List.prefix_append text t).length_le
    · cases t with
      | nil => rw [List.append_nil]
      | cons c t =>
          have same : c ∈ List.replicate returns '\r' := cr ▸ List.mem_cons_self
          have notBlank := solid c (List.mem_append_right _ List.mem_cons_self)
          rw [List.eq_of_mem_replicate same] at notBlank
          exact absurd notBlank (by decide)
  have column := h.column
  have ends : span.column.toNat + (Snippet.firstLine text).length - 1 ≤
      (String.ofList (lead ++ shown)).length := by
    rw [String.length_ofList, List.length_append]
    omega
  exact ⟨iff_of_true ends none, fun several => absurd several single⟩

end Span.Starts

theorem Span.Solid.underlines {source : String} {span : Span} {text : List Char}
    (solid : span.Solid source text) (formed : span.WellFormed source)
    (countable : Text.Countable source.toList) (name : String) :
    ∃ s, Snippet.ofSpan? (SourceFile.ofText name source) span = some s ∧ s.Underlines text := by
  obtain ⟨c, t, lead, tail, rest, returns, rfl, starts, displayed⟩ := solid.shows formed countable
  refine ⟨_, starts.snippet solid.covers (displayed.behind lead (List.cons_ne_nil c rest)) name, ?_⟩
  -- The carriage returns at the end of the line are met where the text goes on behind the line, or
  -- where it goes to the end of the source.
  by_cases several : '\n' ∈ c :: t
  · obtain ⟨v, split⟩ := starts.crossing several
    obtain ⟨front, behind, here, -⟩ := starts.line
    have single : '\n' ∉ tail := fun feed => here.whole (List.mem_append_right lead feed)
    refine starts.underlines_end displayed ?_
    rw [split, Text.takeWhile_of_feed single]
  · rcases solid.inside with clean | reach
    · exact starts.underlines_inside displayed clean
    · refine starts.underlines_end displayed ?_
      rw [Text.takeWhile_of_single several, starts.reaching reach several]

/-! ### Errors of a session -/

namespace Scanner

/-- From outside a pragma the underline of an error stays on the line that is shown exactly when its
text has no overhang. Where the text crosses a line break the underline ends with the line, but for
that overhang. The lines and columns of the source are taken to be countable. -/
theorem session_underlines (name source : String) (countable : Text.Countable source.toList)
    (m : Mode) (outside : m.pragma = false) (actions : List Action) :
    ∀ r ∈ (Scanner.ofText source m).session actions, ∀ e, r.1.error? = some e →
      ∃ s text, Snippet.ofSpan? (SourceFile.ofText name source) e.span = some s ∧
        e.span.text? source = some text ∧ s.Underlines text.toList := by
  intro r member e given
  obtain ⟨formed, text, solid⟩ := session_solid source outside actions r member e given
  obtain ⟨snippet, found, ends⟩ := solid.underlines formed countable name
  refine ⟨snippet, String.ofList text, found, congrArg (Option.map String.ofList) solid.covers, ?_⟩
  rwa [String.toList_ofList]

/-- A line feed takes the one carriage return before it with it. -/
theorem session_underlines_crlf :
    ∃ r ∈ (Scanner.ofText "(:\r\n").session [.next],
      r.1.error? = some (.unterminated .comment ⟨0, 4, 1, 1⟩) ∧
        Text.overhang "(:\r\n".toList = 0 ∧
        ∃ s text, Snippet.ofSpan? (SourceFile.ofText "q.xq" "(:\r\n") ⟨0, 4, 1, 1⟩ = some s ∧
          Span.text? ⟨0, 4, 1, 1⟩ "(:\r\n" = some text ∧ s.Underlines text.toList := by
  have stop := next_of_fault (s := Scanner.ofText "(:\r\n") rfl (settle_of_fault rfl)
  have member : (Answer.token (Scanner.ofText "(:\r\n").next.1, (Scanner.ofText "(:\r\n").next.2) ∈
      (Scanner.ofText "(:\r\n").session [.next] :=
    List.mem_cons_self
  have error : (Answer.token (Scanner.ofText "(:\r\n").next.1).error? =
      some (.unterminated .comment ⟨0, 4, 1, 1⟩) := by
    rw [stop]
    rfl
  have countable : Text.Countable "(:\r\n".toList := Text.countable_of_length (by decide)
  exact ⟨_, member, error, by decide,
    session_underlines "q.xq" "(:\r\n" countable {} rfl _ _ member _ error⟩

/-- Of two carriage returns one is underlined beyond the line, and at the end of the source even a
single one is. -/
theorem underlined_beyond_line :
    (∃ r ∈ (Scanner.ofText "(:\r\r\n").session [.next],
      r.1.error? = some (.unterminated .comment ⟨0, 5, 1, 1⟩) ∧
        Span.text? ⟨0, 5, 1, 1⟩ "(:\r\r\n" = some "(:\r\r\n" ∧
        ∃ s, Snippet.ofSpan? (SourceFile.ofText "q.xq" "(:\r\r\n") ⟨0, 5, 1, 1⟩ = some s ∧
          s.line = "(:" ∧ ¬ s.endColumn - 1 ≤ s.line.length) ∧
    ∃ r ∈ (Scanner.ofText "(:\r").session [.next],
      r.1.error? = some (.unterminated .comment ⟨0, 3, 1, 1⟩) ∧
        ∃ s, Snippet.ofSpan? (SourceFile.ofText "q.xq" "(:\r") ⟨0, 3, 1, 1⟩ = some s ∧
          s.line = "(:" ∧ ¬ s.endColumn - 1 ≤ s.line.length := by
  have two := next_of_fault (s := Scanner.ofText "(:\r\r\n") rfl (settle_of_fault rfl)
  have one := next_of_fault (s := Scanner.ofText "(:\r") rfl (settle_of_fault rfl)
  have returned : Snippet.ofSpan? (SourceFile.ofText "q.xq" "(:\r\r\n") ⟨0, 5, 1, 1⟩ =
      some ⟨"(:", 1, 1, 4⟩ := by decide
  have ended : Snippet.ofSpan? (SourceFile.ofText "q.xq" "(:\r") ⟨0, 3, 1, 1⟩ =
      some ⟨"(:", 1, 1, 4⟩ := by decide
  refine ⟨⟨_, List.mem_cons_self, ?_, by decide, _, returned, rfl, by decide⟩,
    _, List.mem_cons_self, ?_, _, ended, rfl, by decide⟩
  · exact congrArg Answer.error? (congrArg (fun r => Answer.token r.1) two)
  · exact congrArg Answer.error? (congrArg (fun r => Answer.token r.1) one)

end Scanner

end QueryScan
