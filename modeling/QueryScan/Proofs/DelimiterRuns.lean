import QueryScan.Proofs.ContentParts

/-! Delimiters in an attribute value. A run of them is read in pairs from its start, and an odd one
is left for the end. Since the text before a run stops at it and the run goes on as long as it can,
the pairs do not depend on what stands around the run. -/
namespace QueryScan

open Grammar
open Scan

/-- A part with a quote in it is text, or it is made of the active delimiter. -/
theorem ContentPart.of_delimiter_mem {m : Mode} {p : Part} {r : List Char} {d : Delimiter}
    (h : ContentPart m p r) (member : d.char ∈ p.chars) :
    (m.delimiter? ≠ some d ∧ p.kind = m.textKind) ∨
      (m.delimiter? = some d ∧ (p = ⟨.escape d, [d.char, d.char]⟩ ∨
        p = ⟨.quote d, [d.char]⟩ ∧ r.head? ≠ some d.char)) := by
  cases h with
  | brace => cases d <;> simp [Delimiter.char] at member
  | reference valid => exact absurd member (delimiter_not_mem_reference d valid.form)
  | text held =>
      refine .inl ⟨?_, rfl⟩
      intro active
      exact (Mode.holds_iff.mp (held.2 d.char member)).1 d active rfl
  | escape active =>
      obtain rfl := delimiter_char_inj (by simpa using member)
      exact .inr ⟨active, .inl rfl⟩
  | quote active single =>
      obtain rfl := delimiter_char_inj (List.mem_singleton.mp member)
      exact .inr ⟨active, .inr ⟨rfl, single⟩⟩

theorem ContentPart.kind_mem {m : Mode} {p : Part} {r : List Char} {d : Delimiter}
    (h : ContentPart m p r) (active : m.delimiter? = some d) :
    p.kind ∈ [m.textKind, .escape d, .quote d, .entityRef, .charRef, .symbol .rightBrace] := by
  cases h with
  | reference valid => rcases valid with ⟨rfl, -⟩ | ⟨rfl, -⟩ <;> simp
  | escape same | quote same =>
      obtain rfl := Option.some.inj (active.symm.trans same)
      simp
  | brace | text => simp

theorem ContentPart.delimiter_mem_iff {m : Mode} {p : Part} {r : List Char} {d : Delimiter}
    (h : ContentPart m p r) (active : m.delimiter? = some d) :
    d.char ∈ p.chars ↔ p.kind = .escape d ∨ p.kind = .quote d := by
  constructor
  · intro member
    rcases h.of_delimiter_mem member with ⟨other, -⟩ | ⟨-, rfl | ⟨rfl, -⟩⟩
    · exact absurd active other
    · exact .inl rfl
    · exact .inr rfl
  · intro kind
    cases h with
    | reference valid => rcases valid with ⟨rfl, -⟩ | ⟨rfl, -⟩ <;> simp at kind
    | text => unfold Mode.textKind at kind; split at kind <;> simp at kind
    | escape same | quote same =>
        obtain rfl := Option.some.inj (active.symm.trans same)
        exact List.mem_cons_self
    | brace => simp at kind

/-- A run of delimiters does not start inside a part. -/
theorem ContentPart.before_run {m : Mode} {p : Part} {r cs front back : List Char} {d : Delimiter}
    (h : ContentPart m p r) (active : m.delimiter? = some d)
    (split : p.chars ++ cs = front ++ d.char :: back) (ne : front ≠ [])
    (start : front.getLast? ≠ some d.char) :
    ∃ a, front = p.chars ++ a ∧ cs = a ++ d.char :: back := by
  rcases List.append_eq_append_iff.mp split with ⟨a, same, behind⟩ | ⟨b, same, behind⟩
  · exact ⟨a, same, behind⟩
  · cases b with
    | nil => exact ⟨[], by rw [same, List.append_nil, List.append_nil], behind.symm⟩
    | cons x b =>
        obtain ⟨rfl, -⟩ := List.cons.inj behind
        have member : d.char ∈ p.chars := by simp [same]
        obtain ⟨f, fs, rfl⟩ := List.exists_cons_of_ne_nil ne
        rcases h.of_delimiter_mem member with ⟨other, -⟩ | ⟨-, rfl | ⟨rfl, -⟩⟩
        · exact absurd active other
        · obtain ⟨rfl, tail⟩ := List.cons.inj same
          cases fs with
          | nil => exact absurd rfl start
          | cons g gs => simp at tail
        · simp at same

def runKinds (d : Delimiter) (k : Nat) : List Kind :=
  List.replicate (k / 2) (.escape d) ++ if k % 2 = 1 then [.quote d] else []

theorem runKinds_add_two (d : Delimiter) (k : Nat) :
    runKinds d (k + 2) = .escape d :: runKinds d k := by
  rw [runKinds, Nat.add_div_right k (by decide), Nat.add_mod_right, List.replicate_succ]
  rfl

namespace Parts

variable {m : Mode} {d : Delimiter} {r rest : List Char} {ps : List Part} {k : Nat}
  {front back : List Char}

theorem run_at_start (active : m.delimiter? = some d) (h : Parts m r ps rest)
    (split : ps.flatMap Part.chars = List.replicate k d.char ++ back)
    (stop : back.head? ≠ some d.char) :
    ∃ run behind, ps = run ++ behind ∧ run.map Part.kind = runKinds d k ∧
      behind.flatMap Part.chars = back := by
  induction h generalizing k with
  | nil =>
      obtain ⟨none, rfl⟩ := List.append_eq_nil_iff.mp split.symm
      obtain rfl : k = 0 := by simpa using none
      exact ⟨[], [], rfl, rfl, rfl⟩
  | @cons p r ps rest part later ih =>
      cases k with
      | zero => exact ⟨[], p :: ps, rfl, rfl, split⟩
      | succ k =>
          rw [List.flatMap_cons, List.replicate_succ, List.cons_append] at split
          have member : d.char ∈ p.chars := by
            obtain ⟨c, w, same⟩ := List.exists_cons_of_ne_nil part.ne_nil
            rw [same] at split ⊢
            exact (List.cons.inj split).1 ▸ List.mem_cons_self
          rcases part.of_delimiter_mem member with ⟨other, -⟩ | ⟨-, rfl | ⟨rfl, single⟩⟩
          · exact absurd active other
          · have second := (List.cons.inj split).2
            cases k with
            | zero =>
                obtain rfl : back = d.char :: ps.flatMap Part.chars := second.symm
                exact absurd rfl stop
            | succ k =>
                obtain ⟨run, behind, rfl, kinds, text⟩ := ih (List.cons.inj second).2
                refine ⟨_ :: run, behind, rfl, ?_, text⟩
                rw [List.map_cons, kinds, runKinds_add_two]
          · have tail := (List.cons.inj split).2
            cases k with
            | zero => exact ⟨[⟨.quote d, [d.char]⟩], ps, rfl, rfl, tail⟩
            | succ k =>
                refine absurd ?_ single
                rw [later.split, show ps.flatMap Part.chars = _ from tail]
                rfl

theorem runs (active : m.delimiter? = some d) (h : Parts m r ps rest)
    (split : ps.flatMap Part.chars = front ++ (List.replicate k d.char ++ back)) (pos : 0 < k)
    (start : front.getLast? ≠ some d.char) (stop : back.head? ≠ some d.char) :
    ∃ before run behind, ps = before ++ (run ++ behind) ∧ before.flatMap Part.chars = front ∧
      run.map Part.kind = runKinds d k ∧ behind.flatMap Part.chars = back := by
  induction h generalizing front with
  | nil =>
      have none := (List.append_eq_nil_iff.mp split.symm).2
      obtain rfl : k = 0 := by simpa using (List.append_eq_nil_iff.mp none).1
      contradiction
  | @cons p r ps rest part later ih =>
      by_cases first : front = []
      · subst first
        obtain ⟨run, behind, same, kinds, text⟩ :=
          run_at_start active (.cons part later) split stop
        exact ⟨[], run, behind, same, rfl, kinds, text⟩
      · obtain ⟨j, rfl⟩ := Nat.exists_eq_add_one.mpr pos
        rw [List.flatMap_cons, List.replicate_succ, List.cons_append] at split
        obtain ⟨a, rfl, tail⟩ := part.before_run active split first start
        have last : a.getLast? ≠ some d.char := by
          intro same
          exact start (List.mem_getLast?_append_of_mem_getLast? same)
        obtain ⟨before, run, behind, rfl, text, rest⟩ := ih tail last
        refine ⟨p :: before, run, behind, rfl, ?_, rest⟩
        rw [List.flatMap_cons, text]

end Parts

namespace Scanner

/-- How the tokens of an attribute value with delimiter `d` divide its text. A run of delimiters is
read as pairs and a single one behind them if it is odd. The other quote is text. -/
structure DividesValue (d : Delimiter) (tokens : List Token) : Prop where
  kinds : ∀ t ∈ tokens, t.kind ∈
    [.attributeText, .escape d, .quote d, .entityRef, .charRef, .symbol .rightBrace]
  apart : (tokens.map Token.kind).IsChain fun a b => ¬ (a = .attributeText ∧ b = .attributeText)
  delimiters : ∀ t ∈ tokens, d.char ∈ t.text.toList ↔ t.kind = .escape d ∨ t.kind = .quote d
  others : ∀ e, e ≠ d → ∀ t ∈ tokens, e.char ∈ t.text.toList → t.kind = .attributeText
  runs : ∀ front k back,
    tokens.flatMap (fun t => t.text.toList) = front ++ (List.replicate k d.char ++ back) →
    0 < k → front.getLast? ≠ some d.char → back.head? ≠ some d.char →
    ∃ before run behind, tokens = before ++ (run ++ behind) ∧
      before.flatMap (fun t => t.text.toList) = front ∧ run.map Token.kind = runKinds d k ∧
      behind.flatMap (fun t => t.text.toList) = back

theorem dividesValue {m : Mode} {d : Delimiter} (active : m.delimiter? = some d)
    (text : m.textKind = .attributeText) {tokens : List Token} {r rest : List Char}
    (parts : Parts m r (tokens.map Token.part) rest) : DividesValue d tokens := by
  have each : ∀ t ∈ tokens, ∃ u, ContentPart m t.part u := by
    intro t member
    exact parts.forall_mem (Q := fun p => ∃ u, ContentPart m p u) (fun p u part => ⟨u, part⟩)
      t.part (List.mem_map_of_mem member)
  constructor
  · intro t member
    obtain ⟨u, part⟩ := each t member
    exact text ▸ part.kind_mem active
  · have apart := parts.apart
    rwa [text, List.map_map] at apart
  · intro t member
    obtain ⟨u, part⟩ := each t member
    exact part.delimiter_mem_iff active
  · intro e other t member inside
    obtain ⟨u, part⟩ := each t member
    rcases part.of_delimiter_mem inside with ⟨-, kind⟩ | ⟨same, -⟩
    · exact kind.trans text
    · exact absurd (Option.some.inj (same.symm.trans active)) other
  · intro front k back split pos start stop
    rw [← flatMap_chars] at split
    obtain ⟨first, second, third, same, before, run, behind⟩ :=
      parts.runs active split pos start stop
    obtain ⟨ts, us, rfl, rfl, both⟩ := List.map_eq_append_iff.mp same
    obtain ⟨vs, ws, rfl, rfl, rfl⟩ := List.map_eq_append_iff.mp both
    rw [flatMap_chars] at before behind
    rw [List.map_map] at run
    exact ⟨ts, vs, ws, rfl, before, run, behind⟩

/-- In an attribute value where quotes open no strings, a source without opening braces and tags is
divided like this, whatever the mode says about blanks. -/
theorem tokenize_attribute {source : String} {m : Mode} {d : Delimiter}
    (context : m.context = .attribute d) (off : m.strings = false) (outside : m.pragma = false)
    (brace : '{' ∉ source.toList) (angle : '<' ∉ source.toList) :
    ∃ tokens, ReadsContent source m tokens ∧ DividesValue d tokens := by
  have divides := Mode.divides_attribute context outside off
  have text := Mode.textKind_of_attribute context
  obtain ⟨tokens, rest, reads, parts⟩ := exists_readsContent divides brace angle
  exact ⟨tokens, reads, dividesValue (Mode.delimiter?_eq_some_iff.mpr context) text parts⟩

/-- Three delimiters are a pair and a single one, also between quotes of the other kind. -/
theorem tokenize_attribute_three :
    ∃ tokens before run behind,
      (ofText "a\"'''\"'" { context := .attribute .apos, strings := false }).tokenize =
        .ok tokens ∧
      tokens = before ++ (run ++ behind) ∧
      before.flatMap (fun t => t.text.toList) = "a\"".toList ∧
      run.map Token.kind = [.escape .apos, .quote .apos] ∧
      behind.flatMap (fun t => t.text.toList) = "\"'".toList := by
  have value : StringValue "a\"'''\"'".toList :=
    StringValue.nil.plain_append (w := "a\"'''\"'".toList) (by simp)
  obtain ⟨tokens, reads, divides⟩ := @tokenize_attribute "a\"'''\"'"
    { context := .attribute .apos, strings := false } .apos rfl rfl rfl (by simp) (by simp)
  obtain ⟨given, covers⟩ := reads.whole value.referenced
  obtain ⟨before, run, behind, same, first, kinds, last⟩ :=
    divides.runs "a\"".toList 3 "\"'".toList covers.text (by decide) (by decide) (by decide)
  exact ⟨tokens, before, run, behind, given, same, first, kinds, last⟩

end Scanner

end QueryScan
