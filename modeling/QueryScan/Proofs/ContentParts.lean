import QueryScan.Proofs.StringContent
import QueryScan.Proofs.Faults
import Mathlib.Data.List.Chain

/-! Content is read in parts. Between tags, and in an attribute value where quotes open no strings,
a source without opening braces and tags is divided into references, closing braces, delimiters and
runs of text. A run is as long as it can be, so no two of them meet. Whatever else would be a token
in an expression is text here. -/
namespace QueryScan

open Grammar
open Scan
open Text (run run_split)

namespace Mode

/-- Between tags, or in an attribute value where quotes open no strings, and in no pragma. -/
structure Divides (m : Mode) : Prop where
  content : m.inContent = true
  outside : m.pragma = false
  quotes : m.inElement = false → m.strings = false

/-- The character stays in a run of text. -/
def holds (m : Mode) (c : Char) : Bool :=
  (m.delimiter?.all fun d => c != d.char) && isPlain c

def textKind (m : Mode) : Kind :=
  if m.inElement then .elementText else .attributeText

variable {m : Mode}

theorem divides_element (context : m.context = .element) (outside : m.pragma = false) :
    m.Divides :=
  ⟨by simp [inContent, context], outside, by simp [inElement, context]⟩

theorem divides_attribute {d : Delimiter} (context : m.context = .attribute d)
    (outside : m.pragma = false) (off : m.strings = false) : m.Divides :=
  ⟨by simp [inContent, context], outside, fun _ => off⟩

theorem Divides.cases (h : m.Divides) :
    m.context = .element ∨ ∃ d, m.context = .attribute d ∧ m.strings = false := by
  rcases m.context_cases with expression | element | ⟨d, value⟩
  · have content := h.content
    simp [inContent, expression] at content
  · exact .inl element
  · exact .inr ⟨d, value, h.quotes (by simp [inElement, value])⟩

theorem holds_of_element (context : m.context = .element) : m.holds = isPlain := by
  funext c
  simp [holds, delimiter?, context]

theorem holds_of_attribute {d : Delimiter} (context : m.context = .attribute d) :
    m.holds = fun c => c != d.char && isPlain c := by
  funext c
  simp [holds, delimiter?, context]

theorem textKind_of_element (context : m.context = .element) : m.textKind = .elementText := by
  simp [textKind, inElement, context]

theorem textKind_of_attribute {d : Delimiter} (context : m.context = .attribute d) :
    m.textKind = .attributeText := by
  simp [textKind, inElement, context]

theorem holds_iff {c : Char} :
    m.holds c = true ↔
      (∀ d, m.delimiter? = some d → c ≠ d.char) ∧ c ∉ ['{', '}', '<'] ∧ c ≠ '&' := by
  cases delimiter : m.delimiter? <;> simp [holds, isPlain, delimiter, and_assoc]

end Mode

namespace Scan

variable {m : Mode}

/-! ### Steps in content -/

theorem step_amp (h : m.Divides) (r : List Char) :
    step m ('&' :: r) = reference ('&' :: r) := by
  rcases h.cases with element | ⟨d, value, -⟩
  · rw [step_element r element (by decide), h.outside]
    rfl
  · have other := (delimiter_ne_amp d).symm
    rw [step_attribute r value (by decide), h.outside, if_neg (fun escape => other escape.1)]
    rfl

theorem step_text (h : m.Divides) {c : Char} (r : List Char) (text : m.holds c = true) :
    step m (c :: r) = .token m.textKind (run m.holds (c :: r)) := by
  obtain ⟨other, mark, amp⟩ := Mode.holds_iff.mp text
  rcases h.cases with element | ⟨d, value, off⟩
  · rw [step_element r element mark, if_neg (by simp [h.outside]), if_neg amp,
      Mode.textKind_of_element element, Mode.holds_of_element element]
  · have quote := other d (Mode.delimiter?_eq_some_iff.mpr value)
    rw [step_attribute r value mark, if_neg (fun escape => quote escape.1), if_neg (by simp [off]),
      if_neg (by simp [h.outside]), if_neg amp, if_neg quote, Mode.textKind_of_attribute value,
      Mode.holds_of_attribute value]

theorem step_delimiter (h : m.Divides) {d : Delimiter} (active : m.delimiter? = some d)
    (r : List Char) :
    step m (d.char :: r) =
      if r.head? = some d.char then .token (.escape d) 2 else .token (.quote d) 1 := by
  have value := Mode.delimiter?_eq_some_iff.mp active
  have mark : d.char ∉ ['{', '}', '<'] := by cases d <;> decide
  have off : m.strings = false := h.quotes (by simp [Mode.inElement, value])
  rw [step_attribute r value mark]
  split
  · next escape => rw [if_pos escape.2]
  · next escape =>
      rw [if_neg (by simp [off]), if_neg (by simp [h.outside]), if_neg (delimiter_ne_amp d),
        if_pos rfl, if_neg (fun again => escape ⟨rfl, again⟩)]

end Scan

theorem Grammar.StringValue.plain_append {w v : List Char} (value : StringValue v)
    (plain : ∀ c ∈ w, c ≠ '&') : StringValue (w ++ v) := by
  induction w with
  | nil => exact value
  | cons c w ih =>
      obtain ⟨ne, others⟩ := List.forall_mem_cons.mp plain
      exact .plain ne (ih others)

/-! ### One part -/

/-- A token without its place. -/
structure Part where
  kind : Kind
  chars : List Char

def Token.part (t : Token) : Part :=
  ⟨t.kind, t.text.toList⟩

theorem flatMap_chars (tokens : List Token) :
    (tokens.map Token.part).flatMap Part.chars = tokens.flatMap fun t => t.text.toList :=
  List.flatMap_map _ _ _

/-- A part of content in front of the rest. -/
inductive ContentPart (m : Mode) : Part → List Char → Prop
  | brace {r} : ContentPart m ⟨.symbol .rightBrace, ['}']⟩ r
  | reference {k w r} : Reference k w → ContentPart m ⟨k, w⟩ r
  | text {w r} : Run m.holds w → (∀ c ∈ r.head?, m.holds c = false) →
      ContentPart m ⟨m.textKind, w⟩ r
  | escape {d r} : m.delimiter? = some d → ContentPart m ⟨.escape d, [d.char, d.char]⟩ r
  | quote {d r} : m.delimiter? = some d → r.head? ≠ some d.char →
      ContentPart m ⟨.quote d, [d.char]⟩ r

namespace ContentPart

variable {m : Mode} {p : Part} {r : List Char}

theorem ne_nil (h : ContentPart m p r) : p.chars ≠ [] := by
  cases h with
  | reference valid =>
      obtain ⟨t, rfl⟩ := reference_cons valid.form
      exact List.cons_ne_nil _ _
  | text held => exact held.1
  | brace | escape | quote => exact List.cons_ne_nil _ _

/-- A part is read whatever the mode says about blanks. -/
theorem step (h : ContentPart m p r) (divides : m.Divides) :
    Scan.step m (p.chars ++ r) = .token p.kind p.chars.length := by
  cases h with
  | brace => rfl
  | @reference k w _ valid =>
      have found := reference?_append valid r
      obtain ⟨t, rfl⟩ := reference_cons valid.form
      rw [List.cons_append] at found ⊢
      rw [step_amp divides, Scan.reference, found]
  | @text w _ held stop =>
      obtain ⟨c, w, rfl⟩ := List.exists_cons_of_ne_nil held.1
      have none : run m.holds r = 0 := by
        cases r with
        | nil => rfl
        | cons x r => exact Text.run_cons_of_neg r (stop x rfl)
      rw [List.cons_append, step_text divides _ (held.2 c List.mem_cons_self), ← List.cons_append,
        Text.run_append r held.2, none, Nat.add_zero]
  | escape active => exact (step_delimiter divides active _).trans (if_pos rfl)
  | quote active single => exact (step_delimiter divides active r).trans (if_neg single)

/-- No part changes the mode, and none opens or closes a pragma. -/
theorem keeps (h : ContentPart m p r) (start : Option Place) (here : Place) :
    m.onToken p.kind = m ∧ Scanner.pragmaBehind start here p.kind = start := by
  cases h with
  | reference valid => rcases valid with ⟨rfl, -⟩ | ⟨rfl, -⟩ <;> exact ⟨rfl, rfl⟩
  | text => unfold Mode.textKind; split <;> exact ⟨rfl, rfl⟩
  | brace | escape | quote => exact ⟨rfl, rfl⟩

theorem kind_ne_eof (h : ContentPart m p r) : p.kind ≠ .eof := by
  cases h with
  | reference valid => rcases valid with ⟨rfl, -⟩ | ⟨rfl, -⟩ <;> nofun
  | text => unfold Mode.textKind; split <;> nofun
  | brace | escape | quote => nofun

/-- Only text has its kind. -/
theorem of_textKind (h : ContentPart m p r) (kind : p.kind = m.textKind) :
    Run m.holds p.chars ∧ ∀ c ∈ r.head?, m.holds c = false := by
  unfold Mode.textKind at kind
  cases h with
  | text held stop => exact ⟨held, stop⟩
  | reference valid => rcases valid with ⟨rfl, -⟩ | ⟨rfl, -⟩ <;> split at kind <;> cases kind
  | brace | escape | quote => split at kind <;> cases kind

/-- The ampersands of a part are those of references. -/
theorem value_append (h : ContentPart m p r) {v : List Char} (value : StringValue v) :
    StringValue (p.chars ++ v) := by
  cases h with
  | brace => exact .plain (by decide) value
  | reference valid => exact .reference valid.form value
  | text held =>
      refine value.plain_append ?_
      intro c member
      exact (Mode.holds_iff.mp (held.2 c member)).2.2
  | escape => exact .plain (delimiter_ne_amp _) (.plain (delimiter_ne_amp _) value)
  | quote => exact .plain (delimiter_ne_amp _) value

/-- Where no part can be taken, an ampersand begins no reference. -/
theorem exists_or_missing (m : Mode) {c : Char} (r : List Char) (brace : c ≠ '{')
    (angle : c ≠ '<') :
    (∃ p t, c :: r = p.chars ++ t ∧ ContentPart m p t) ∨ (c = '&' ∧ Unreferenced (c :: r)) := by
  by_cases closing : c = '}'
  · subst closing
    exact .inl ⟨_, r, rfl, .brace⟩
  by_cases amp : c = '&'
  · subst amp
    cases found : reference? ('&' :: r) with
    | none => exact .inr ⟨rfl, reference?_eq_none_iff.mp found⟩
    | some given =>
        obtain ⟨w, t, split, -, valid⟩ := reference?_split found
        exact .inl ⟨⟨_, w⟩, t, split, .reference valid⟩
  refine .inl ?_
  cases held : m.holds c with
  | true =>
      obtain ⟨w, t, split, length, all, stop⟩ := run_split m.holds (c :: r)
      have some : w ≠ [] := by
        rintro rfl
        rw [Text.run_cons_of_pos r held] at length
        contradiction
      exact ⟨⟨_, w⟩, t, split, .text ⟨some, all⟩ stop⟩
  | false =>
      -- A character that is neither text nor one of the marks is the delimiter of the value.
      have delimiter : ∃ d, m.delimiter? = some d ∧ c = d.char := by
        by_contra none
        refine Bool.eq_false_iff.mp held (Mode.holds_iff.mpr ⟨?_, by simp_all, amp⟩)
        intro d active same
        exact none ⟨d, active, same⟩
      obtain ⟨d, active, rfl⟩ := delimiter
      by_cases again : r.head? = some d.char
      · obtain ⟨t, rfl⟩ := List.head?_eq_some_iff.mp again
        exact ⟨_, t, rfl, .escape active⟩
      · exact ⟨_, r, rfl, .quote active again⟩

end ContentPart

/-! ### All parts -/

/-- From left to right, the text is these parts up to a rest. -/
abbrev Parts (m : Mode) : List Char → List Part → List Char → Prop :=
  Text.Cut Part.chars (ContentPart m)

theorem exists_parts (m : Mode) {r : List Char} (brace : '{' ∉ r) (angle : '<' ∉ r) :
    ∃ ps rest, Parts m r ps rest ∧ (rest = [] ∨ ∃ t, rest = '&' :: t ∧ Unreferenced rest) := by
  obtain ⟨ps, rest, parts, stuck⟩ :=
    Text.exists_cut Part.chars (ContentPart m) (fun _ _ part => part.ne_nil) r
  refine ⟨ps, rest, parts, ?_⟩
  cases rest with
  | nil => exact .inl rfl
  | cons c t =>
      have inside : c ∈ r := by simp [parts.split]
      rcases ContentPart.exists_or_missing m t (fun same => brace (same ▸ inside))
        (fun same => angle (same ▸ inside)) with ⟨p, u, split, part⟩ | ⟨rfl, missing⟩
      · exact absurd part (stuck p u split)
      · exact .inr ⟨t, rfl, missing⟩

namespace Parts

variable {m : Mode} {r rest : List Char} {ps : List Part}

theorem value (h : Parts m r ps rest) : StringValue (ps.flatMap Part.chars) := by
  induction h with
  | nil => exact .nil
  | cons part _ ih => exact part.value_append ih

/-- Behind a run of text the next part is none. -/
theorem apart (h : Parts m r ps rest) :
    (ps.map Part.kind).IsChain fun a b => ¬ (a = m.textKind ∧ b = m.textKind) := by
  induction h with
  | nil => exact .nil
  | @cons p r ps rest part later ih =>
      rw [List.map_cons, List.isChain_cons]
      refine ⟨?_, ih⟩
      cases later with
      | nil => exact nofun
      | @cons q t qs _ next _ =>
          intro k head
          cases Option.some.inj head
          rintro ⟨first, second⟩
          obtain ⟨c, w, same⟩ := List.exists_cons_of_ne_nil next.ne_nil
          have held := (next.of_textKind second).1.2 c (by simp [same])
          have stop := (part.of_textKind first).2 c (by simp [same])
          rw [held] at stop
          contradiction

end Parts

/-! ### Tokens of parts -/

namespace Scanner

/-- Only the cursor moves on. -/
def forward (s : Scanner) (n : Nat) : Scanner :=
  { s with cursor := s.cursor.forward n }

theorem next_of_part {s : Scanner} {p : Part} {r : List Char} (part : ContentPart s.mode p r)
    (divides : s.mode.Divides) (sound : s.failure = none) (ahead : s.cursor.rest = p.chars ++ r) :
    s.next = (.ok (tokenAt s.cursor p.kind p.chars.length), s.forward p.chars.length) := by
  have found : Scan.step s.mode s.cursor.rest = .token p.kind p.chars.length := by
    rw [ahead]
    exact part.step divides
  obtain ⟨mode, start⟩ := part.keeps s.pragmaStart s.cursor.place
  rw [next_of_token sound (settle_of_token found), mode, start]
  rfl

/-- The parts ahead are the next tokens, one behind another and nothing between them. -/
structure Delivers (s : Scanner) (ps : List Part) (tokens : List Token) : Prop where
  pulls : s.Pulls tokens (s.forward (ps.flatMap Part.chars).length)
  parts : tokens.map Token.part = ps
  excerpts : Excerpts s.cursor (tokens.map fun t => ⟨⟨s.mode, t⟩, []⟩)
    (s.cursor.forward (ps.flatMap Part.chars).length)

theorem Delivers.cons {s : Scanner} {p : Part} {r : List Char} {ps : List Part}
    {tokens : List Token} (part : ContentPart s.mode p r) (divides : s.mode.Divides)
    (sound : s.failure = none) (fresh : s.exhausted = false)
    (ahead : s.cursor.rest = p.chars ++ r)
    (later : (s.forward p.chars.length).Delivers ps tokens) :
    s.Delivers (p :: ps) (tokenAt s.cursor p.kind p.chars.length :: tokens) := by
  have called := next_of_part part divides sound ahead
  have same : (tokenAt s.cursor p.kind p.chars.length).part = p := by
    simp [Token.part, tokenAt, ahead]
  have more : (tokenAt s.cursor p.kind p.chars.length).isEof = false := by
    simpa [Token.isEof, tokenAt] using part.kind_ne_eof
  have behind : (s.cursor.forward p.chars.length).forward (ps.flatMap Part.chars).length =
      s.cursor.forward ((p :: ps).flatMap Part.chars).length := by
    rw [Cursor.forward_forward, List.flatMap_cons, List.length_append]
  refine ⟨?_, ?_, ?_⟩
  · rw [forward, ← behind]
    exact .cons (pull_of_token fresh called more) later.pulls
  · rw [List.map_cons, same, later.parts]
  · obtain ⟨gap, gives⟩ := gives_of_next called
    obtain rfl : gap = [] := gives.passable.content divides.content
    have moved : Excerpt.behind ⟨⟨s.mode, tokenAt s.cursor p.kind p.chars.length⟩, []⟩ s.cursor =
        s.cursor.forward p.chars.length :=
      congrArg (fun q : Part => s.cursor.forward q.chars.length) same
    refine .cons gives.at ?_
    rw [moved, ← behind]
    exact later.excerpts

theorem exists_delivers {m : Mode} (divides : m.Divides) {r rest : List Char} {ps : List Part}
    (h : Parts m r ps rest) {s : Scanner} (mode : s.mode = m) (sound : s.failure = none)
    (fresh : s.exhausted = false) (ahead : s.cursor.rest = r) :
    ∃ tokens, s.Delivers ps tokens := by
  induction h generalizing s with
  | nil => exact ⟨[], .nil, rfl, .nil⟩
  | @cons p r ps rest part _ ih =>
      have moved : (s.forward p.chars.length).cursor.rest = r := by
        rw [forward, Cursor.forward_rest, ahead, List.drop_left]
      obtain ⟨tokens, later⟩ := @ih (s.forward p.chars.length) mode sound fresh moved
      subst mode
      exact ⟨_, later.cons part divides sound fresh ahead⟩

/-! ### Whole sources -/

/-- Read from mode `m` on, the source gives these tokens. One behind another and without a gap they
are `covered`, and the mode behind them is `m` again. -/
structure Covers (source : String) (m : Mode) (tokens : List Token) (covered : List Char) :
    Prop where
  given : (ofText source m).collect.1.toList = tokens
  mode : (ofText source m).collect.2.2.mode = m
  text : tokens.flatMap (fun t => t.text.toList) = covered
  gaps : gapsFrom source.toList 0 tokens = tokens.map fun _ => some []

/-- The tokens are all of the source where every ampersand begins a reference, and else all up to
the first one that begins none; it is the start of the error. -/
structure ReadsContent (source : String) (m : Mode) (tokens : List Token) : Prop where
  whole : Referenced source.toList →
    (ofText source m).tokenize = .ok tokens ∧ Covers source m tokens source.toList
  broken : ¬ Referenced source.toList → ∃ u w stop,
    source.toList = u ++ '&' :: w ∧ Referenced u ∧ Unreferenced ('&' :: w) ∧
      (ofText source m).tokenize =
        .error (.malformedReference ((({} : Place).after u).upTo stop)) ∧
      Covers source m tokens u

namespace Delivers

variable {source : String} {m : Mode} {ps : List Part} {tokens : List Token}
  (h : (ofText source m).Delivers ps tokens)

include h

theorem covers {e : Option LexError} {last : Scanner}
    (collected : (ofText source m).collect = (tokens.toArray, e, last)) (mode : last.mode = m) :
    Covers source m tokens (ps.flatMap Part.chars) := by
  have gaps := h.excerpts.gaps_eq (Cursor.In.ofText source)
  simp only [List.map_map, Function.comp_def, List.map_id_fun', id_eq] at gaps
  refine ⟨by rw [collected], by rw [collected, mode], ?_, gaps⟩
  rw [← h.parts, flatMap_chars]

theorem collect : (ofText source m).collect =
    ((ofText source m).forward (ps.flatMap Part.chars).length).collect tokens.toArray := by
  have all := h.pulls.collect #[]
  rwa [Array.empty_append] at all

theorem whole (divides : m.Divides) (parts : Parts m source.toList ps []) :
    (ofText source m).tokenize = .ok tokens ∧ Covers source m tokens source.toList := by
  have split := parts.split
  rw [List.append_nil] at split
  have found : Scan.step m ((Cursor.ofText source).forward source.toList.length).rest =
      .token .eof 0 := by
    rw [Cursor.forward_rest, Cursor.ofText, List.drop_length]
    simp [Scan.step, Scan.endStep, divides.outside]
  rw [split] at found
  obtain ⟨last, ended, mode⟩ := collect_at_end (s := (ofText source m).forward _) rfl rfl
    found tokens.toArray
  have collected := h.collect.trans ended
  have covers := h.covers collected mode
  rw [← split] at covers
  exact ⟨by simp [tokenize, collected], covers⟩

theorem broken (divides : m.Divides) {w : List Char} (parts : Parts m source.toList ps ('&' :: w))
    (missing : Unreferenced ('&' :: w)) :
    (∃ stop, (ofText source m).tokenize = .error (.malformedReference
      ((({} : Place).after (ps.flatMap Part.chars)).upTo stop))) ∧
      Covers source m tokens (ps.flatMap Part.chars) := by
  have split := parts.split
  have found : Scan.step m
      ((Cursor.ofText source).forward (ps.flatMap Part.chars).length).rest =
      .fault (.malformedReference 0 (referenceLook w)) := by
    rw [Cursor.forward_rest, Cursor.ofText, split, List.drop_left, step_amp divides,
      Scan.reference, reference?_eq_none_iff.mpr missing]
    rfl
  obtain ⟨last, failed, mode⟩ := collect_at_fault (s := (ofText source m).forward _) rfl rfl
    found tokens.toArray
  have collected := h.collect.trans failed
  refine ⟨?_, h.covers collected mode⟩
  have place : ((Cursor.ofText source).forward (ps.flatMap Part.chars).length).place =
      ({} : Place).after (ps.flatMap Part.chars) := by
    rw [Cursor.forward_place, Cursor.ofText, split, List.take_left]
  rw [← place]
  exact ⟨_, by simp only [tokenize, collected]; rfl⟩

end Delivers

/-- In content a source without opening braces and tags is read in the parts that its text has. -/
theorem exists_readsContent {source : String} {m : Mode} (divides : m.Divides)
    (brace : '{' ∉ source.toList) (angle : '<' ∉ source.toList) :
    ∃ tokens rest, ReadsContent source m tokens ∧
      Parts m source.toList (tokens.map Token.part) rest := by
  obtain ⟨ps, rest, parts, stuck⟩ := exists_parts m brace angle
  obtain ⟨tokens, delivers⟩ :=
    exists_delivers divides parts (s := ofText source m) rfl rfl rfl rfl
  obtain rfl := delivers.parts
  have value := parts.value.referenced
  have split := parts.split
  rcases stuck with rfl | ⟨w, rfl, missing⟩
  · refine ⟨tokens, [], ⟨fun _ => delivers.whole divides parts, ?_⟩, parts⟩
    intro other
    rw [split, List.append_nil] at other
    exact absurd value other
  · refine ⟨tokens, '&' :: w, ⟨?_, ?_⟩, parts⟩
    · intro referenced
      obtain ⟨p, form, start⟩ := referenced _ w split
      exact absurd start (missing p form)
    · intro _
      obtain ⟨⟨stop, error⟩, covers⟩ := delivers.broken divides parts missing
      exact ⟨_, w, stop, split, value, missing, error, covers⟩

/-! ### Between tags -/

/-- Between tags a source without opening braces and tags is text, references and closing braces,
and no two texts stand side by side. Comments, strings, blanks and pragmas are text, whatever the
mode says about blanks and strings. -/
theorem tokenize_element {source : String} {m : Mode} (context : m.context = .element)
    (outside : m.pragma = false) (brace : '{' ∉ source.toList) (angle : '<' ∉ source.toList) :
    ∃ tokens, ReadsContent source m tokens ∧
      (∀ t ∈ tokens, t.kind ∈ [.elementText, .entityRef, .charRef, .symbol .rightBrace]) ∧
      (tokens.map Token.kind).IsChain fun a b => ¬ (a = .elementText ∧ b = .elementText) := by
  have divides := Mode.divides_element context outside
  have kind := Mode.textKind_of_element context
  have value : m.delimiter? = none := by simp [Mode.delimiter?, context]
  obtain ⟨tokens, rest, reads, parts⟩ := exists_readsContent divides brace angle
  refine ⟨tokens, reads, ?_, ?_⟩
  · intro t member
    refine parts.forall_mem (Q := fun p =>
      p.kind ∈ [.elementText, .entityRef, .charRef, .symbol .rightBrace]) ?_ t.part
      (List.mem_map_of_mem member)
    intro p r part
    cases part with
    | reference valid => rcases valid with ⟨rfl, -⟩ | ⟨rfl, -⟩ <;> simp
    | text => simp [kind]
    | brace => simp
    | escape active | quote active => rw [value] at active; cases active
  · have apart := parts.apart
    rwa [kind, List.map_map] at apart

/-- What would open a comment, a string or a pragma elsewhere is text. -/
theorem tokenize_element_marks :
    ∃ tokens, (ofText "(: \"1&lt;:)\x7d(# " { context := .element }).tokenize = .ok tokens ∧
      Covers "(: \"1&lt;:)\x7d(# " { context := .element } tokens "(: \"1&lt;:)\x7d(# ".toList ∧
      ∀ t ∈ tokens, t.kind ∈ [.elementText, .entityRef, .charRef, .symbol .rightBrace] := by
  have behind : StringValue ":)\x7d(# ".toList :=
    StringValue.nil.plain_append (w := ":)\x7d(# ".toList) (by simp)
  have reference : StringValue "&lt;:)\x7d(# ".toList :=
    .reference (p := "&lt;".toList) (.inl ⟨['l', 't'], .inl rfl, rfl⟩) behind
  have value : StringValue "(: \"1&lt;:)\x7d(# ".toList :=
    reference.plain_append (w := "(: \"1".toList) (by simp)
  obtain ⟨tokens, reads, kinds, -⟩ := @tokenize_element "(: \"1&lt;:)\x7d(# "
    { context := .element } rfl rfl (by simp) (by simp)
  obtain ⟨given, covers⟩ := reads.whole value.referenced
  exact ⟨tokens, given, covers, kinds⟩

end Scanner

end QueryScan
