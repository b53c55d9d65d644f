import QueryScan.Proofs.Boundaries
import QueryScan.Proofs.Lossless
import QueryScan.Proofs.Spans

/-! Tokens away from where they were read. A token by itself is read as the same token in the mode
it was asked for in, and tokens set apart by other gaps are read as the same tokens again. A pragma
is left out of the second: the blanks behind its start belong to the token. -/
namespace QueryScan

open Grammar
open Scan

namespace Scanner

/-! ### One token by itself -/

theorem Gives.step_alone {s s' : Scanner} {gap : List Char} {t : Token} (h : s.Gives gap t s') :
    step s.mode t.text.toList = .token t.kind t.text.toList.length := by
  obtain ⟨r, ahead⟩ := h.text
  have read := h.read
  rw [← ahead] at read
  exact step_token_alone read

/-- A text that is one token is read as that token, from its first byte to its last. -/
theorem next_whole {text : String} {m : Mode} {k : Kind}
    (h : step m text.toList = .token k text.toList.length) :
    ∃ t s', (Scanner.ofText text m).next = (.ok t, s') ∧ t.kind = k ∧ t.text = text ∧
      t.span.start = 0 ∧ t.span.stop = text.utf8ByteSize ∧ s'.cursor.rest = [] := by
  have rest : ((Cursor.ofText text).forward text.toList.length).rest = [] := by
    rw [Cursor.forward_rest]
    exact List.drop_length
  have stop : ((Cursor.ofText text).forward text.toList.length).place.offset =
      text.utf8ByteSize := by
    have offset := ((Cursor.In.ofText text).forward text.toList.length).offset_end
    rwa [rest, Text.byteLength_nil, Nat.add_zero] at offset
  have called := next_of_token (s := Scanner.ofText text m) rfl (settle_of_token h)
  refine ⟨_, _, called, rfl, ?_, rfl, stop, rest⟩
  change String.ofList (text.toList.take text.toList.length) = text
  rw [List.take_length, String.ofList_toList]

/-- Every token of a session is the first token of its own text, read in the mode it was asked for
in, and takes all of that text. -/
theorem session_relexes (source : String) (m : Mode) (actions : List Action) :
    ∀ r ∈ (Scanner.ofText source m).readings actions,
      ∃ t s', (Scanner.ofText r.token.text r.mode).next = (.ok t, s') ∧
        t.kind = r.token.kind ∧ t.text = r.token.text ∧
        t.span.start = 0 ∧ t.span.stop = r.token.text.utf8ByteSize ∧ s'.cursor.rest = [] := by
  refine forall_readings ?_ (Scanner.ofText source m) actions
  intro s t s' called
  obtain ⟨gap, gives⟩ := gives_of_next called
  exact next_whole gives.step_alone

theorem session_relexes_escape :
    ∃ r ∈ (Scanner.ofText "\"\"\"").readings [.change (.enterAttribute .quot), .next],
      r.token.kind = .escape .quot ∧
      ∃ t s', (Scanner.ofText r.token.text r.mode).next = (.ok t, s') ∧
        t.kind = .escape .quot ∧ t.text = r.token.text ∧
        t.span.start = 0 ∧ t.span.stop = r.token.text.utf8ByteSize ∧ s'.cursor.rest = [] := by
  have called := next_of_token
    (s := (Scanner.ofText "\"\"\"").change (.enterAttribute .quot)) rfl (settle_of_token rfl)
  have member : ⟨{ context := .attribute .quot }, tokenAt (.ofText "\"\"\"") (.escape .quot) 2⟩ ∈
      (Scanner.ofText "\"\"\"").readings [.change (.enterAttribute .quot), .next] := by
    simp only [readings, act, called]
    exact List.mem_cons_self
  exact ⟨_, member, rfl, session_relexes _ _ _ _ member⟩

/-! ### Tokens with other gaps -/

/-- The text that starts with the gap `lead` and has each token followed by its gap. -/
def respaced (lead : List Char) (parts : List (Token × List Char)) : List Char :=
  lead ++ parts.flatMap fun part => part.1.text.toList ++ part.2

end Scanner

theorem Mode.onToken_plain {k : Kind} (plain : k ≠ .pragmaStart) :
    ({} : Mode).onToken k = {} := by
  unfold onToken
  split
  · rfl
  · rfl
  · rfl
  · contradiction
  · rfl
  · rfl

theorem Mode.runsOn_of_permits {k : Kind} (permitted : ({} : Mode).permits k = true)
    (plain : k ≠ .pragmaStart) : k.runsOn = false := by
  unfold Kind.runsOn
  split
  · cases permitted
  · contradiction
  · cases permitted
  · cases permitted
  · rfl

theorem Grammar.Gap.fence {gap : List Char} (h : Gap true gap) : Fence gap := by
  cases h with
  | nil =>
      intro c head
      cases head
  | @blank c w _ blank _ =>
      intro x head
      cases head
      have four : c = ' ' ∨ c = '\t' ∨ c = '\n' ∨ c = '\r' := by
        simpa [Unicode.isBlank, or_assoc] using blank
      rcases four with rfl | rfl | rfl | rfl <;> decide
  | comment comment _ =>
      obtain ⟨body, -, rfl⟩ := comment
      intro x head
      cases head
      decide

theorem Scan.Fence.append {gap r : List Char} (h : Fence gap) (ne : gap = [] → r = []) :
    Fence (gap ++ r) := by
  cases gap with
  | nil =>
      rw [ne rfl]
      exact h
  | cons c gap => exact h

namespace Scanner

theorem Gives.ready {s s' : Scanner} {gap : List Char} {t : Token} (h : s.Gives gap t s')
    (ready : s.Ready) (plain : t.kind ≠ .pragmaStart) : s'.Ready := by
  rw [h.after]
  refine ⟨?_, ready.sound, ready.fresh⟩
  change s.mode.onToken t.kind = {}
  rw [ready.mode, Mode.onToken_plain plain]

/-- One token with another gap before it and another text behind it. -/
theorem Ready.respaced_token {s s' u : Scanner} {gap lead f : List Char} {t : Token}
    (ready : s.Ready) (gives : s.Gives gap t s') (more : t.isEof = false)
    (plain : t.kind ≠ .pragmaStart) (other : u.Ready) (form : Gap true lead) (fence : Fence f)
    (ahead : u.cursor.rest = lead ++ (t.text.toList ++ f)) :
    ∃ t' u', u.pull = (some (.ok t'), u') ∧ t'.kind = t.kind ∧ t'.text = t.text ∧ u'.Ready ∧
      u'.cursor.rest = f := by
  have permitted := gives.permitted
  have read := gives.read
  obtain ⟨r, behind⟩ := gives.text
  rw [ready.mode] at permitted read
  rw [← behind] at read
  have follows : Follows t.kind f := by
    refine ⟨fence, ?_⟩
    intro long
    rw [Mode.runsOn_of_permits permitted plain] at long
    contradiction
  have again := step_token_append (gives.text_ne_nil more) read follows
  have called := other.next form ahead again
  obtain ⟨_, given⟩ := gives_of_next called
  refine ⟨_, _, pull_of_token other.fresh called more, rfl, ?_, given.ready other plain, ?_⟩
  · change String.ofList ((u.cursor.forward lead.length).rest.take _) = t.text
    rw [Cursor.forward_rest, ahead, List.drop_left, List.take_left, String.ofList_toList]
  · change ((u.cursor.forward lead.length).forward _).rest = f
    rw [Cursor.forward_rest, Cursor.forward_rest, ahead, List.drop_left, List.drop_left]

/-- All gaps are gaps, those between two tokens are not empty, and no token opens a pragma. -/
structure Spaced (lead : List Char) (parts : List (Token × List Char)) : Prop where
  plain : ∀ part ∈ parts, part.1.kind ≠ .pragmaStart
  opening : Gap true lead
  form : ∀ part ∈ parts, Gap true part.2
  apart : ∀ part ∈ parts.dropLast, part.2 ≠ []

namespace Spaced

variable {lead : List Char} {part : Token × List Char} {parts : List (Token × List Char)}

theorem tail (h : Spaced lead (part :: parts)) : Spaced part.2 parts := by
  constructor
  · intro p member
    exact h.plain p (List.mem_cons_of_mem part member)
  · exact h.form part List.mem_cons_self
  · intro p member
    exact h.form p (List.mem_cons_of_mem part member)
  · intro p member
    cases parts with
    | nil => cases member
    | cons next parts => exact h.apart p (List.mem_cons_of_mem part member)

theorem fence (h : Spaced lead (part :: parts)) : Fence (respaced part.2 parts) := by
  refine h.tail.opening.fence.append ?_
  intro empty
  cases parts with
  | nil => rfl
  | cons next parts => exact absurd empty (h.apart part List.mem_cons_self)

end Spaced

/-- The tokens that `s` yields are yielded again when `u` has them ahead with other gaps. -/
theorem Yields.respaced {s u : Scanner} {tokens : List Token} (h : s.Yields tokens)
    (ready : s.Ready) (other : u.Ready) {lead : List Char} {parts : List (Token × List Char)}
    (same : tokens = parts.map (·.1)) (spaced : Spaced lead parts)
    (ahead : u.cursor.rest = respaced lead parts) :
    ∃ again, u.Yields again ∧
      again.map (fun t => (t.kind, t.text)) = parts.map fun part => (part.1.kind, part.1.text) := by
  -- The gap behind a token leads what is left, so `lead` changes along the way.
  induction h generalizing u lead parts with
  | done pulled =>
      obtain rfl := List.map_eq_nil_iff.mp same.symm
      refine ⟨[], other.yields_nil ?_, rfl⟩
      rw [ahead, Scanner.respaced, List.flatMap_nil, List.append_nil]
      exact spaced.opening
  | @more s s' t tokens pulled later ih =>
      obtain ⟨part, parts, rfl, rfl, rest⟩ := List.map_eq_cons_iff.mp same.symm
      obtain ⟨called, more⟩ := token_of_pull pulled
      obtain ⟨gap, gives⟩ := gives_of_next called
      have plain := spaced.plain part List.mem_cons_self
      have start : u.cursor.rest =
          lead ++ (part.1.text.toList ++ Scanner.respaced part.2 parts) := by
        rw [ahead, Scanner.respaced, List.flatMap_cons, List.append_assoc]
        rfl
      obtain ⟨t', u', pulled', kind, text, going, behind⟩ :=
        ready.respaced_token gives more plain other spaced.opening spaced.fence start
      obtain ⟨tokens', yields, equal⟩ :=
        ih (gives.ready ready plain) going rest.symm spaced.tail behind
      refine ⟨t' :: tokens', .more pulled' yields, ?_⟩
      rw [List.map_cons, List.map_cons, equal, kind, text]

/-- Tokens without a start of a pragma are read again, with their kinds and texts, when they are
set apart by any gaps. -/
theorem tokenize_respaced (source : String) (lead : List Char) (parts : List (Token × List Char))
    (read : (Scanner.ofText source).tokenize = .ok (parts.map (·.1)))
    (plain : ∀ part ∈ parts, part.1.kind ≠ .pragmaStart) (opening : Gap true lead)
    (form : ∀ part ∈ parts, Gap true part.2) (apart : ∀ part ∈ parts.dropLast, part.2 ≠ []) :
    ∃ tokens, (Scanner.ofText (String.ofList (respaced lead parts))).tokenize = .ok tokens ∧
      tokens.map (fun t => (t.kind, t.text)) =
        parts.map fun part => (part.1.kind, part.1.text) := by
  have yields := tokenize_eq_ok_iff.mp read
  have ahead : (Scanner.ofText (String.ofList (respaced lead parts))).cursor.rest =
      respaced lead parts := String.toList_ofList
  obtain ⟨tokens, again, same⟩ := yields.respaced (ready_ofText source) (ready_ofText _) rfl
    ⟨plain, opening, form, apart⟩ ahead
  exact ⟨tokens, tokenize_eq_ok_iff.mpr again, same⟩

theorem tokenize_respaced_dots :
    ∃ number dot : Token, (Scanner.ofText "1..").tokenize = .ok [number, dot] ∧
      (∀ t ∈ [number, dot], t.kind ≠ .pragmaStart) ∧ Gap true "(: :)".toList ∧
      ∃ tokens, (Scanner.ofText "1.(: :).").tokenize = .ok tokens ∧
        tokens.map (fun t => (t.kind, t.text)) = [(.decimal, "1."), (.symbol .dot, ".")] := by
  obtain ⟨number, dot, read, decimal, symbol, one, point⟩ : ∃ number dot : Token,
      (Scanner.ofText "1..").Yields [number, dot] ∧ number.kind = .decimal ∧
        dot.kind = .symbol .dot ∧ number.text = "1." ∧ dot.text = "." := by
    refine ⟨tokenAt (.ofText "1..") .decimal 2,
      tokenAt ((Cursor.ofText "1..").forward 2) (.symbol .dot) 1, ?_, rfl, rfl, rfl, rfl⟩
    refine .more (pull_of_token rfl (next_of_token rfl (settle_of_token rfl)) rfl) ?_
    refine .more (pull_of_token rfl (next_of_token rfl (settle_of_token rfl)) rfl) ?_
    exact .done (pull_of_eof rfl (next_of_token rfl (settle_of_token rfl)) rfl)
  have gap : Gap true "(: :)".toList :=
    .comment (p := "(: :)".toList) ⟨" :)".toList, .char (by decide) (by decide) .close, rfl⟩ .nil
  have plain : ∀ t ∈ [number, dot], t.kind ≠ .pragmaStart := by simp [decimal, symbol]
  have again := tokenize_respaced "1.." [] [(number, "(: :)".toList), (dot, [])]
    (tokenize_eq_ok_iff.mpr read) (by simpa using plain) .nil (by simpa using ⟨gap, .nil⟩)
    (by simp)
  refine ⟨number, dot, tokenize_eq_ok_iff.mpr read, plain, gap, ?_⟩
  simpa [respaced, decimal, symbol, one, point] using again

end Scanner

end QueryScan
