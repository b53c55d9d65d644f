import QueryScan.Proofs.Respacing
import QueryScan.Token.Segment

/-! Strings and what they stand for. A value becomes a literal by doubling the delimiters in it, and
the content of a literal is that value again. Scanning and taking the content are two passes over
the text; they meet at the values in which every ampersand belongs to a reference. -/
namespace QueryScan

open Grammar
open Scan

/-! ### Values of strings -/

/-- The characters, each delimiter `d` among them twice. -/
def doubled (d : Char) (cs : List Char) : List Char :=
  cs.flatMap fun c => if c = d then [d, d] else [c]

/-- The literal between two delimiters that has `v` as its content. -/
def literal (d : Delimiter) (v : List Char) : List Char :=
  d.char :: (doubled d.char v ++ [d.char])

/-- Every ampersand begins a reference. -/
def Referenced (v : List Char) : Prop :=
  ∀ u w, v = u ++ '&' :: w → ∃ p, (EntityRef p ∨ CharRef p) ∧ p <+: '&' :: w

/-- The values, in the pieces that both passes take. -/
inductive Grammar.StringValue : List Char → Prop
  | nil : StringValue []
  | plain {c w} : c ≠ '&' → StringValue w → StringValue (c :: w)
  | reference {p w} : EntityRef p ∨ CharRef p → StringValue w → StringValue (p ++ w)

theorem Grammar.Run.not_mem {p : Char → Bool} {w cs : List Char} (h : Run p w)
    (none : cs.any p = false) : ∀ c ∈ w, c ∉ cs := by
  intro c member among
  exact List.any_eq_false.mp none c among (h.2 c member)

/-- No mark of a string stands inside a reference. -/
theorem reference_form {p : List Char} (h : EntityRef p ∨ CharRef p) :
    ∃ t, p = '&' :: (t ++ [';']) ∧ ∀ c ∈ t, c ∉ ['&', ';', '"', '\''] := by
  rcases h with ⟨name, member, rfl⟩ | ⟨digits, all, rfl⟩ | ⟨digits, all, rfl⟩
  · refine ⟨name, rfl, ?_⟩
    rcases member with rfl | rfl | rfl | rfl | rfl <;> simp
  · refine ⟨'#' :: digits, rfl, ?_⟩
    exact List.forall_mem_cons.mpr ⟨by decide, all.not_mem (by decide)⟩
  · refine ⟨'#' :: 'x' :: digits, rfl, ?_⟩
    exact List.forall_mem_cons.mpr
      ⟨by decide, List.forall_mem_cons.mpr ⟨by decide, all.not_mem (by decide)⟩⟩

theorem delimiter_not_mem_reference (d : Delimiter) {p : List Char} (h : EntityRef p ∨ CharRef p) :
    d.char ∉ p := by
  obtain ⟨t, rfl, plain⟩ := reference_form h
  intro member
  rcases List.mem_cons.mp member with same | member
  · exact delimiter_ne_amp d same
  · rcases List.mem_append.mp member with inside | last
    · refine plain d.char inside ?_
      cases d <;> decide
    · cases d <;> simp [Delimiter.char] at last

theorem Grammar.StringValue.referenced {v : List Char} (h : StringValue v) : Referenced v := by
  induction h with
  | nil =>
      intro u w split
      simp at split
  | @plain c v ne _ ih =>
      intro u w split
      cases u with
      | nil => exact absurd (List.cons.inj split).1 ne
      | cons x u => exact ih u w (List.cons.inj split).2
  | @reference p v valid _ ih =>
      intro u w split
      obtain ⟨t, rfl, solid⟩ := reference_form valid
      cases u with
      | nil => exact ⟨_, valid, v, split⟩
      | cons x u =>
          have tail : t ++ [';'] ++ v = u ++ '&' :: w := (List.cons.inj split).2
          rcases List.append_eq_append_iff.mp tail with ⟨a, rfl, later⟩ | ⟨a, inside, later⟩
          · exact ih a w later
          · cases a with
            | nil => exact ih [] w later.symm
            | cons y a =>
                -- The ampersand would be a second one in the reference.
                obtain ⟨rfl, -⟩ := List.cons.inj later
                have member : '&' ∈ t ++ [';'] := by simp [inside]
                rcases List.mem_append.mp member with inT | last
                · exact absurd List.mem_cons_self (solid '&' inT)
                · simp at last

theorem Referenced.of_append {u v : List Char} (h : Referenced (u ++ v)) : Referenced v := by
  intro a w split
  exact h (u ++ a) w (by rw [split, List.append_assoc])

theorem Referenced.value {v : List Char} (h : Referenced v) : StringValue v := by
  -- A reference is taken whole, so the induction is on the length.
  induction size : v.length using Nat.strong_induction_on generalizing v with
  | _ n ih =>
      subst size
      cases v with
      | nil => exact .nil
      | cons c v =>
          by_cases amp : c = '&'
          · subst amp
            obtain ⟨p, valid, w, split⟩ := h [] v rfl
            obtain ⟨t, rfl⟩ := reference_cons valid
            rw [← split] at h ih ⊢
            refine .reference valid (ih w.length ?_ h.of_append rfl)
            simp only [List.length_append, List.length_cons]
            omega
          · exact .plain amp (ih v.length (Nat.lt_succ_self _) (h.of_append (u := [c])) rfl)

/-! ### Doubled delimiters -/

theorem doubled_delimiter (d : Char) (cs : List Char) :
    doubled d (d :: cs) = d :: d :: doubled d cs := by
  rw [doubled, List.flatMap_cons, if_pos rfl]
  rfl

theorem doubled_other {d c : Char} (ne : c ≠ d) (cs : List Char) :
    doubled d (c :: cs) = c :: doubled d cs := by
  rw [doubled, List.flatMap_cons, if_neg ne]
  rfl

theorem doubled_append_of_not_mem {d : Char} {p : List Char} (free : d ∉ p) (cs : List Char) :
    doubled d (p ++ cs) = p ++ doubled d cs := by
  induction p with
  | nil => rfl
  | cons c p ih =>
      obtain ⟨ne, rest⟩ := List.ne_and_not_mem_of_not_mem_cons free
      rw [List.cons_append, doubled_other ne.symm, ih rest, List.cons_append]

theorem doubled_reference (d : Delimiter) {p : List Char} (h : EntityRef p ∨ CharRef p)
    (cs : List Char) : doubled d.char (p ++ cs) = p ++ doubled d.char cs :=
  doubled_append_of_not_mem (delimiter_not_mem_reference d h) cs

/-- What stands between two delimiters is a value with its delimiters doubled. -/
theorem stringBody_iff (d : Delimiter) {body : List Char} :
    StringBody d.char body ↔ ∃ v, StringValue v ∧ body = doubled d.char v := by
  constructor
  · intro h
    induction h with
    | nil => exact ⟨[], .nil, rfl⟩
    | doubled _ ih =>
        obtain ⟨v, valid, rfl⟩ := ih
        exact ⟨d.char :: v, .plain (delimiter_ne_amp d) valid, (doubled_delimiter _ _).symm⟩
    | reference form _ ih =>
        obtain ⟨v, valid, rfl⟩ := ih
        exact ⟨_, .reference form valid, (doubled_reference d form v).symm⟩
    | @plain c w quote amp _ ih =>
        obtain ⟨v, valid, rfl⟩ := ih
        exact ⟨c :: v, .plain amp valid, (doubled_other quote v).symm⟩
  · rintro ⟨v, valid, rfl⟩
    induction valid with
    | nil => exact .nil
    | @plain c v amp _ ih =>
        by_cases quote : c = d.char
        · rw [quote, doubled_delimiter]
          exact .doubled ih
        · rw [doubled_other quote]
          exact .plain quote amp ih
    | reference form _ ih =>
        rw [doubled_reference d form]
        exact .reference form ih

/-! ### The content of a literal -/

namespace Segment

theorem flatMap_value_flush (pending : List Char) :
    (flush pending).flatMap value = pending.reverse := by
  cases pending with
  | nil => rfl
  | cons c cs => simp [flush, value]

/-- The segment of an ampersand, `name` and a semicolon. -/
def ofReference (name : List Char) : Segment :=
  if name.head? = some '#' then .charRef ('&' :: (name ++ [';'])) else .entity name

theorem value_ofReference (name : List Char) :
    (ofReference name).value = '&' :: (name ++ [';']) := by
  unfold ofReference
  split <;> rfl

/-- What is cut out of the text ahead depends on the name only. -/
theorem ofReference_eq (name r : List Char) :
    (if (name ++ ([';'] ++ r)).head? = some '#' then
        Segment.charRef ('&' :: (name ++ ([';'] ++ r)).take (name.length + 1))
      else .entity ((name ++ ([';'] ++ r)).take name.length)) = ofReference name := by
  have marked : (name ++ ([';'] ++ r)).take (name.length + 1) = name ++ [';'] := by
    rw [← List.append_assoc]
    exact List.take_left' (by simp)
  rw [marked, List.take_left, ofReference]
  cases name <;> rfl

theorem drop_reference (name r : List Char) :
    (name ++ ([';'] ++ r)).drop (name.length + 1) = r := by
  rw [← List.append_assoc]
  exact List.drop_left' (by simp)

/-- An ampersand with a semicolon behind it is taken up to the first one, whatever it opens. -/
theorem go_reference {d : Char} (amp : d ≠ '&') (pending : List Char) {name : List Char}
    (solid : ';' ∉ name) (r : List Char) :
    split.go d pending ('&' :: (name ++ [';']) ++ r) =
      flush pending ++ ofReference name :: split.go d [] r := by
  have found : Text.find? [';'] (name ++ ([';'] ++ r)) = some name.length := by
    refine Text.find?_append r (List.cons_ne_nil _ _) (by decide) ?_
    intro inside
    exact solid (inside.subset List.mem_cons_self)
  have other : ¬ ('&' = d ∧ (name ++ ([';'] ++ r)).head? = some d) := fun both => amp both.1.symm
  rw [List.cons_append, List.append_assoc, split.go, if_neg other, if_pos rfl]
  simp only [found, drop_reference, ofReference_eq]

/-- The segments of a value with its delimiters doubled stand for the value. -/
theorem flatMap_value_go (d : Delimiter) {v : List Char} (h : StringValue v)
    (pending : List Char) :
    (split.go d.char pending (doubled d.char v)).flatMap value = pending.reverse ++ v := by
  induction h generalizing pending with
  | nil =>
      rw [doubled, List.flatMap_nil, split.go, flatMap_value_flush, List.append_nil]
  | @plain c v amp _ ih =>
      by_cases quote : c = d.char
      · subst quote
        rw [doubled_delimiter, split.go, if_pos ⟨rfl, rfl⟩]
        simp only [List.drop_one, List.tail_cons, List.flatMap_append, List.flatMap_cons,
          flatMap_value_flush, ih, value]
        rfl
      · have other : ¬ (c = d.char ∧ (doubled d.char v).head? = some d.char) :=
          fun both => quote both.1
        rw [doubled_other quote, split.go, if_neg other, if_neg amp, ih, List.reverse_cons,
          List.append_assoc, List.singleton_append]
  | @reference p v valid _ ih =>
      rw [doubled_reference d valid]
      obtain ⟨t, rfl, solid⟩ := reference_form valid
      have closed : ';' ∉ t := fun member => solid ';' member (by decide)
      rw [go_reference (delimiter_ne_amp d) pending closed, List.flatMap_append, List.flatMap_cons,
        flatMap_value_flush, value_ofReference, ih]
      rfl

end Segment

theorem Token.segments?_of_text {t : Token} (kind : t.kind = .string) {d : Char}
    {inner : List Char} (text : t.text.toList = d :: (inner ++ [d])) :
    t.segments? = some (Segment.split d inner) := by
  rw [segments?, kind, text]
  exact congrArg (Option.map (Segment.split d)) (Text.stripEnd?_append [d] inner)

theorem Token.content?_literal {t : Token} (kind : t.kind = .string) {d : Delimiter} {v : List Char}
    (value : StringValue v) (text : t.text.toList = literal d v) :
    t.content? = some (String.ofList v) := by
  rw [content?, segments?_of_text kind text, Option.map_some, Segment.split,
    Segment.flatMap_value_go d value]
  rfl

namespace Scanner

theorem step_literal (d : Delimiter) {v : List Char} (value : StringValue v) :
    step {} (literal d v) = .token .string (literal d v).length := by
  have body := (stringBody_iff d).mpr ⟨v, value, rfl⟩
  rw [literal, step_quote rfl, if_pos rfl, stringRest_append (delimiter_ne_amp d) body,
    stringRest_close _ (by simp)]
  simp only [List.length_cons, List.length_append, List.length_nil]
  congr 1
  omega

theorem tokenize_whole {text : String} {k : Kind}
    (found : step {} text.toList = .token k text.toList.length) (more : k ≠ .eof)
    (plain : k ≠ .pragmaStart) :
    ∃ t, (Scanner.ofText text).tokenize = .ok [t] ∧ t.kind = k ∧ t.text = text := by
  obtain ⟨t, s', called, rfl, same, -, -, rest⟩ := next_whole found
  obtain ⟨gap, gives⟩ := gives_of_next called
  have going : s'.Ready := gives.ready (ready_ofText text) plain
  have last : s'.Yields [] := going.yields_nil (by rw [rest]; exact .nil)
  have pulled := pull_of_token rfl called (by simpa [Token.isEof] using more)
  exact ⟨t, tokenize_eq_ok_iff.mpr (.more pulled last), rfl, same⟩

/-- For each value a string literal is the one token of its source and has the value as its content.
Each string literal of a session has a content, and is made of it. -/
theorem string_contents :
    (∀ (d : Delimiter) (v : String), Referenced v.toList →
      ∃ t, (Scanner.ofText (String.ofList (literal d v.toList))).tokenize = .ok [t] ∧
        t.kind = .string ∧ t.content? = some v) ∧
    ∀ (source : String) (m : Mode) (actions : List Action),
      ∀ r ∈ (Scanner.ofText source m).readings actions, r.token.kind = .string →
        ∃ (d : Delimiter) (c : String), r.token.content? = some c ∧ Referenced c.toList ∧
          r.token.text.toList = literal d c.toList := by
  constructor
  · intro d v referenced
    have value := referenced.value
    have found := step_literal d value
    rw [← String.toList_ofList (l := literal d v.toList)] at found
    obtain ⟨t, read, kind, text⟩ := tokenize_whole found nofun nofun
    have content := Token.content?_literal kind value (by rw [text, String.toList_ofList])
    rw [String.ofList_toList] at content
    exact ⟨t, read, kind, content⟩
  · intro source m actions
    refine forall_readings ?_ (Scanner.ofText source m) actions
    intro s t s' called kind
    obtain ⟨gap, gives⟩ := gives_of_next called
    have lexeme := gives.lexeme
    rw [kind] at lexeme
    obtain ⟨d, body, valid, text⟩ := lexeme
    obtain ⟨v, value, rfl⟩ := (stringBody_iff d).mp valid
    refine ⟨d, String.ofList v, Token.content?_literal kind value text, ?_, ?_⟩
    · rw [String.toList_ofList]
      exact value.referenced
    · rw [String.toList_ofList]
      exact text

/-- The value `"&lt;"`, quotes included, and the literal with one quote in it. -/
theorem string_contents_quotes :
    Referenced "\"&lt;\"".toList ∧
      (∃ t, (Scanner.ofText "\"\"\"&lt;\"\"\"").tokenize = .ok [t] ∧ t.kind = .string ∧
        t.content? = some "\"&lt;\"") ∧
      ∃ r ∈ (Scanner.ofText "''''").readings [.next], r.token.kind = .string ∧
        ∃ (d : Delimiter) (c : String), r.token.content? = some c ∧ Referenced c.toList ∧
          r.token.text.toList = literal d c.toList := by
  have value : StringValue "\"&lt;\"".toList :=
    .plain (by decide) (.reference (p := "&lt;".toList) (.inl ⟨['l', 't'], .inl rfl, rfl⟩)
      (.plain (by decide) .nil))
  have found := step_literal .apos (.plain (c := '\'') (by decide) .nil)
  have called := next_of_token (s := Scanner.ofText "''''") rfl (settle_of_token found)
  have member : ⟨{}, tokenAt (.ofText "''''") .string 4⟩ ∈
      (Scanner.ofText "''''").readings [.next] := by
    simp only [readings, act, called]
    exact List.mem_cons_self
  obtain ⟨encoded, decoded⟩ := string_contents
  exact ⟨value.referenced, encoded .quot "\"&lt;\"" value.referenced,
    _, member, rfl, decoded _ _ _ _ member rfl⟩

end Scanner

end QueryScan
