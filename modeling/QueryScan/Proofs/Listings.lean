import QueryScan.Listing
import QueryScan.Proofs.ReadBack
import QueryScan.Proofs.Words

/-! Listings of tokens are told apart by their tokens. Every field ends by itself or before a mark
that it cannot hold, so the tokens are read back one by one, and the counts behind them are never
taken for a token. -/
namespace QueryScan

open Unicode (isBlank isNameStart isNameChar)
open Text (EndsNumeral endsNumeral_nil endsNumeral_cons)

/-! ### Kinds -/

theorem Symbol.mem_all (s : Symbol) : s ∈ Symbol.all := by
  cases s <;> decide

theorem Keyword.spelling_solid (k : Keyword) : ∀ c ∈ k.spelling.toList, isBlank c = false := by
  intro c member
  obtain ⟨first, rest, split, start, all⟩ := k.spelling_name
  have inName : isNameChar c = true := by
    rw [split] at member
    rcases List.mem_cons.mp member with rfl | later
    · exact Unicode.isNameChar_of_isNameStart start
    · exact all c later
  rw [Bool.eq_false_iff]
  intro blank
  rw [Unicode.isNameChar_of_isBlank blank] at inName
  contradiction

namespace Kind

theorem keyword_or_plain (k : Kind) : (∃ w, k = .keyword w) ∨ k ∈ plain := by
  cases k with
  | keyword w => exact .inl ⟨w, rfl⟩
  | symbol s =>
      exact .inr (List.mem_append_right _ (List.mem_map_of_mem s.mem_all))
  | escape d | quote d => cases d <;> exact .inr (by decide)
  | _ => exact .inr (by decide)

/-- No two kinds but keywords share a label, and none has the label of the keywords. -/
theorem ofLabel?_label {k : Kind} (h : k ∈ plain) : ofLabel? k.label = some k := by
  have table : ∀ k ∈ plain, ofLabel? k.label = some k := by decide +kernel
  exact table k h

theorem ofLabel?_keyword (w : Keyword) : ofLabel? (keyword w).label = none := by
  have missing : ofLabel? "Keyword" = none := by decide +kernel
  exact missing

theorem render_of_plain {k : Kind} (h : k ∈ plain) : k.render = k.label := by
  have table : ∀ k ∈ plain, k.render = k.label := by decide +kernel
  exact table k h

theorem label_solid {k : Kind} (h : k ∈ plain) :
    ∀ c ∈ k.label.toList, isBlank c = false ∧ c ≠ '(' := by
  have table : ∀ k ∈ plain, (k.label.toList.all fun c => !isBlank c && c != '(') = true := by
    decide +kernel
  intro c member
  simpa using List.all_eq_true.mp (table k h) c member

theorem eq_of_label {j k : Kind} (plainJ : j ∈ plain) (plainK : k ∈ plain)
    (same : j.label = k.label) : j = k := by
  have found := ofLabel?_label plainJ
  rw [same, ofLabel?_label plainK] at found
  exact (Option.some.inj found).symm

/-- The label tells the kind, unless it is that of the keywords. -/
theorem label_inj {j k : Kind} (same : j.label = k.label) :
    j = k ∨ ∃ v w, j = .keyword v ∧ k = .keyword w := by
  rcases j.keyword_or_plain with ⟨v, rfl⟩ | plainJ
  · rcases k.keyword_or_plain with ⟨w, rfl⟩ | plainK
    · exact .inr ⟨v, w, rfl, rfl⟩
    · have found := ofLabel?_label plainK
      rw [← same, ofLabel?_keyword] at found
      contradiction
  · rcases k.keyword_or_plain with ⟨w, rfl⟩ | plainK
    · have found := ofLabel?_label plainJ
      rw [same, ofLabel?_keyword] at found
      contradiction
    · exact .inl (eq_of_label plainJ plainK same)

theorem render_keyword (w : Keyword) :
    (keyword w).render.toList = "Keyword(".toList ++ w.spelling.toList ++ [')'] := by
  simp [render]

theorem render_keyword_ne {k : Kind} (h : k ∈ plain) (w : Keyword) :
    (keyword w).render ≠ k.render := by
  intro same
  have bracket : '(' ∈ (keyword w).render.toList := by
    rw [render_keyword]
    simp
  rw [same, render_of_plain h] at bracket
  exact (label_solid h _ bracket).2 rfl

theorem render_injective : Function.Injective render := by
  intro j k same
  rcases j.keyword_or_plain with ⟨v, rfl⟩ | plainJ
  · rcases k.keyword_or_plain with ⟨w, rfl⟩ | plainK
    · have texts := congrArg String.toList same
      rw [render_keyword, render_keyword] at texts
      have words := List.append_cancel_left (List.append_cancel_right texts)
      rw [Keyword.spelling_injective (String.toList_inj.mp words)]
    · exact absurd same (render_keyword_ne plainK v)
  · rcases k.keyword_or_plain with ⟨w, rfl⟩ | plainK
    · exact absurd same.symm (render_keyword_ne plainJ w)
    · rw [render_of_plain plainJ, render_of_plain plainK] at same
      exact eq_of_label plainJ plainK same

theorem render_solid (k : Kind) : ∀ c ∈ k.render.toList, isBlank c = false := by
  rcases k.keyword_or_plain with ⟨w, rfl⟩ | plainK
  · rw [render_keyword]
    simp only [List.mem_append]
    rintro c ((front | word) | last)
    · have table : ("Keyword(".toList.all fun c => !isBlank c) = true := by decide
      simpa using List.all_eq_true.mp table c front
    · exact w.spelling_solid c word
    · rw [List.mem_singleton.mp last]
      decide
  · rw [render_of_plain plainK]
    exact fun c member => (label_solid plainK c member).1

/-- A kind is read back from in front of a space. -/
theorem render_append_inj {j k : Kind} {r s : List Char}
    (same : j.render.toList ++ ' ' :: r = k.render.toList ++ ' ' :: s) : j = k ∧ r = s := by
  have solid (k : Kind) : ∀ c ∈ k.render.toList, (!isBlank c) = true := by
    intro c member
    rw [k.render_solid c member]
    rfl
  have stop (r : List Char) : ∀ c ∈ (' ' :: r).head?, (!isBlank c) = false := by
    intro c first
    rw [← Option.some.inj first]
    rfl
  obtain ⟨names, rest⟩ := Text.run_append_inj (solid j) (solid k) (stop r) (stop s) same
  exact ⟨render_injective (String.toList_inj.mp names), (List.cons.inj rest).2⟩

end Kind

/-! ### Tokens -/

namespace Token

/-- What a line of a listing shows of a token is the same. -/
structure Alike (t u : Token) : Prop where
  kind : t.kind = u.kind
  text : t.text = u.text
  line : t.line = u.line
  column : t.column = u.column

theorem render_toList (t : Token) :
    t.render.toList = Nat.toDigits 10 t.line.toNat ++ ':' :: (Nat.toDigits 10 t.column.toNat ++
      ' ' :: (t.kind.render.toList ++ ' ' :: (Text.quoted t.text).toList)) := by
  simp [render, Nat.repr_eq_ofList_toDigits]

/-- A token is read back from its line, but for its bytes in the source. -/
theorem render_append_inj {t u : Token} {r s : List Char}
    (same : t.render.toList ++ r = u.render.toList ++ s) : t.Alike u ∧ r = s := by
  have parts : Nat.toDigits 10 t.line.toNat ++ ':' :: (Nat.toDigits 10 t.column.toNat ++
        ' ' :: (t.kind.render.toList ++ ' ' :: ((Text.quoted t.text).toList ++ r))) =
      Nat.toDigits 10 u.line.toNat ++ ':' :: (Nat.toDigits 10 u.column.toNat ++
        ' ' :: (u.kind.render.toList ++ ' ' :: ((Text.quoted u.text).toList ++ s))) := by
    simpa [render_toList] using same
  obtain ⟨line, afterLine⟩ := Text.toDigits_append_inj (by decide) (by decide)
    (endsNumeral_cons _ (by decide)) (endsNumeral_cons _ (by decide)) parts
  obtain ⟨column, afterColumn⟩ := Text.toDigits_append_inj (by decide) (by decide)
    (endsNumeral_cons _ (by decide)) (endsNumeral_cons _ (by decide)) (List.cons.inj afterLine).2
  obtain ⟨kind, afterKind⟩ := Kind.render_append_inj (List.cons.inj afterColumn).2
  obtain ⟨text, rest⟩ := Text.quoted_append_inj afterKind
  exact ⟨⟨kind, text, UInt32.toNat_inj.mp line, UInt32.toNat_inj.mp column⟩, rest⟩

/-- A token takes one line. -/
theorem feed_notMem_render (t : Token) : '\n' ∉ t.render.toList := by
  have digits (n : Nat) : '\n' ∉ Nat.toDigits 10 n :=
    Text.feed_notMem_toDigits (by decide) (by decide) n
  simp only [render_toList, List.mem_append, List.mem_cons]
  rintro (line | colon | column | space | kind | space | text)
  · exact digits _ line
  · contradiction
  · exact digits _ column
  · contradiction
  · exact absurd (t.kind.render_solid _ kind) (by decide)
  · contradiction
  · exact Text.feed_notMem_quoted _ text

/-- A line starts with its number, so a numeral before it would not end. -/
theorem not_endsNumeral_render (t : Token) (r : List Char) :
    ¬ EndsNumeral (t.render.toList ++ r) := by
  intro ends
  obtain ⟨c, cs, digits, digit⟩ :=
    Text.toDigits_eq_cons (by decide : 1 < 10) (by decide) t.line.toNat
  rw [render_toList, digits] at ends
  rw [ends.head c rfl] at digit
  contradiction

end Token

/-! ### Listings -/

namespace Listing

/-- The lines of the tokens. -/
def tokenLines (ts : List Token) : List Char :=
  ts.flatMap fun t => t.render.toList ++ ['\n']

theorem asText_toList (ts : List Token) : (asText false ts).toList = tokenLines ts := by
  simp [asText, tokenLines, List.flatMap_map]

theorem asText_stats_toList (ts : List Token) :
    (asText true ts).toList =
      tokenLines ts ++ '\n' :: (String.join ((countKinds ts).map countLine)).toList := by
  simp [asText, tokenLines, List.flatMap_map]

/-- The lines are read back from in front of what is no line of a token. -/
theorem tokenLines_append_inj {ts us : List Token} {r s : List Char} (endsR : EndsNumeral r)
    (endsS : EndsNumeral s) (same : tokenLines ts ++ r = tokenLines us ++ s) :
    List.Forall₂ Token.Alike ts us ∧ r = s := by
  -- Neither rest can be taken for a further line, since a line starts with a digit.
  induction ts generalizing us with
  | nil =>
      cases us with
      | nil => exact ⟨.nil, same⟩
      | cons u us =>
          have start : r = u.render.toList ++ ('\n' :: (tokenLines us ++ s)) := by
            simpa [tokenLines] using same
          exact absurd (start ▸ endsR) (u.not_endsNumeral_render _)
  | cons t ts ih =>
      cases us with
      | nil =>
          have start : t.render.toList ++ ('\n' :: (tokenLines ts ++ r)) = s := by
            simpa [tokenLines] using same
          exact absurd (start ▸ endsS) (t.not_endsNumeral_render _)
      | cons u us =>
          have parts : t.render.toList ++ '\n' :: (tokenLines ts ++ r) =
              u.render.toList ++ '\n' :: (tokenLines us ++ s) := by
            simpa [tokenLines] using same
          obtain ⟨alike, behind⟩ := Token.render_append_inj parts
          obtain ⟨more, rest⟩ := ih (List.cons.inj behind).2
          exact ⟨.cons alike more, rest⟩

theorem asText_inj {stats : Bool} {ts us : List Token} (same : asText stats ts = asText stats us) :
    List.Forall₂ Token.Alike ts us := by
  have texts := congrArg String.toList same
  cases stats with
  | false =>
      rw [asText_toList, asText_toList, ← List.append_nil (tokenLines ts),
        ← List.append_nil (tokenLines us)] at texts
      exact (tokenLines_append_inj endsNumeral_nil endsNumeral_nil texts).1
  | true =>
      rw [asText_stats_toList, asText_stats_toList] at texts
      exact (tokenLines_append_inj (endsNumeral_cons _ (by decide))
        (endsNumeral_cons _ (by decide)) texts).1

/-- A record holds the whole token. -/
theorem record_injective : Function.Injective record := by
  intro t u same
  obtain ⟨j, a, start, stop, line, column⟩ := t
  obtain ⟨k, b, start', stop', line', column'⟩ := u
  have label : j.label = k.label := by
    have first := congrArg List.head? (Json.record.inj same)
    simpa using first
  rcases Kind.label_inj label with rfl | ⟨v, w, rfl, rfl⟩
  · have others := List.append_cancel_left (Json.record.inj same)
    simp only [Token.line, Token.column, List.cons.injEq, Prod.mk.injEq, Json.text.injEq,
      Json.number.injEq, UInt32.toNat_inj, true_and, and_true] at others
    obtain ⟨rfl, rfl, rfl, rfl, rfl⟩ := others
    rfl
  · have fields := Json.record.inj same
    simp only [Token.line, Token.column, List.cons_append, List.nil_append, List.cons.injEq,
      Prod.mk.injEq, Json.text.injEq, Json.number.injEq, UInt32.toNat_inj, true_and, and_true] at fields
    obtain ⟨-, word, rfl, rfl, rfl, rfl, rfl⟩ := fields
    rw [Keyword.spelling_injective word]

theorem asJson_inj {stats : Bool} {ts us : List Token} (same : asJson stats ts = asJson stats us) :
    ts = us := by
  have records : ts.map record = us.map record := by
    cases stats with
    | false => exact Json.list.inj same
    | true =>
        have fields := Json.record.inj same
        simp only [List.cons.injEq, Prod.mk.injEq, Json.list.injEq] at fields
        exact fields.1.2
  exact List.map_injective_iff.mpr record_injective records

/-- The listing of tokens shows the tokens: lists with the same listing agree at every position, and
entirely where the listing is data. A listing of lines has one line for each token. -/
theorem render_faithful :
    (∀ (format : Format) (stats : Bool) (ts us : List Token),
      render format stats ts = render format stats us →
        List.Forall₂ Token.Alike ts us ∧ (format = .json → ts = us)) ∧
    ∀ ts : List Token, ∃ lines : List (List Char),
      lines.length = ts.length ∧ (∀ l ∈ lines, '\n' ∉ l) ∧
      (render .text false ts).toList = lines.flatMap (· ++ ['\n']) := by
  constructor
  · intro format stats ts us same
    cases format with
    | text => exact ⟨asText_inj same, nofun⟩
    | json =>
        have values := Json.pretty_injective ((String.append_left_inj _).mp same)
        have tokens := asJson_inj values
        refine ⟨?_, fun _ => tokens⟩
        rw [tokens]
        exact List.forall₂_same.mpr fun t _ => ⟨rfl, rfl, rfl, rfl⟩
  · intro ts
    refine ⟨ts.map fun t => t.render.toList, List.length_map _, ?_, ?_⟩
    · intro l member
      obtain ⟨t, -, rfl⟩ := List.mem_map.mp member
      exact t.feed_notMem_render
    · rw [List.flatMap_map]
      exact asText_toList ts

/-- Tokens from other bytes of a source have the same lines; their text goes over two lines. -/
theorem render_faithful_bytes :
    Token.mk .string "\"a\n\"" ⟨0, 4, 1, 1⟩ ≠ Token.mk .string "\"a\n\"" ⟨5, 9, 1, 1⟩ ∧
      render .text true [⟨.string, "\"a\n\"", ⟨0, 4, 1, 1⟩⟩] =
        render .text true [⟨.string, "\"a\n\"", ⟨5, 9, 1, 1⟩⟩] ∧
      List.Forall₂ Token.Alike [⟨.string, "\"a\n\"", ⟨0, 4, 1, 1⟩⟩]
        [⟨.string, "\"a\n\"", ⟨5, 9, 1, 1⟩⟩] := by
  have same : render .text true [⟨.string, "\"a\n\"", ⟨0, 4, 1, 1⟩⟩] =
      render .text true [⟨.string, "\"a\n\"", ⟨5, 9, 1, 1⟩⟩] := rfl
  exact ⟨by decide, same, (render_faithful.1 .text true _ _ same).1⟩

end Listing

end QueryScan
