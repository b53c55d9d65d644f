import QueryScan.Proofs.ConstructBodies
import QueryScan.Proofs.Numbers
import Mathlib.Data.List.Nodup

/-! Names and keywords, told by the text ahead. The longest name is read before it is looked up, so
a keyword at the start of a longer name is not seen. The look-up is exact, and a table by spelling
holds every keyword once. -/
namespace QueryScan

open Grammar
open Unicode (isNameStart isNameChar)
open Text (run run_split)

/-! ### The look-up of keywords -/

namespace Keyword

/-- The keywords by their spelling. A second word with the same spelling would replace the first. -/
def table : Std.HashMap String Keyword :=
  .ofList (all.map fun k => (k.spelling, k))

theorem ofSpelling?_eq_some_iff {word : String} {k : Keyword} :
    ofSpelling? word = Option.some k ↔ k.spelling = word := by
  constructor
  · exact spelling_of_ofSpelling?
  · rintro rfl
    exact ofSpelling?_spelling k

theorem ofSpelling?_eq_none_iff {word : String} :
    ofSpelling? word = none ↔ ∀ k : Keyword, k.spelling ≠ word := by
  rw [Option.eq_none_iff_forall_ne_some]
  exact forall_congr' fun k => not_congr ofSpelling?_eq_some_iff

theorem spelling_injective : Function.Injective spelling := by
  intro a b same
  have found := ofSpelling?_spelling a
  rw [same, ofSpelling?_spelling] at found
  exact (Option.some.inj found).symm

theorem nodup_all : all.Nodup := by
  decide +kernel

/-- No entry of the table replaces another. -/
theorem table_entries_apart :
    (all.map fun k => (k.spelling, k)).Pairwise fun a b => (a.1 == b.1) = false := by
  rw [List.pairwise_map]
  refine nodup_all.imp ?_
  intro a b apart
  exact beq_false_of_ne (spelling_injective.ne apart)

/-- The search through all keywords and the look-up in the table agree. -/
theorem table_getElem? (word : String) : table[word]? = ofSpelling? word := by
  cases found : ofSpelling? word with
  | some k =>
      refine Std.HashMap.getElem?_ofList_of_mem (beq_self_eq_true word) table_entries_apart ?_
      rw [← ofSpelling?_eq_some_iff.mp found]
      exact List.mem_map_of_mem k.mem_all
  | none =>
      refine Std.HashMap.getElem?_ofList_of_contains_eq_false ?_
      rw [List.map_map, List.contains_eq_mem, decide_eq_false_iff_not, List.mem_map]
      rintro ⟨k, -, same⟩
      exact ofSpelling?_eq_none_iff.mp found k same

theorem table_size : table.size = all.length := by
  rw [table, Std.HashMap.size_ofList table_entries_apart, List.length_map]

end Keyword

namespace Kind

theorem ofName_eq_keyword_iff {w : List Char} {k : Keyword} :
    ofName w = .keyword k ↔ k.spelling.toList = w := by
  constructor
  · unfold ofName
    intro h
    split at h
    · next found =>
        cases h
        rw [Keyword.ofSpelling?_eq_some_iff.mp found, String.toList_ofList]
    · cases h
  · rintro rfl
    exact ofName_keyword k

theorem ofName_eq_name_iff {w : List Char} :
    ofName w = .name ↔ ∀ k : Keyword, k.spelling.toList ≠ w := by
  constructor
  · intro h k same
    rw [ofName_eq_keyword_iff.mpr same] at h
    cases h
  · intro none
    exact ofName_name fun k same => none k same.symm

end Kind

/-! ### The longest name ahead -/

namespace Scan

/-- A name at the start of a text goes on as long as its characters do. -/
theorem longest_name {c : Char} (r : List Char) (start : isNameStart c = true) :
    ∃ w, Longest Name (c :: r) w ∧ w.length = 1 + run isNameChar r ∧
      (c :: r).take (1 + run isNameChar r) = w := by
  obtain ⟨body, rest, rfl, length, all, stop⟩ := run_split isNameChar r
  have name : Name (c :: body) := ⟨c, body, rfl, start, all⟩
  refine ⟨c :: body, ⟨name, List.prefix_append (c :: body) rest, ?_⟩, ?_, ?_⟩
  · intro v other ahead
    exact (other.longest stop ahead).length_le
  · rw [length, List.length_cons, Nat.add_comm]
  · rw [length, Nat.add_comm, List.take_succ_cons, List.take_left]

end Scan

namespace Scanner

/-- How a call answers where the longest name ahead is `w`: with a token of it, and its kind is that
of a keyword exactly when the keyword is spelled so. -/
structure TakesName (s : Scanner) (w : List Char) : Prop where
  taken : ∃ k, s.Takes k w
  keyword : ∀ k : Keyword, s.Takes (.keyword k) w ↔ k.spelling.toList = w
  name : s.Takes .name w ↔ ∀ k : Keyword, k.spelling.toList ≠ w

theorem Takes.kind_unique {s : Scanner} {j k : Kind} {w : List Char} (first : s.Takes j w)
    (second : s.Takes k w) : j = k := by
  have same := first.given.symm.trans second.given
  injection same with same
  injection same

theorem takesName {s : Scanner} {w : List Char} (taken : s.Takes (.ofName w) w) :
    s.TakesName w := by
  have takes_iff : ∀ k, s.Takes k w ↔ Kind.ofName w = k := by
    intro k
    constructor
    · exact taken.kind_unique
    · rintro rfl
      exact taken
  refine ⟨⟨_, taken⟩, ?_, ?_⟩
  · intro k
    exact (takes_iff (.keyword k)).trans Kind.ofName_eq_keyword_iff
  · exact (takes_iff .name).trans Kind.ofName_eq_name_iff

theorem takes_longest_name {s : Scanner} {c : Char} {r : List Char} (sound : s.failure = none)
    (outside : s.mode.inContent = false) (ahead : s.cursor.rest = c :: r)
    (start : isNameStart c = true) :
    ∃ w, Longest Name s.cursor.rest w ∧ s.TakesName w := by
  obtain ⟨w, longest, length, text⟩ := Scan.longest_name r start
  rw [← ahead] at longest text
  refine ⟨w, longest, takesName (takes_of_step sound longest.2.1 ?_)⟩
  have found := Scan.step_name (Mode.expression_of_not_inContent outside) r start
  rw [← ahead, ← length] at found
  rw [← length] at text
  rw [found, text]

/-- A text that is the spelling of a keyword is read as that keyword. -/
theorem takes_keyword (k : Keyword) {m : Mode} (outside : m.inContent = false) :
    (Scanner.ofText k.spelling m).Takes (.keyword k) k.spelling.toList := by
  obtain ⟨c, r, ahead, start, -⟩ := k.spelling_name
  obtain ⟨w, longest, takes⟩ := takes_longest_name (s := Scanner.ofText k.spelling m) rfl outside
    ahead start
  have whole : w = k.spelling.toList := by
    refine longest.2.1.eq_of_length (Nat.le_antisymm longest.2.1.length_le ?_)
    exact longest.2.2 _ k.spelling_name List.prefix_rfl
  rw [← whole]
  exact (takes.keyword k).mpr whole.symm

/-- Outside content the longest name ahead is read, as the keyword of that spelling or as a name
where there is none. The look-up of a spelling is exact, a table of all keywords answers alike and
has lost none, and every keyword is read from its spelling. -/
theorem next_name :
    (∀ (s : Scanner) (c : Char) (r : List Char), s.failure = none → s.mode.inContent = false →
      s.cursor.rest = c :: r → isNameStart c = true →
        ∃ w, Longest Name s.cursor.rest w ∧ s.TakesName w) ∧
    (∀ (word : String) (k : Keyword),
      Keyword.ofSpelling? word = some k ↔ k.spelling = word) ∧
    (∀ word : String, Keyword.table[word]? = Keyword.ofSpelling? word) ∧
    Keyword.table.size = Keyword.all.length ∧
    ∀ (k : Keyword) (m : Mode), m.inContent = false →
      Name k.spelling.toList ∧
        (Scanner.ofText k.spelling m).Takes (.keyword k) k.spelling.toList := by
  refine ⟨?_, ?_, Keyword.table_getElem?, Keyword.table_size, ?_⟩
  · intro s c r sound outside ahead start
    exact takes_longest_name sound outside ahead start
  · intro word k
    exact Keyword.ofSpelling?_eq_some_iff
  · intro k m outside
    exact ⟨k.spelling_name, takes_keyword k outside⟩

/-- A longer name is no keyword, though a keyword with a hyphen stands at its start. -/
theorem next_name_longer :
    (∃ w, Longest Name "document-node2(".toList w ∧
      (Scanner.ofText "document-node2(").TakesName w) ∧
    (Scanner.ofText "document-node2(").Takes .name "document-node2".toList ∧
    Keyword.ofSpelling? "document-node" = some .documentNode ∧
    (Scanner.ofText "document-node").Takes (.keyword .documentNode) "document-node".toList := by
  have longest := next_name.1 (Scanner.ofText "document-node2(") _ _ rfl rfl rfl (by decide)
  have whole := (next_name.2.2.2.2 .documentNode {} rfl).2
  refine ⟨longest, ?_, (next_name.2.1 _ _).mpr rfl, whole⟩
  exact takes_of_step rfl ⟨['('], rfl⟩ (by decide +kernel)

end Scanner

end QueryScan
