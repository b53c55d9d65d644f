import QueryScan.Proofs.Lexemes

/-! Names and keywords share their form; a name is a keyword exactly when it is spelled like one. -/
namespace QueryScan

open Grammar
open Unicode (isNameStart isNameChar)

theorem Keyword.mem_all (k : Keyword) : k ∈ Keyword.all := by
  cases k <;> decide

/-- No two keywords are spelled alike. -/
theorem Keyword.ofSpelling?_spelling (k : Keyword) :
    Keyword.ofSpelling? k.spelling = Option.some k := by
  have table : ∀ k ∈ Keyword.all, Keyword.ofSpelling? k.spelling = Option.some k := by
    decide +kernel
  exact table k k.mem_all

theorem Keyword.spelling_of_ofSpelling? {word : String} {k : Keyword}
    (h : Keyword.ofSpelling? word = Option.some k) : k.spelling = word := by
  simpa using List.find?_some h

theorem Keyword.spelling_name (k : Keyword) : Name k.spelling.toList := by
  have table : ∀ k ∈ Keyword.all, k.spelling.toList.head?.any isNameStart = true ∧
      k.spelling.toList.tail.all isNameChar = true := by decide +kernel
  obtain ⟨start, rest⟩ := table k k.mem_all
  generalize k.spelling.toList = w at start rest ⊢
  cases w with
  | nil => simp at start
  | cons c r => exact ⟨c, r, rfl, start, List.all_eq_true.mp rest⟩

namespace Kind

theorem ofName_lexeme (m : Mode) {w : List Char} (h : Name w) : Lexeme m (ofName w) w := by
  unfold ofName
  split
  · next k found =>
      have same := Keyword.spelling_of_ofSpelling? found
      show w = k.spelling.toList
      rw [same, String.toList_ofList]
  · next missing =>
      refine ⟨h, ?_⟩
      rintro k rfl
      rw [String.ofList_toList, Keyword.ofSpelling?_spelling] at missing
      contradiction

theorem ofName_keyword (k : Keyword) : ofName k.spelling.toList = .keyword k := by
  rw [ofName, String.ofList_toList, Keyword.ofSpelling?_spelling]

theorem ofName_name {w : List Char} (h : ∀ k : Keyword, w ≠ k.spelling.toList) :
    ofName w = .name := by
  unfold ofName
  split
  · next k found =>
      have same := Keyword.spelling_of_ofSpelling? found
      exact absurd (by rw [same, String.toList_ofList]) (h k)
  · rfl

end Kind

end QueryScan
