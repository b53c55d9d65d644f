import QueryScan.Proofs.RangeTables
import QueryScan.Token.Kind

/-! Which characters open which tokens. The classes of names, numbers and blanks exclude each other
and all the characters that symbols, quotes and marks are spelled with. -/
namespace QueryScan.Unicode

/-- No ideograph is among the first 128 characters. -/
theorem isIdeographic_of_isAscii {c : Char} (ascii : isAscii c = true) :
    isIdeographic c = false := by
  rw [Bool.eq_false_iff]
  intro found
  obtain ⟨r, member, -⟩ := (TableClass.ideographic.holds_iff_of_isAscii ascii).mp found
  exact List.not_mem_nil member

theorem isNameStart_of_isAscii {c : Char} (ascii : isAscii c = true) :
    isNameStart c = (c == '_' || c.isAlpha) := by
  simp [isNameStart, isLetter, isBaseChar, ascii, isIdeographic_of_isAscii ascii]

/-- The ASCII characters that are neither letters nor digits nor an underscore. -/
def isSign (c : Char) : Bool :=
  isAscii c && !(c.isAlphanum || c == '_')

theorem isNameStart_of_isSign {c : Char} (sign : isSign c = true) : isNameStart c = false := by
  simp only [isSign, Bool.and_eq_true, Bool.not_eq_true', Bool.or_eq_false_iff,
    Char.isAlphanum] at sign
  obtain ⟨ascii, ⟨alpha, digit⟩, under⟩ := sign
  rw [isNameStart_of_isAscii ascii, under, alpha]
  rfl

theorem isDigit_of_isSign {c : Char} (sign : isSign c = true) : isDigit c = false := by
  simp only [isSign, Bool.and_eq_true, Bool.not_eq_true', Bool.or_eq_false_iff,
    Char.isAlphanum] at sign
  obtain ⟨ascii, ⟨alpha, digit⟩, under⟩ := sign
  rw [isDigit, if_pos ascii, digit]

/-- A digit of any script opens no name. -/
theorem isNameStart_of_isDigit {c : Char} (digit : isDigit c = true) : isNameStart c = false := by
  rw [Bool.eq_false_iff]
  intro start
  simp only [isNameStart, isLetter, Bool.or_eq_true, beq_iff_eq] at start
  rcases start with rfl | base | ideographic
  · exact absurd digit (by decide)
  · have same : TableClass.baseChar = .digit := TableClass.unique base digit
    contradiction
  · have same : TableClass.ideographic = .digit := TableClass.unique ideographic digit
    contradiction

theorem isSign_of_isDigit {c : Char} (digit : isDigit c = true) : isSign c = false := by
  rw [Bool.eq_false_iff]
  intro sign
  rw [isDigit_of_isSign sign] at digit
  contradiction

theorem isSign_of_isNameStart {c : Char} (start : isNameStart c = true) : isSign c = false := by
  rw [Bool.eq_false_iff]
  intro sign
  rw [isNameStart_of_isSign sign] at start
  contradiction

theorem isDigit_of_isNameStart {c : Char} (start : isNameStart c = true) : isDigit c = false := by
  rw [Bool.eq_false_iff]
  intro digit
  rw [isNameStart_of_isDigit digit] at start
  contradiction

theorem isSign_of_isBlank {c : Char} (blank : isBlank c = true) : isSign c = true := by
  simp only [isBlank, Bool.or_eq_true, beq_iff_eq] at blank
  rcases blank with ((rfl | rfl) | rfl) | rfl <;> decide

theorem isNameChar_of_isBlank {c : Char} (blank : isBlank c = true) : isNameChar c = false := by
  simp only [isBlank, Bool.or_eq_true, beq_iff_eq] at blank
  rcases blank with ((rfl | rfl) | rfl) | rfl <;> decide

theorem isBlank_of_not_isSign {c : Char} (h : isSign c = false) : isBlank c = false := by
  rw [Bool.eq_false_iff]
  intro blank
  rw [isSign_of_isBlank blank] at h
  contradiction

/-- A character outside a class is none of the members of the class. -/
theorem not_mem_of_class {p : Char → Bool} {b : Bool} {c : Char} {l : List Char}
    (h : p c = !b) (members : l.all (fun d => p d == b) = true) : c ∉ l := by
  intro member
  have same := List.all_eq_true.mp members c member
  rw [h] at same
  cases b <;> contradiction

theorem ne_of_class {p : Char → Bool} {b : Bool} {c d : Char} (h : p c = !b) (other : p d = b) :
    c ≠ d := by
  rintro rfl
  rw [other] at h
  cases b <;> contradiction

/-! ### Characters of names -/

theorem isNameChar_iff {c : Char} :
    isNameChar c = true ↔ isLetter c = true ∨ isDigit c = true ∨ c = '.' ∨ c = '-' ∨ c = '_' ∨
      isCombining c = true ∨ isExtender c = true := by
  cases ascii : isAscii c with
  | true =>
      simp [isNameChar, isLetter, isBaseChar, isIdeographic_of_isAscii, isDigit, isCombining,
        isExtender, ascii, Char.isAlphanum, or_assoc]
  | false =>
      have ne : ∀ {d : Char}, isAscii d = true → c ≠ d :=
        fun other => ne_of_class (b := true) ascii other
      simp [isNameChar, ascii, ne (d := '.') rfl, ne (d := '-') rfl, ne (d := '_') rfl,
        or_assoc]

theorem isNameChar_of_isNameStart {c : Char} (start : isNameStart c = true) :
    isNameChar c = true := by
  rw [isNameStart, Bool.or_eq_true, beq_iff_eq] at start
  rcases start with rfl | letter
  · decide
  · exact isNameChar_iff.mpr (.inl letter)

theorem isSign_of_mem_spelling (s : Symbol) {c : Char} (member : c ∈ s.spelling) :
    isSign c = true := by
  have signs : s.spelling.all isSign = true := by
    cases s <;> decide
  exact List.all_eq_true.mp signs c member

/-- What the tests say of a character, and what they say of each other. -/
structure Classified (c : Char) : Prop where
  listed : ∀ k : TableClass, k.holds c = true ↔ k.Lists c
  exclusive : ∀ k l : TableClass, k ≠ l → ¬(k.holds c = true ∧ l.holds c = true)
  nameChar : isNameChar c = true ↔ isBaseChar c = true ∨ isIdeographic c = true ∨
    isDigit c = true ∨ c = '.' ∨ c = '-' ∨ c = '_' ∨ isCombining c = true ∨ isExtender c = true
  opening : isNameStart c = true → isNameChar c = true
  notDigit : isNameStart c = true → isDigit c = false
  notBlank : isNameStart c = true → isBlank c = false
  /-- It is no sign of ASCII, and no symbol is spelled with it. -/
  notSign : isNameStart c = true → isSign c = false ∧ ∀ s : Symbol, c ∉ s.spelling

/-- The search is exact on every ordered table, the tables of the classes are ordered, and so every
character is classified by the tables alone. -/
theorem tables_classify :
    (∀ table : Array Range, Ordered table → ∀ n,
      inTable table n = true ↔ ∃ r ∈ table.toList, r.Contains n) ∧
    (∀ k : TableClass, Ordered k.table) ∧
    ∀ c : Char, Classified c := by
  refine ⟨fun table ordered => ordered.inTable_iff, TableClass.table_ordered, ?_⟩
  intro c
  refine ⟨fun k => k.holds_iff c, ?_, ?_, isNameChar_of_isNameStart, isDigit_of_isNameStart, ?_, ?_⟩
  · rintro k l other ⟨first, second⟩
    exact other (TableClass.unique first second)
  · rw [isNameChar_iff, isLetter, Bool.or_eq_true, or_assoc]
  · intro start
    exact isBlank_of_not_isSign (isSign_of_isNameStart start)
  · intro start
    have sign := isSign_of_isNameStart start
    refine ⟨sign, ?_⟩
    intro s member
    rw [isSign_of_mem_spelling s member] at sign
    contradiction

/-- The search tells the last mark of a range from the gap behind it. Such a mark may stand in a
name, but not at its start. -/
theorem tables_classify_mark :
    Ordered Xml.extenderTable ∧ inTable Xml.extenderTable 0x3035 = true ∧
      inTable Xml.extenderTable 0x3036 = false ∧ isExtender '\u3035' = true ∧
      isNameChar '\u3035' = true ∧ isNameStart '\u3035' = false := by
  have ordered : Ordered Xml.extenderTable := by decide
  have search := tables_classify.1 Xml.extenderTable ordered
  have mark := tables_classify.2.2 '\u3035'
  have found : TableClass.extender.Lists '\u3035' := ⟨⟨0x3031, 0x3035⟩, by decide, by decide⟩
  have extender : isExtender '\u3035' = true := (mark.listed .extender).mpr found
  have base : isBaseChar '\u3035' = false := Bool.eq_false_iff.mpr fun both =>
    mark.exclusive .baseChar .extender (by decide) ⟨both, extender⟩
  have ideographic : isIdeographic '\u3035' = false := Bool.eq_false_iff.mpr fun both =>
    mark.exclusive .ideographic .extender (by decide) ⟨both, extender⟩
  refine ⟨ordered, (search _).mpr found, ?_, extender, ?_, ?_⟩
  · rw [Bool.eq_false_iff, ne_eq, search]
    decide
  · simp [mark.nameChar, extender]
  · simp [isNameStart, isLetter, base, ideographic]

end QueryScan.Unicode
