import EventQuery.Text.Blank
import Mathlib.Data.List.TakeWhile

/-!
# Blanks around a text

Trimming takes the blanks off both ends of a text, so that blanks put there make
no difference, and a text that starts and ends with visible characters is kept.
-/

namespace EventQuery.Text

/-- No visible ASCII character is blank. -/
theorem isBlank_eq_false {character : Char}
    (isAbove : 0x20 < character.toNat)
    (isBelow : character.toNat < 0x7F) :
    isBlank character = false := by
  simp [isBlank, liesIn, blankIntervals]
  omega

theorem toNat_of_isDigit {character : Char} (isDigit : character.isDigit = true) :
    48 ≤ character.toNat ∧ character.toNat ≤ 57 := by
  simpa [Char.isDigit, UInt32.le_iff_toNat_le] using isDigit

theorem isBlank_of_isDigit {character : Char} (isDigit : character.isDigit = true) :
    isBlank character = false := by
  have ⟨isAbove, isBelow⟩ := toNat_of_isDigit isDigit
  exact isBlank_eq_false (by omega) (by omega)

/-- Whether all characters are blank. -/
def AllBlank (characters : List Char) : Prop :=
  ∀ character ∈ characters, isBlank character = true

theorem AllBlank.reverse {characters : List Char} (areBlank : AllBlank characters) :
    AllBlank characters.reverse :=
  fun character isIn => areBlank character (List.mem_reverse.mp isIn)

theorem dropBlanks_of_isBlank_eq_false {first : Char}
    (isVisible : isBlank first = false)
    (others : List Char) :
    dropBlanks (first :: others) = first :: others :=
  List.dropWhile_cons_of_neg (by simp [isVisible])

/-- Blanks in front are dropped. -/
theorem dropBlanks_append {front : List Char} (areBlank : AllBlank front)
    (characters : List Char) :
    dropBlanks (front ++ characters) = dropBlanks characters :=
  List.dropWhile_append_of_pos areBlank

/-- Blanks behind a text stay if there is something visible in front of them. -/
theorem dropBlanks_append_of_visible {characters : List Char}
    (isVisible : dropBlanks characters ≠ [])
    (back : List Char) :
    dropBlanks (characters ++ back) = dropBlanks characters ++ back := by
  unfold dropBlanks at *
  rw [List.dropWhile_append, if_neg]
  rwa [List.isEmpty_iff]

/-- Nothing is left exactly of blanks. -/
theorem dropBlanks_eq_nil_iff {characters : List Char} :
    dropBlanks characters = [] ↔ AllBlank characters :=
  List.dropWhile_eq_nil_iff

/-- Trimming is not affected by blanks around a text. -/
theorem trimBlanks_append {front back : List Char}
    (areBlank : AllBlank front)
    (areBlankToo : AllBlank back)
    (characters : List Char) :
    trimBlanks (front ++ characters ++ back) = trimBlanks characters := by
  unfold trimBlanks
  rw [List.append_assoc, dropBlanks_append areBlank]
  by_cases isNothing : dropBlanks characters = []
  · have areAllBlank := dropBlanks_eq_nil_iff.mp isNothing
    have isNothingToo : dropBlanks back = [] := dropBlanks_eq_nil_iff.mpr areBlankToo
    rw [dropBlanks_append areAllBlank, isNothing, isNothingToo]
  · rw [dropBlanks_append_of_visible isNothing, List.reverse_append,
      dropBlanks_append areBlankToo.reverse]

/-- A text that starts and ends with visible characters has nothing to trim. -/
theorem trimBlanks_eq_self {characters : List Char}
    (isVisible : ∀ first ∈ characters.head?, isBlank first = false)
    (isVisibleToo : ∀ last ∈ characters.getLast?, isBlank last = false) :
    trimBlanks characters = characters := by
  have keeps {characters : List Char}
      (isVisible : ∀ first ∈ characters.head?, isBlank first = false) :
      dropBlanks characters = characters := by
    cases characters with
    | nil => rfl
    | cons first others => exact dropBlanks_of_isBlank_eq_false (isVisible first rfl) others
  unfold trimBlanks
  rw [keeps isVisible, keeps, List.reverse_reverse]
  rwa [List.head?_reverse]

/-- A text is what is left of it without the blanks around, with these put back. -/
theorem exists_append_trimBlanks (characters : List Char) :
    ∃ front back,
      characters = front ++ trimBlanks characters ++ back ∧ AllBlank front ∧ AllBlank back := by
  have areBlank (characters : List Char) : AllBlank (characters.takeWhile isBlank) :=
    fun _ isIn => List.all_eq_true.mp List.all_takeWhile _ isIn
  have split (characters : List Char) :
      characters.takeWhile isBlank ++ dropBlanks characters = characters :=
    List.takeWhile_append_dropWhile
  refine
    ⟨characters.takeWhile isBlank, ((dropBlanks characters).reverse.takeWhile isBlank).reverse,
      ?_, areBlank _, (areBlank _).reverse⟩
  rw [trimBlanks, List.append_assoc, ← List.reverse_append, split, List.reverse_reverse, split]

end EventQuery.Text
