import EventQuery.Keyword
import EventQuery.Proofs.Text.Case

/-!
# Facts about keywords

No two keywords share a spelling, so a text that spells a keyword in whatever
case spells no other one.
-/

namespace EventQuery

open Text

/-- The characters of a text with capital letters made small. -/
def Text.smallCharacters (text : String) : List Char :=
  text.toList.map Char.toLower

namespace Keyword

theorem mem_all (keyword : Keyword) : keyword ∈ all := by
  cases keyword with
  | anchorWord anchor => cases anchor <;> decide
  | unitWord unit => cases unit <;> decide
  | _ => decide

/-- All spellings of all keywords, in small letters. -/
def spellingTable : List (List Char × Keyword) :=
  all.flatMap fun keyword =>
    keyword.spellings.map fun spelling => (smallCharacters spelling, keyword)

theorem spellingTable_disjoint :
    ∀ first ∈ spellingTable, ∀ second ∈ spellingTable,
      first.1 = second.1 → first.2 = second.2 := by
  decide +kernel

theorem mem_spellingTable {keyword : Keyword} {spelling : String}
    (isIn : spelling ∈ keyword.spellings) :
    (smallCharacters spelling, keyword) ∈ spellingTable :=
  List.mem_flatMap.mpr ⟨keyword, keyword.mem_all, List.mem_map.mpr ⟨spelling, isIn, rfl⟩⟩

theorem utf8ByteSize_le_maxLength :
    ∀ keyword ∈ all, ∀ spelling ∈ keyword.spellings, spelling.utf8ByteSize ≤ maxLength := by
  decide +kernel

/-- What is too long for a keyword spells none. -/
theorem ofText?_eq_find? (text : String) :
    ofText? text =
      all.find? fun keyword =>
        keyword.spellings.any fun spelling => agreeIgnoringCase spelling text := by
  unfold ofText?
  split
  · rename_i isLong
    refine (List.find?_eq_none.mpr fun keyword isIn isSpelled => ?_).symm
    obtain ⟨spelling, isSpelling, agrees⟩ := List.any_eq_true.mp isSpelled
    have isShort := utf8ByteSize_le_maxLength keyword isIn spelling isSpelling
    rw [utf8ByteSize_eq_of_agreeIgnoringCase agrees] at isShort
    omega
  · rfl

theorem ofText?_eq_some_iff {text : String} {keyword : Keyword} :
    ofText? text = some keyword ↔
      ∃ spelling ∈ keyword.spellings, agreeIgnoringCase spelling text = true := by
  rw [ofText?_eq_find?]
  constructor
  · intro found
    have isSpelled := List.find?_some found
    exact List.any_eq_true.mp isSpelled
  · rintro ⟨spelling, isIn, agrees⟩
    have isFound :
        (all.find? fun other =>
          other.spellings.any fun spelling => agreeIgnoringCase spelling text).isSome := by
      rw [List.find?_isSome]
      exact ⟨keyword, keyword.mem_all, List.any_eq_true.mpr ⟨spelling, isIn, agrees⟩⟩
    obtain ⟨other, found⟩ := Option.isSome_iff_exists.mp isFound
    have isSpelled := List.find?_some found
    obtain ⟨spelling', isIn', agrees'⟩ := List.any_eq_true.mp isSpelled
    have sameText :=
      (agreeIgnoringCase_iff.mp agrees').trans (agreeIgnoringCase_iff.mp agrees).symm
    have same : other = keyword :=
      spellingTable_disjoint _ (mem_spellingTable isIn') _ (mem_spellingTable isIn) sameText
    rw [found, same]

theorem ofText?_eq_none_iff {text : String} :
    ofText? text = none ↔ ∀ entry ∈ spellingTable, entry.1 ≠ smallCharacters text := by
  constructor
  · rintro isNone ⟨spelling, keyword⟩ isIn rfl
    obtain ⟨keyword', _, isIn⟩ := List.mem_flatMap.mp isIn
    obtain ⟨spelling, isSpelling, equal⟩ := List.mem_map.mp isIn
    obtain ⟨agrees, rfl⟩ := Prod.mk.inj equal
    have isSome := ofText?_eq_some_iff.mpr ⟨spelling, isSpelling, agreeIgnoringCase_iff.mpr agrees⟩
    rw [isNone] at isSome
    cases isSome
  · intro isNoEntry
    cases found : ofText? text with
    | none => rfl
    | some keyword =>
        obtain ⟨spelling, isSpelling, agrees⟩ := ofText?_eq_some_iff.mp found
        exact
          absurd (agreeIgnoringCase_iff.mp agrees)
            (isNoEntry _ (mem_spellingTable isSpelling))

/-- A unit of time in capital letters, in the number of its amount. -/
theorem ofText?_timeUnit (amount : UInt64) (unit : TimeUnit) :
    ofText? (uppercase (unit.nameFor amount)) = some (unitWord unit) := by
  refine ofText?_eq_some_iff.mpr ⟨unit.nameFor amount, ?_, ?_⟩
  · unfold TimeUnit.nameFor
    split <;> simp [spellings]
  · rw [agreeIgnoringCase_iff]
    unfold TimeUnit.nameFor
    split <;> cases unit <;> simp [uppercase, TimeUnit.name]

/-- The canonical spelling of a keyword is read as the keyword. -/
theorem ofText?_word (keyword : Keyword) : ofText? keyword.word = some keyword := by
  have ofWord {keyword : Keyword} (isWord : keyword.spellings = [keyword.word]) :
      ofText? keyword.word = some keyword :=
    ofText?_eq_some_iff.mpr ⟨keyword.word, by simp [isWord], agreeIgnoringCase_iff.mpr rfl⟩
  cases keyword with
  | unitWord unit => exact ofText?_timeUnit 1 unit
  | _ => exact ofWord rfl

end Keyword

end EventQuery
