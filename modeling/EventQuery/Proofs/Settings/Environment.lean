import EventQuery.Proofs.Text.Blank
import EventQuery.Proofs.Text.Case
import EventQuery.Settings.Environment

/-!
# What the texts of variables say

Numbers are written in digits, perhaps behind a plus sign, and have to fit into 64 bits.
Truth values are words in whatever case, perhaps between blanks.
-/

namespace EventQuery

open Text

/-! ## Numbers -/

/-- Whether a text is the digits of a number of 64 bits, perhaps behind a plus sign. -/
def WritesNatural (text : String) (value : Nat) : Prop :=
  ∃ digits,
    (text.toList = digits ∨ text.toList = '+' :: digits) ∧
      digits ≠ [] ∧ (∀ digit ∈ digits, digit.isDigit = true) ∧
      Decimal.ofDigits digits = value ∧ value < UInt64.size

theorem Environment.natural?_eq_some_iff {text : String} {value : Nat} :
    natural? text = some value ↔ WritesNatural text value := by
  unfold natural?
  dsimp only
  constructor
  · intro isSome
    obtain ⟨⟨isSomething, areDigits, isSmall⟩, same⟩ := Option.ite_none_right_eq_some.mp isSome
    obtain rfl := Option.some.inj same
    refine ⟨_, ?_, isSomething, List.all_eq_true.mp areDigits, rfl, isSmall⟩
    unfold afterPlusSign
    split
    · rename_i starts
      exact .inr starts
    · exact .inl rfl
  · rintro ⟨digits, isText, isSomething, areDigits, rfl, isSmall⟩
    have isAfterSign : afterPlusSign text.toList = digits := by
      rcases isText with isText | isText
      · rw [isText]
        unfold afterPlusSign
        split
        · exact absurd (areDigits '+' List.mem_cons_self) (by decide)
        · rfl
      · rw [isText, afterPlusSign]
    rw [isAfterSign, if_pos ⟨isSomething, List.all_eq_true.mpr areDigits, isSmall⟩]

/-! ## Truth values -/

/-- Whether a text is one of some small words in whatever case, perhaps between blanks. -/
def IsWordOf (words : List String) (text : String) : Prop :=
  ∃ front word back,
    text.toList = front ++ word ++ back ∧ AllBlank front ∧ AllBlank back ∧
      lowercase (String.ofList word) ∈ words

/-- The words for a truth value. -/
def truthWords : Bool → List String
  | true => ["1", "true", "yes", "on"]
  | false => ["0", "false", "no", "off"]

/-- A blank is no capital letter. -/
theorem toLower_of_isBlank {character : Char} (blank : isBlank character = true) :
    character.toLower = character := by
  refine toLower_eq_self (Bool.eq_false_iff.mpr fun isCapital => ?_)
  have bounds := of_decide_eq_true isCapital
  have least : 65 ≤ character.toNat := bounds.1
  have greatest : character.toNat ≤ 90 := bounds.2
  rw [isBlank_eq_false (by omega) (by omega)] at blank
  cases blank

/-- A text is one of some words if it is without the blanks around. -/
theorem isWordOf_iff {words : List String}
    (areVisible : ∀ word ∈ words, word.toList.all (fun character => !isBlank character) = true)
    (text : String) :
    IsWordOf words text ↔ lowercase (String.ofList (trimBlanks text.toList)) ∈ words := by
  constructor
  · rintro ⟨front, word, back, isText, areBlank, areBlankToo, isWord⟩
    have isVisible : ∀ character ∈ word, isBlank character = false := by
      intro character isIn
      refine Bool.eq_false_iff.mpr fun blank => ?_
      have isInSmall : character ∈ (lowercase (String.ofList word)).toList := by
        rw [lowercase, String.toList_map, String.toList_ofList, ← toLower_of_isBlank blank]
        exact List.mem_map_of_mem isIn
      have isVisible := List.all_eq_true.mp (areVisible _ isWord) character isInSmall
      rw [blank] at isVisible
      cases isVisible
    rw [isText, trimBlanks_append areBlank areBlankToo, trimBlanks_eq_self]
    · exact isWord
    · exact fun first isHead => isVisible first (List.mem_of_mem_head? isHead)
    · exact fun last isLast => isVisible last (List.mem_of_mem_getLast? isLast)
  · intro isWord
    obtain ⟨front, back, isText, areBlank, areBlankToo⟩ := exists_append_trimBlanks text.toList
    exact ⟨front, _, back, isText, areBlank, areBlankToo, isWord⟩

theorem Environment.boolean?_eq_some_iff {text : String} {value : Bool} :
    boolean? text = some value ↔ IsWordOf (truthWords value) text := by
  have areVisible :
      ∀ word ∈ truthWords value,
        word.toList.all (fun character => !isBlank character) = true := by
    cases value <;> decide
  have areApart : ∀ word ∈ truthWords true, word ∉ truthWords false := by decide
  rw [isWordOf_iff areVisible]
  unfold boolean?
  dsimp only
  generalize lowercase (String.ofList (trimBlanks text.toList)) = word
  change
    (if word ∈ truthWords true then some true
      else if word ∈ truthWords false then some false else none) = some value ↔
      word ∈ truthWords value
  split
  · rename_i isTrue
    cases value with
    | true => simp [isTrue]
    | false => simp [areApart word isTrue]
  · rename_i isNotTrue
    split
    · rename_i isFalse
      cases value <;> simp [isNotTrue, isFalse]
    · rename_i isNotFalse
      cases value <;> simp [isNotTrue, isNotFalse]

end EventQuery
