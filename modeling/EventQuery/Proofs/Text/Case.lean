import EventQuery.Text.Case

/-!
# Facts about letter case

Making a text small changes only its capital letters, and gives small letters
for them.  So a text without letters agrees only with itself.
-/

namespace EventQuery.Text

theorem toLower_eq_self {character : Char} (isNoCapital : character.isUpper = false) :
    character.toLower = character := by
  exact dif_neg (of_decide_eq_false isNoCapital)

/-- A small letter stands 32 places behind its capital one. -/
theorem toNat_toLower {character : Char} (isCapital : character.isUpper = true) :
    character.toLower.toNat = character.toNat + 32 ∧
      65 ≤ character.toNat ∧ character.toNat ≤ 90 := by
  have bounds := of_decide_eq_true isCapital
  have least : 65 ≤ character.toNat := bounds.1
  have greatest : character.toNat ≤ 90 := bounds.2
  have sum : (character.val + ('a'.val - 'A'.val)).toNat = character.toNat + 32 := by
    rw [UInt32.toNat_add]
    exact Nat.mod_eq_of_lt (by simp; omega)
  exact ⟨(congrArg Char.toNat (dif_pos bounds)).trans sum, least, greatest⟩

theorem eq_of_toLower_eq
    {character symbol : Char}
    (equal : character.toLower = symbol)
    (isNoSmall : symbol.isLower = false) :
    character = symbol := by
  cases isCapital : character.isUpper with
  | false => exact (toLower_eq_self isCapital).symm.trans equal
  | true =>
      obtain ⟨isShifted, least, greatest⟩ := toNat_toLower isCapital
      rw [equal] at isShifted
      have isSmall : symbol.isLower = true := by
        refine Bool.and_eq_true_iff.mpr ⟨decide_eq_true ?_, decide_eq_true ?_⟩
        · change 97 ≤ symbol.toNat
          omega
        · change symbol.toNat ≤ 122
          omega
      rw [isSmall] at isNoSmall
      cases isNoSmall

theorem eq_of_map_toLower_eq
    {characters symbols : List Char}
    (equal : characters.map Char.toLower = symbols)
    (haveNoSmall : ∀ symbol ∈ symbols, symbol.isLower = false) :
    characters = symbols := by
  induction characters generalizing symbols with
  | nil => exact equal
  | cons character characters ih =>
      cases symbols with
      | nil => cases equal
      | cons symbol symbols =>
          obtain ⟨headEqual, tailEqual⟩ := List.cons.inj equal
          rw [eq_of_toLower_eq headEqual (haveNoSmall symbol List.mem_cons_self),
            ih tailEqual fun other isIn => haveNoSmall other (List.mem_cons_of_mem _ isIn)]

theorem agreeIgnoringCase_iff {first second : String} :
    agreeIgnoringCase first second = true ↔
      first.toList.map Char.toLower = second.toList.map Char.toLower := by
  unfold agreeIgnoringCase lowercase
  rw [beq_iff_eq, ← String.toList_inj, String.toList_map, String.toList_map]

/-- A text without letters agrees only with itself. -/
theorem agreeIgnoringCase_iff_eq
    {symbols text : String}
    (haveNoCapital : ∀ symbol ∈ symbols.toList, symbol.isUpper = false)
    (haveNoSmall : ∀ symbol ∈ symbols.toList, symbol.isLower = false) :
    agreeIgnoringCase symbols text = true ↔ text = symbols := by
  rw [agreeIgnoringCase_iff]
  have isUnchanged : symbols.toList.map Char.toLower = symbols.toList := by
    refine (List.map_congr_left fun symbol isIn => ?_).trans (List.map_id _)
    exact toLower_eq_self (haveNoCapital symbol isIn)
  rw [isUnchanged]
  constructor
  · intro equal
    exact String.toList_inj.mp (eq_of_map_toLower_eq equal.symm haveNoSmall)
  · rintro rfl
    exact isUnchanged.symm

/-- A capital letter and its small one take up as many bytes. -/
theorem utf8Size_toLower (character : Char) :
    character.toLower.utf8Size = character.utf8Size := by
  cases isCapital : character.isUpper with
  | false => rw [toLower_eq_self isCapital]
  | true =>
      obtain ⟨isShifted, least, greatest⟩ := toNat_toLower isCapital
      have isShort {other : Char} (isAscii : other.toNat ≤ 127) : other.utf8Size = 1 :=
        Char.utf8Size_eq_one_iff.mpr isAscii
      rw [isShort (by omega), isShort (by omega)]

/-- Texts that differ in the case of letters only take up as many bytes. -/
theorem utf8ByteSize_eq_of_agreeIgnoringCase {first second : String}
    (agree : agreeIgnoringCase first second = true) :
    first.utf8ByteSize = second.utf8ByteSize := by
  have isKept (characters : List Char) :
      (String.ofList (characters.map Char.toLower)).utf8ByteSize =
        (String.ofList characters).utf8ByteSize := by
    induction characters with
    | nil => rfl
    | cons character characters ih =>
        rw [List.map_cons, String.ofList_cons, String.ofList_cons, String.utf8ByteSize_append,
          String.utf8ByteSize_append, String.utf8ByteSize_singleton,
          String.utf8ByteSize_singleton, utf8Size_toLower, ih]
  have sameSmall := congrArg (fun characters => (String.ofList characters).utf8ByteSize)
    (agreeIgnoringCase_iff.mp agree)
  simpa only [isKept, String.ofList_toList] using sameSmall

end EventQuery.Text
