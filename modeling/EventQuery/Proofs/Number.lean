import EventQuery.Number

/-!
# Numbers and their opposites

The least whole number is the only number without an opposite, and no other
number is its opposite.
-/

namespace EventQuery.Number

/-- The rank of the magnitude of a decimal; whole numbers have none. -/
def rank? : Number → Option Nat
  | integer _ => none
  | float value => some value.rank

theorem ofInt?_eq_some_iff {value : Int} {number : Number} :
    ofInt? value = some number ↔
      ∃ whole : Int64, number = .integer whole ∧ whole.toInt = value := by
  unfold ofInt?
  split
  · rename_i bounds
    simp only [Option.some.injEq]
    constructor
    · rintro rfl
      exact ⟨_, rfl, Int64.toInt_ofIntLE⟩
    · rintro ⟨whole, rfl, rfl⟩
      rw [Int64.ofIntLE_toInt]
  · rename_i outside
    simp only [reduceCtorEq, false_iff, not_exists, not_and]
    rintro whole rfl rfl
    exact outside ⟨whole.minValue_le_toInt, whole.toInt_le⟩

theorem exists_ofInt? {value : Int}
    (isAbove : Int64.minValue.toInt ≤ value)
    (isBelow : value ≤ Int64.maxValue.toInt) :
    ∃ number, ofInt? value = some number := by
  unfold ofInt?
  rw [dif_pos ⟨isAbove, isBelow⟩]
  exact ⟨_, rfl⟩

theorem minValue_lt_toInt {whole : Int64} (isNotLeast : whole ≠ Int64.minValue) :
    Int64.minValue.toInt < whole.toInt := by
  have least := whole.minValue_le_toInt
  have differs : whole.toInt ≠ Int64.minValue.toInt :=
    fun equal => isNotLeast (Int64.toInt_inj.mp equal)
  omega

/-- Every number but the least whole one has an opposite. -/
theorem exists_opposite {number : Number}
    (isNotLeast : number ≠ .integer Int64.minValue) :
    ∃ opposite, number.negate? = some opposite := by
  cases number with
  | integer whole =>
      have above : Int64.minValue.toInt < whole.toInt :=
        minValue_lt_toInt fun equal => isNotLeast (by rw [equal])
      have below := whole.toInt_le
      rw [Int64.toInt_minValue] at above
      apply exists_ofInt?
      · rw [Int64.toInt_minValue]
        rw [Int64.toInt_maxValue] at below
        omega
      · rw [Int64.toInt_maxValue]
        omega
  | float value => exact ⟨_, rfl⟩

/-- No number has the least whole one as its opposite. -/
theorem opposite_ne_minValue {number opposite : Number}
    (isOpposite : number.negate? = some opposite) :
    opposite ≠ .integer Int64.minValue := by
  rintro rfl
  cases number with
  | integer whole =>
      obtain ⟨least, equal, value⟩ := ofInt?_eq_some_iff.mp isOpposite
      cases equal
      have below := whole.toInt_le
      rw [Int64.toInt_maxValue] at below
      rw [Int64.toInt_minValue] at value
      omega
  | float value => cases isOpposite

end EventQuery.Number
