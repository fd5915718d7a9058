import EventQuery.Operator
import EventQuery.Proofs.Text.Case

/-!
# Symbols of operators

Which texts are taken for an arithmetic operator.
-/

namespace EventQuery

theorem Arithmetic.symbol_has_no_letter (operator : Arithmetic) :
    operator.symbol.toList.all (fun symbol => !symbol.isUpper && !symbol.isLower) = true := by
  cases operator <;> decide

/-- No text but the symbol itself is taken for an arithmetic operator. -/
theorem BinaryOperator.ofSymbol?_eq_arithmetic_iff
    {text : String} {operator : Arithmetic} :
    ofSymbol? text = some (.arithmetic operator) ↔ text = operator.symbol := by
  constructor
  · intro found
    have agrees := List.find?_some found
    have hasNoLetter := List.all_eq_true.mp operator.symbol_has_no_letter
    refine (Text.agreeIgnoringCase_iff_eq (fun symbol isIn => ?_) fun symbol isIn => ?_).mp agrees
    · simpa using (Bool.and_eq_true_iff.mp (hasNoLetter symbol isIn)).1
    · simpa using (Bool.and_eq_true_iff.mp (hasNoLetter symbol isIn)).2
  · rintro rfl
    cases operator <;> decide +kernel

end EventQuery
