import EventQuery.Proofs.Token.Scan
import EventQuery.Token

/-!
# What a token can stand for

A token stands for a name, a string, a number, a truth value, a unit of time or an
amount exactly if its content is of the matching kind.  A word that was read off
characters is a keyword or else a name, and a symbol of one character is a mark or
an operator.
-/

namespace EventQuery

namespace Token

variable {token : Token}

/-- A token stands for a name if it is one, or a word that is not reserved. -/
theorem name?_eq_some_iff {name : String} :
    token.name? = some name ↔
      (∃ isQuoted, token.content = .name name isQuoted) ∨
        ∃ word, token.content = .keyword word ∧ word.isReserved = false ∧
          token.text = name := by
  unfold name?
  cases token.content with
  | keyword word => cases isReserved : word.isReserved <;> simp [isReserved]
  | _ => simp

theorem string?_eq_some_iff {value : String} :
    token.string? = some value ↔ token.content = .string value := by
  unfold string?
  cases token.content <;> simp

theorem number?_eq_some_iff {value : Number} :
    token.number? = some value ↔ token.content = .number value := by
  unfold number?
  cases token.content <;> simp

theorem exists_name_of_boolean? {value : Bool} (means : token.boolean? = some value) :
    ∃ name, token.content = .name name false := by
  unfold boolean? at means
  split at means
  · exact ⟨_, ‹_›⟩
  · cases means

theorem timeUnit?_eq_some_iff {unit : TimeUnit} :
    token.timeUnit? = some unit ↔ token.content = .keyword (.unitWord unit) := by
  unfold timeUnit?
  split <;> simp_all

/-- A token gives an amount if it is a positive whole number. -/
theorem amount?_eq_some_iff {amount : UInt64} :
    token.amount? = some amount ↔
      ∃ value : Int64, token.content = .number (.integer value) ∧ 0 < value.toInt ∧
        value.toUInt64 = amount := by
  unfold amount?
  split <;> simp_all

end Token

/-! ## Words and symbols -/

/-- A word says the keyword that it spells, or else the name that it is. -/
theorem content_scanWord (characters : List Char) :
    (∃ keyword, (scanWord characters).content = .keyword keyword) ∨
      (scanWord characters).content =
        .name (String.ofList (scanWord characters).lexeme) false := by
  unfold scanWord
  dsimp only
  split
  · exact .inl ⟨_, rfl⟩
  · exact .inr rfl

/-- What a symbol can say. -/
inductive TokenContent.IsSymbol : TokenContent → Prop where
  | comparison (operator : Comparison) : IsSymbol (.comparison operator)
  | arithmetic (operator : Arithmetic) : IsSymbol (.arithmetic operator)
  | comma : IsSymbol .comma
  | leftParenthesis : IsSymbol .leftParenthesis
  | rightParenthesis : IsSymbol .rightParenthesis

theorem isSymbol_of_narrowSymbol? {character : Char} {content : TokenContent}
    (means : narrowSymbol? character = some content) :
    content.IsSymbol := by
  unfold narrowSymbol? at means
  split at means <;> cases means <;> constructor

end EventQuery
