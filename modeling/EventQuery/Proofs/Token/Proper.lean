import EventQuery.Proofs.Expression.Shape
import EventQuery.Proofs.Number
import EventQuery.Proofs.Token.Items

/-!
# What tokens that were read can say

A token that was read off a text never names nothing, holds no backtick in its
name, and no number has a sign.
-/

namespace EventQuery

open Text

/-- What holds of every token that was read off a text. -/
structure Token.IsProper (token : Token) : Prop where
  name : ∀ {name : String}, token.name? = some name → IsName name
  isUnsigned :
    ∀ {value : Number}, token.content = .number value → value.isNegative = false

/-- A token that can stand for no name and is no number is proper. -/
theorem Token.isProper_of_plain {token : Token}
    (isNoName : token.name? = none)
    (isNoNumber : ∀ value : Number, token.content ≠ .number value) :
    token.IsProper where
  name := by
    intro name means
    rw [isNoName] at means
    cases means
  isUnsigned := fun means => absurd means (isNoNumber _)

/-! ## Words, symbols and numbers -/

theorem not_continuesWord_backtick : continuesWord '\x60' = false := by
  decide +kernel

/-- A word is a name: it holds its first character, and no backtick goes on with it. -/
theorem isName_scanWord {first : Char} {rest : List Char}
    (starts : startsWord first = true) :
    IsName (String.ofList (scanWord (first :: rest)).lexeme) := by
  constructor
  · simp [scanWord, List.takeWhile_cons_of_pos (continuesWord_of_startsWord starts)]
  · intro isIn
    simp only [scanWord, String.toList_ofList] at isIn
    have continues := List.all_eq_true.mp List.all_takeWhile _ isIn
    rw [not_continuesWord_backtick] at continues
    cases continues

theorem isProper_scanWord {first : Char} {rest : List Char} {position : Position}
    (starts : startsWord first = true) :
    Token.IsProper
      ⟨(scanWord (first :: rest)).content,
        String.ofList (scanWord (first :: rest)).lexeme, position⟩ := by
  have isName := @isName_scanWord first rest starts
  constructor
  · intro name means
    rcases Token.name?_eq_some_iff.mp means with ⟨isQuoted, isSame⟩ | ⟨word, _, _, isText⟩
    · rcases content_scanWord (first :: rest) with ⟨word, isWord⟩ | isWritten
      · cases isWord.symm.trans isSame
      · cases isWritten.symm.trans isSame
        exact isName
    · exact isText ▸ isName
  · intro value isNumber
    rcases content_scanWord (first :: rest) with ⟨word, isWord⟩ | isWritten
    · cases isWord.symm.trans isNumber
    · cases isWritten.symm.trans isNumber

/-- A symbol can stand for no name and is no number. -/
theorem isProper_narrowSymbol? {character : Char} {content : TokenContent} {text : String}
    {position : Position}
    (isSymbol : narrowSymbol? character = some content) :
    Token.IsProper ⟨content, text, position⟩ := by
  cases isSymbol_of_narrowSymbol? isSymbol <;>
    exact Token.isProper_of_plain rfl fun _ => TokenContent.noConfusion

/-- A whole number that is made of digits alone is not negative. -/
theorem isNegative_ofInt?_natCast {digits : Nat} {value : Number}
    (isValue : Number.ofInt? (digits : Int) = some value) :
    value.isNegative = false := by
  obtain ⟨whole, rfl, equal⟩ := Number.ofInt?_eq_some_iff.mp isValue
  refine decide_eq_false ?_
  omega

/-! ## Streams -/

theorem isProper_scan
    {first : Char} {rest : List Char} {scanned : Scanned} {position : Position}
    (found : scan first rest = .ok scanned) :
    Token.IsProper ⟨scanned.content, String.ofList scanned.lexeme, position⟩ := by
  have scans := scansTo_scan first rest
  rw [found] at scans
  cases scans with
  | string isQuote closes =>
      exact Token.isProper_of_plain rfl fun _ => TokenContent.noConfusion
  | quotedName isQuote isNonempty isPlain isRest =>
      refine ⟨fun means => ?_, fun means => (by cases means)⟩
      cases means
      constructor
      · simpa using isNonempty
      · rw [String.toList_ofList]
        exact isPlain
  | decimal isDigit isFraction =>
      refine ⟨fun means => (by cases means), fun means => ?_⟩
      cases means
      rfl
  | whole isDigit isNoFraction fits =>
      refine ⟨fun means => (by cases means), fun means => ?_⟩
      cases means
      exact isNegative_ofInt?_natCast fits
  | word starts => exact isProper_scanWord starts
  | wideSymbol isRest isWide =>
      exact Token.isProper_of_plain rfl fun _ => TokenContent.noConfusion
  | narrowSymbol isSymbol => exact isProper_narrowSymbol? isSymbol

theorem Token.IsScanned.isProper {token : Token} (isScanned : token.IsScanned) :
    token.IsProper := by
  obtain ⟨content, text, position⟩ := token
  obtain ⟨first, rest, scanned, found, rfl, rfl⟩ := isScanned
  exact isProper_scan found

/-- Every token that is read off a text is proper. -/
theorem TokenStream.isProper_ofSource
    {source : String} {limit : Option Nat} {token : Token}
    (isIn : token ∈ (ofSource source limit).tokens) :
    token.IsProper :=
  (isScanned_of_mem isIn).isProper

/-- Every token of a run is proper. -/
def AreProper (tokens : List Token) : Prop :=
  ∀ token ∈ tokens, token.IsProper

theorem areProper_append {first second : List Token} :
    AreProper (first ++ second) ↔ AreProper first ∧ AreProper second :=
  List.forall_mem_append

theorem areProper_cons {token : Token} {tokens : List Token} :
    AreProper (token :: tokens) ↔ token.IsProper ∧ AreProper tokens :=
  List.forall_mem_cons

end EventQuery
