import EventQuery.Token.Scan

/-!
# The ways to read one token

`ScansTo` lists all that reading one token can come to, and under which
conditions it does.  What is shown of all tokens or of all faults is shown case
by case along this list, and opens no scanner again.
-/

namespace EventQuery

open Text

/-- What reading a token that starts with a character can come to. -/
inductive ScansTo (first : Char) (rest : List Char) : Except LexFault Scanned → Prop where
  | string {body : StringBody}
      (isQuote : isStringQuote first = true)
      (closes : scanString first rest = some body) :
      ScansTo first rest
        (.ok ⟨.string (String.ofList body.value), first :: body.lexeme, body.rest⟩)
  | unterminatedString
      (isQuote : isStringQuote first = true)
      (isOpen : scanString first rest = none) :
      ScansTo first rest (.error (.unterminatedString first))
  | quotedName {name after : List Char}
      (isQuote : first = '\x60')
      (isNonempty : name ≠ [])
      (isPlain : '\x60' ∉ name)
      (isRest : rest = name ++ '\x60' :: after) :
      ScansTo first rest
        (.ok ⟨.name (String.ofList name) true, '\x60' :: name ++ ['\x60'], after⟩)
  | emptyName {after : List Char}
      (isQuote : first = '\x60')
      (isRest : rest = '\x60' :: after) :
      ScansTo first rest (.error .emptyName)
  | unterminatedName
      (isQuote : first = '\x60')
      (isOpen : '\x60' ∉ rest) :
      ScansTo first rest (.error .unterminatedName)
  | decimal {fraction after : List Char}
      (isDigit : first.isDigit = true)
      (isFraction : fraction? (afterDigits (first :: rest)) = some (fraction, after)) :
      ScansTo first rest
        (.ok
          ⟨.number
            (.float
              (Decimal.Binary64.ofDecimal false
                (Decimal.ofDigits (leadingDigits (first :: rest) ++ fraction))
                (-fraction.length))),
            leadingDigits (first :: rest) ++ '.' :: fraction, after⟩)
  | whole {value : Number}
      (isDigit : first.isDigit = true)
      (isNoFraction : fraction? (afterDigits (first :: rest)) = none)
      (fits :
        Number.ofInt? (Decimal.ofDigits (leadingDigits (first :: rest))) = some value) :
      ScansTo first rest
        (.ok ⟨.number value, leadingDigits (first :: rest), afterDigits (first :: rest)⟩)
  | numberOutOfRange
      (isDigit : first.isDigit = true)
      (isNoFraction : fraction? (afterDigits (first :: rest)) = none)
      (isTooLarge : Number.ofInt? (Decimal.ofDigits (leadingDigits (first :: rest))) = none) :
      ScansTo first rest (.error (.numberOutOfRange (leadingDigits (first :: rest))))
  | word
      (starts : startsWord first = true) :
      ScansTo first rest (.ok (scanWord (first :: rest)))
  | unterminatedComment
      (isSlash : first = '/')
      (isStar : rest.head? = some '*') :
      ScansTo first rest (.error .unterminatedComment)
  | wideSymbol {second : Char} {others : List Char} {comparison : Comparison}
      (isRest : rest = second :: others)
      (isWide : wideComparison? first second = some comparison) :
      ScansTo first rest (.ok ⟨.comparison comparison, [first, second], others⟩)
  | narrowSymbol {content : TokenContent}
      (isSymbol : narrowSymbol? first = some content) :
      ScansTo first rest (.ok ⟨content, [first], rest⟩)
  | strayCharacter
      (isNoSymbol : narrowSymbol? first = none) :
      ScansTo first rest (.error (.strayCharacter first))

theorem scansTo_scanQuotedName (rest : List Char) :
    ScansTo '\x60' rest (scanQuotedName rest) := by
  have split := List.takeWhile_append_dropWhile (p := (· != '\x60')) (l := rest)
  have isPlain : '\x60' ∉ rest.takeWhile (· != '\x60') := by
    intro isIn
    have isNoQuote := List.all_eq_true.mp List.all_takeWhile _ isIn
    simp at isNoQuote
  unfold scanQuotedName
  cases remainder : rest.dropWhile (· != '\x60') with
  | nil =>
      rw [remainder, List.append_nil] at split
      exact .unterminatedName rfl (split ▸ isPlain)
  | cons quote after =>
      obtain rfl : quote = '\x60' := by
        have stops := List.head?_dropWhile_not (· != '\x60') rest
        rw [remainder] at stops
        simpa using stops
      rw [remainder] at split
      dsimp only
      split
      · rename_i isEmpty
        rw [List.isEmpty_iff.mp isEmpty] at split
        exact .emptyName rfl split.symm
      · rename_i isNonempty
        exact .quotedName rfl (by simpa using isNonempty) isPlain split.symm

/-- A token that starts with a digit is a number. -/
theorem scan_of_isDigit {first : Char} (isDigit : first.isDigit = true) (others : List Char) :
    scan first others = scanNumber (first :: others) := by
  have isNoQuote : isStringQuote first = false := by
    simp only [isStringQuote, Bool.or_eq_false_iff, beq_eq_false_iff_ne]
    constructor <;> rintro rfl <;> cases isDigit
  have isNoBacktick : first ≠ '\x60' := by
    rintro rfl
    cases isDigit
  unfold scan
  rw [if_neg (by simp [isNoQuote]), if_neg isNoBacktick, if_pos isDigit]

theorem scansTo_scanNumber {first : Char} {rest : List Char}
    (isDigit : first.isDigit = true) :
    ScansTo first rest (scanNumber (first :: rest)) := by
  unfold scanNumber
  cases isFraction : fraction? (afterDigits (first :: rest)) with
  | some pair => exact .decimal isDigit isFraction
  | none =>
      dsimp only
      cases fits : Number.ofInt? (Decimal.ofDigits (leadingDigits (first :: rest))) with
      | some value => exact .whole isDigit isFraction fits
      | none => exact .numberOutOfRange isDigit isFraction fits

theorem scansTo_scanNarrow (first : Char) (rest : List Char) :
    ScansTo first rest (scanNarrow first rest) := by
  unfold scanNarrow
  cases isSymbol : narrowSymbol? first with
  | some content => exact .narrowSymbol isSymbol
  | none => exact .strayCharacter isSymbol

theorem scansTo_scanSymbol (first : Char) (rest : List Char) :
    ScansTo first rest (scanSymbol first rest) := by
  unfold scanSymbol
  cases rest with
  | nil => exact scansTo_scanNarrow first []
  | cons second others =>
      dsimp only
      cases isWide : wideComparison? first second with
      | some comparison => exact .wideSymbol rfl isWide
      | none => exact scansTo_scanNarrow first (second :: others)

/-- Reading a token comes to one of the listed results. -/
theorem scansTo_scan (first : Char) (rest : List Char) :
    ScansTo first rest (scan first rest) := by
  rw [scan, readString_start]
  split
  · rename_i isQuote
    cases closes : scanString first rest with
    | some body => exact .string isQuote closes
    | none => exact .unterminatedString isQuote closes
  split
  · rename_i isQuote
    subst isQuote
    exact scansTo_scanQuotedName rest
  split
  · exact scansTo_scanNumber ‹_›
  split
  · exact .word ‹_›
  split
  · rename_i isComment
    exact .unterminatedComment isComment.1 isComment.2
  · exact scansTo_scanSymbol first rest

end EventQuery
