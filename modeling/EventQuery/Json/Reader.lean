import EventQuery.Decimal.Digits
import EventQuery.Json.Value
import EventQuery.Text.Reading

/-!
# Reading JSON text

The grammar of JSON, with nothing added.  A number without point and exponent
is an integer if it fits into 64 bits, signed or unsigned; every other number
is binary64, also the negative zero, and must not overflow.
-/

namespace EventQuery.Json

open EventQuery.Text

/-- The blanks between the tokens of JSON. -/
def isSpace (character : Char) : Bool :=
  character == ' ' || character == '\n' || character == '\r' || character == '\t'

/-- The characters after the blanks at the start. -/
def afterSpaces (characters : List Char) : List Char :=
  characters.dropWhile isSpace

theorem length_lt_of_afterSpaces
    {characters rest : List Char}
    {first : Char}
    (equality : afterSpaces characters = first :: rest) :
    rest.length < characters.length := by
  have bound := length_dropWhile_le isSpace characters
  unfold afterSpaces at equality
  rw [equality, List.length_cons] at bound
  omega

/-- The character of a short escape. -/
def shortEscape? : Char → Option Char
  | '"' => some '"'
  | '\\' => some '\\'
  | '/' => some '/'
  | 'b' => some '\x08'
  | 'f' => some '\x0c'
  | 'n' => some '\n'
  | 'r' => some '\r'
  | 't' => some '\t'
  | _ => none

/-- The character of a pair of surrogates. -/
def surrogatePair? (high low : Nat) : Option Char :=
  if 0xD800 ≤ high ∧ high < 0xDC00 ∧ 0xDC00 ≤ low ∧ low < 0xE000 then
    scalar? (0x10000 + (high - 0xD800) * 0x400 + (low - 0xDC00))
  else
    none

/-- The characters of a reading with one more in front. -/
def prepend
    (character : Char)
    (result : Option (List Char × List Char)) :
    Option (List Char × List Char) :=
  result.map fun read => (character :: read.1, read.2)

theorem exists_of_prepend
    {character : Char}
    {result : Option (List Char × List Char)}
    {value rest : List Char}
    (found : prepend character result = some (value, rest)) :
    ∃ inner, result = some (inner, rest) := by
  obtain ⟨⟨inner, after⟩, equality, same⟩ := Option.map_eq_some_iff.1 found
  simp only [Prod.mk.injEq] at same
  exact ⟨inner, same.2 ▸ equality⟩

/-- The characters of a string up to its closing quote, and the rest. -/
def readString : List Char → Option (List Char × List Char)
  | [] => none
  | '"' :: rest => some ([], rest)
  | '\\' :: 'u' :: a :: b :: c :: d :: rest =>
      match hexNumber? [a, b, c, d] with
      | none => none
      | some unit =>
          match scalar? unit with
          | some character =>
              prepend character (readString rest)
          | none =>
              match rest with
              | '\\' :: 'u' :: e :: f :: g :: h :: after =>
                  match (hexNumber? [e, f, g, h]).bind (surrogatePair? unit) with
                  | none => none
                  | some character =>
                      prepend character (readString after)
              | _ => none
  | '\\' :: escape :: rest =>
      match shortEscape? escape with
      | none => none
      | some character =>
          prepend character (readString rest)
  | character :: rest =>
      if character.toNat < 0x20 || character == '\\' then
        none
      else
        prepend character (readString rest)

theorem length_lt_of_readString
    {characters value rest : List Char}
    (found : readString characters = some (value, rest)) :
    rest.length < characters.length := by
  fun_induction readString characters generalizing value
  case case2 =>
      simp only [Option.some.injEq, Prod.mk.injEq] at found
      simp [found.2]
  case case4 ih | case6 ih | case9 ih | case11 ih =>
      obtain ⟨inner, equality⟩ := exists_of_prepend found
      have shorter := ih equality
      simp only [List.length_cons]
      omega
  all_goals simp at found

/-- A number as it is written: its sign, its digits and its power of ten. -/
structure NumberText where
  negative : Bool
  whole : List Char
  /-- The digits after the point, if there is one. -/
  fraction : Option (List Char)
  /-- The power of ten, if one is given. -/
  exponent : Option Int

/-- The decimal digits at the start, at least one, and the rest. -/
def readDigits (characters : List Char) : Option (List Char × List Char) :=
  match characters.takeWhile Char.isDigit with
  | [] => none
  | digits => some (digits, characters.dropWhile Char.isDigit)

/-- The digits before the point: no zero stands in front of others. -/
def readWhole (characters : List Char) : Option (List Char × List Char) :=
  match readDigits characters with
  | some ('0' :: _ :: _, _) => none
  | result => result

/-- The digits after a point, if there is a point. -/
def readFraction
    (characters : List Char) :
    Option (Option (List Char) × List Char) :=
  match characters with
  | '.' :: rest => (readDigits rest).map fun read => (some read.1, read.2)
  | _ => some (none, characters)

/-- The power of ten after its letter, with or without a sign. -/
def readPower (characters : List Char) : Option (Int × List Char) :=
  match characters with
  | '+' :: rest =>
      (readDigits rest).map fun read => (Decimal.ofDigits read.1, read.2)
  | '-' :: rest =>
      (readDigits rest).map fun read => (-Decimal.ofDigits read.1, read.2)
  | _ =>
      (readDigits characters).map fun read => (Decimal.ofDigits read.1, read.2)

/-- The power of ten, if its letter comes first. -/
def readExponent (characters : List Char) : Option (Option Int × List Char) :=
  match characters with
  | 'e' :: rest => (readPower rest).map fun read => (some read.1, read.2)
  | 'E' :: rest => (readPower rest).map fun read => (some read.1, read.2)
  | _ => some (none, characters)

/-- A number at the start, and the rest. -/
def readNumber (characters : List Char) : Option (NumberText × List Char) := do
  let negative := characters.head? == some '-'
  let unsigned := if negative then characters.drop 1 else characters
  let (whole, afterWhole) ← readWhole unsigned
  let (fraction, afterFraction) ← readFraction afterWhole
  let (exponent, rest) ← readExponent afterFraction
  pure (⟨negative, whole, fraction, exponent⟩, rest)

/-- Whether an integer fits into 64 bits, with or without a sign. -/
def isIntegerRange (value : Int) : Bool :=
  Int64.minValue.toInt ≤ value && value < UInt64.size

/-- The value of a number, unless it overflows. -/
def NumberText.value? (number : NumberText) : Option Json :=
  let fraction := number.fraction.getD []
  let significand := Decimal.ofDigits (number.whole ++ fraction)
  let signed : Int := if number.negative then -significand else significand
  let isWhole := number.fraction.isNone && number.exponent.isNone
  let isNegativeZero := number.negative && significand == 0
  if isWhole && !isNegativeZero && isIntegerRange signed then
    some (.integer signed)
  else
    let value :=
      Decimal.Binary64.ofDecimal number.negative significand
        (number.exponent.getD 0 - fraction.length)
    if value.isFinite then some (.float value) else none

/-- The characters after a word, if it comes first. -/
def afterWord? (word : List Char) (characters : List Char) : Option (List Char) :=
  if word.isPrefixOf characters then some (characters.drop word.length) else none

/-- A truth value, the null or a number at the start, and the rest. -/
def readAtom (characters : List Char) : Option (Json × List Char) :=
  match afterWord? ['n', 'u', 'l', 'l'] characters with
  | some rest => some (.null, rest)
  | none =>
      match afterWord? ['t', 'r', 'u', 'e'] characters with
      | some rest => some (.boolean true, rest)
      | none =>
          match afterWord? ['f', 'a', 'l', 's', 'e'] characters with
          | some rest => some (.boolean false, rest)
          | none => do
              let (number, rest) ← readNumber characters
              let value ← number.value?
              pure (value, rest)

mutual

/-- A value at the start, after blanks. -/
def readValue (characters : List Char) : Option (Read Json characters.length) :=
  match equality : afterSpaces characters with
  | '"' :: rest =>
      match found : readString rest with
      | none => none
      | some (value, after) =>
          have := length_lt_of_afterSpaces equality
          have := length_lt_of_readString found
          some ⟨.string (String.ofList value), after, by omega⟩
  | '[' :: rest =>
      have shorter := length_lt_of_afterSpaces equality
      match closing : afterSpaces rest with
      | ']' :: after =>
          have := length_lt_of_afterSpaces closing
          some ⟨.array [], after, by omega⟩
      | _ =>
          (readItems rest).map fun read =>
            (read.map Json.array).widen (Nat.le_of_lt shorter)
  | '\x7b' :: rest =>
      have shorter := length_lt_of_afterSpaces equality
      match closing : afterSpaces rest with
      | '\x7d' :: after =>
          have := length_lt_of_afterSpaces closing
          some ⟨.object [], after, by omega⟩
      | _ =>
          (readFields rest).map fun read =>
            (read.map Json.object).widen (Nat.le_of_lt shorter)
  | other => bounded characters.length (readAtom other)
termination_by (characters.length, 0)

/-- The items of an array up to its closing bracket. -/
def readItems (characters : List Char) :
    Option (Read (List Json) characters.length) :=
  match readValue characters with
  | none => none
  | some first =>
      match equality : afterSpaces first.rest with
      | ']' :: rest =>
          have := length_lt_of_afterSpaces equality
          have := first.length_lt
          some ⟨[first.value], rest, by omega⟩
      | ',' :: rest =>
          have := length_lt_of_afterSpaces equality
          have := first.length_lt
          (readItems rest).map fun read =>
            (read.map (first.value :: ·)).widen (by omega)
      | _ => none
termination_by (characters.length, 1)

/-- The fields of an object up to its closing brace. -/
def readFields (characters : List Char) :
    Option (Read (List (String × Json)) characters.length) :=
  match opening : afterSpaces characters with
  | '"' :: nameText =>
      match named : readString nameText with
      | none => none
      | some (name, afterName) =>
          match colon : afterSpaces afterName with
          | ':' :: valueText =>
              have := length_lt_of_afterSpaces opening
              have := length_lt_of_readString named
              have := length_lt_of_afterSpaces colon
              match readValue valueText with
              | none => none
              | some value =>
                  have := value.length_lt
                  let field := (String.ofList name, value.value)
                  match ending : afterSpaces value.rest with
                  | '\x7d' :: rest =>
                      have := length_lt_of_afterSpaces ending
                      some ⟨[field], rest, by omega⟩
                  | ',' :: rest =>
                      have := length_lt_of_afterSpaces ending
                      (readFields rest).map fun read =>
                        (read.map (field :: ·)).widen (by omega)
                  | _ => none
          | _ => none
  | _ => none
termination_by (characters.length, 1)

end

/-- The value that a text writes, if it is JSON. -/
def ofText? (text : String) : Option Json :=
  match readValue text.toList with
  | none => none
  | some read => if (afterSpaces read.rest).isEmpty then some read.value else none

end EventQuery.Json
