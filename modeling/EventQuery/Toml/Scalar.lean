import EventQuery.Decimal.Binary64
import EventQuery.Text.Reading
import EventQuery.Time.Calendar
import EventQuery.Toml.Value

/-!
# Numbers, truth values, dates and times

Every value without quotes or brackets is one run of characters, except that a
single space may stand between a date and a time.  A run is taken whole and has
to match one of the forms.
-/

namespace EventQuery.Toml

open EventQuery.Text

/-- The characters of runs. -/
def isRunCharacter (character : Char) : Bool :=
  character.isAlphanum || character == '_' || character == '+' ||
    character == '-' || character == '.' || character == ':'

/-- Digits of some kind, where an underscore may stand between two of them. -/
def isGrouped (isDigit : Char → Bool) : List Char → Bool
  | [] => false
  | [digit] => isDigit digit
  | digit :: '_' :: rest => isDigit digit && isGrouped isDigit rest
  | digit :: rest => isDigit digit && isGrouped isDigit rest

/-- A run without its underscores. -/
def ungrouped (characters : List Char) : List Char :=
  characters.filter (· != '_')

/-- Whether a sign is negative, and the characters after it. -/
def afterSign : List Char → Bool × List Char
  | '-' :: rest => (true, rest)
  | '+' :: rest => (false, rest)
  | rest => (false, rest)

/-- Whether a run is a whole number without sign: no zero stands in front of others. -/
def isWhole (characters : List Char) : Bool :=
  isGrouped Char.isDigit characters &&
    (characters.length == 1 || characters.head? != some '0')

/-- The integer itself if it fits into 64 bits. -/
def inRange? (value : Int) : Option Toml :=
  if Int64.minValue.toInt ≤ value ∧ value ≤ Int64.maxValue.toInt then
    some (.integer value)
  else
    none

/-- The number that digits of a base write; the digits are known to be valid. -/
def ofBase (base : Nat) (characters : List Char) : Nat :=
  (ungrouped characters).foldl
    (fun value character => value * base + (hexDigit? character).getD 0) 0

/-- Whether a character is a digit of a base up to sixteen. -/
def isDigitOf (base : Nat) (character : Char) : Bool :=
  match hexDigit? character with
  | some value => value < base
  | none => false

/-- An integer in a base other than ten, after its prefix. -/
def basedInteger? (base : Nat) (characters : List Char) : Option Toml :=
  if isGrouped (isDigitOf base) characters then
    inRange? (ofBase base characters)
  else
    none

/-- An integer. -/
def integer? (run : List Char) : Option Toml :=
  match run with
  | '0' :: 'x' :: digits => basedInteger? 16 digits
  | '0' :: 'o' :: digits => basedInteger? 8 digits
  | '0' :: 'b' :: digits => basedInteger? 2 digits
  | _ =>
      let (negative, digits) := afterSign run
      if isWhole digits then
        let value : Int := ofBase 10 digits
        inRange? (if negative then -value else value)
      else
        none

/-- Whether a character is the letter in front of a power of ten. -/
def isPowerMark (character : Char) : Bool :=
  character == 'e' || character == 'E'

/-- The digits after the point; none if there is no point, and no answer if they are malformed. -/
def fractionDigits? : List Char → Option (List Char)
  | [] => some []
  | '.' :: digits =>
      if isGrouped Char.isDigit digits then some (ungrouped digits) else none
  | _ => none

/-- The power of ten after its letter; zero if there is no letter. -/
def power? : List Char → Option Int
  | [] => some 0
  | _ :: rest =>
      let (negative, digits) := afterSign rest
      if isGrouped Char.isDigit digits then
        let value : Int := ofBase 10 digits
        some (if negative then -value else value)
      else
        none

/-- A decimal number with a point or a power of ten.  Positive numbers must not overflow. -/
def decimal? (run : List Char) : Option Toml := do
  let (negative, unsigned) := afterSign run
  let mantissa := unsigned.takeWhile (!isPowerMark ·)
  let powerText := unsigned.dropWhile (!isPowerMark ·)
  let whole := mantissa.takeWhile (· != '.')
  let pointText := mantissa.dropWhile (· != '.')
  let fraction ← fractionDigits? pointText
  let power ← power? powerText
  if isWhole whole && !(pointText.isEmpty && powerText.isEmpty) then
    let significand := ofBase 10 (whole ++ fraction)
    let value :=
      Decimal.Binary64.ofDecimal negative significand (power - fraction.length)
    if negative || value.isFinite then
      pure (.float (String.ofList run))
    else
      none
  else
    none

/-- Infinity or not-a-number, with or without a sign. -/
def special? (run : List Char) : Option Toml :=
  let word := (afterSign run).2
  if word = ['i', 'n', 'f'] ∨ word = ['n', 'a', 'n'] then
    some (.float (String.ofList run))
  else
    none

/-- Two digits as a number. -/
def twoDigits? (tens ones : Char) : Option Nat :=
  if tens.isDigit && ones.isDigit then
    some (ofBase 10 [tens, ones])
  else
    none

/-- The characters after a date, if a date of the calendar comes first. -/
def afterDate? : List Char → Option (List Char)
  | y₁ :: y₂ :: y₃ :: y₄ :: '-' :: m₁ :: m₂ :: '-' :: d₁ :: d₂ :: rest => do
      let century ← twoDigits? y₁ y₂
      let yearOfCentury ← twoDigits? y₃ y₄
      let month ← twoDigits? m₁ m₂
      let day ← twoDigits? d₁ d₂
      let _ ← Date.ofFields? (century * 100 + yearOfCentury) month day
      pure rest
  | _ => none

/-- The characters after the fraction of a second, if there is one. -/
def afterFraction? : List Char → Option (List Char)
  | '.' :: digit :: rest =>
      if digit.isDigit then some (rest.dropWhile Char.isDigit) else none
  | '.' :: [] => none
  | rest => some rest

/-- The characters after a time of day, if one comes first. -/
def afterTime? : List Char → Option (List Char)
  | h₁ :: h₂ :: ':' :: m₁ :: m₂ :: ':' :: s₁ :: s₂ :: rest => do
      let hour ← twoDigits? h₁ h₂
      let minute ← twoDigits? m₁ m₂
      let second ← twoDigits? s₁ s₂
      if hour ≤ 23 ∧ minute ≤ 59 ∧ second ≤ 60 then
        afterFraction? rest
      else
        none
  | _ => none

/-- Whether the characters are an offset from universal time, or nothing. -/
def isOffset : List Char → Bool
  | [] => true
  | ['Z'] => true
  | ['z'] => true
  | [sign, h₁, h₂, ':', m₁, m₂] =>
      (sign == '+' || sign == '-') &&
        (match twoDigits? h₁ h₂, twoDigits? m₁ m₂ with
          | some hour, some minute => hour ≤ 23 && minute ≤ 59
          | _, _ => false)
  | _ => false

/-- Whether the characters are a time of day and perhaps an offset. -/
def isTimeWithOffset (characters : List Char) : Bool :=
  match afterTime? characters with
  | some rest => isOffset rest
  | none => false

/-- Whether the characters are a date, a time of day, or a date and a time. -/
def isMoment (characters : List Char) : Bool :=
  match afterDate? characters with
  | some [] => true
  | some (mark :: time) =>
      (mark == 'T' || mark == 't' || mark == ' ') && isTimeWithOffset time
  | none => afterTime? characters == some []

/-- The value of a run. -/
def ofRun? (run : List Char) : Option Toml :=
  if run = ['t', 'r', 'u', 'e'] then
    some (.boolean true)
  else if run = ['f', 'a', 'l', 's', 'e'] then
    some (.boolean false)
  else if isMoment run then
    some (.moment (String.ofList run))
  else
    (integer? run).or ((decimal? run).or (special? run))

/-- Whether a time of day starts here, so that a date before it goes on. -/
def startsTime : List Char → Bool
  | h₁ :: h₂ :: ':' :: _ => h₁.isDigit && h₂.isDigit
  | _ => false

/-- A run at the start, with the time after a date and a single space, and the rest. -/
def splitRun (characters : List Char) : List Char × List Char :=
  let run := characters.takeWhile isRunCharacter
  let rest := characters.dropWhile isRunCharacter
  match rest with
  | ' ' :: others =>
      if afterDate? run = some [] ∧ startsTime others then
        (run ++ ' ' :: others.takeWhile isRunCharacter,
          others.dropWhile isRunCharacter)
      else
        (run, rest)
  | _ => (run, rest)

/-- A value without quotes or brackets at the start, and the rest. -/
def readScalar (characters : List Char) : Option (Toml × List Char) :=
  let (run, rest) := splitRun characters
  (ofRun? run).map fun value => (value, rest)

end EventQuery.Toml
