import EventQuery.Decimal.Digits
import EventQuery.Decimal.Power
import EventQuery.Text.Blank
import EventQuery.Time.Instant

/-!
# Timestamps

A timestamp in a query is a date with a time of day, a date alone, or a date
and time with an offset from universal time.  The first two forms are lenient:
blanks may stand before a number, and fields may have one digit.  The third
form has fixed widths.
-/

namespace EventQuery

namespace Timestamp

open Text

/-- A number of at least `least` and at most `greatest` digits, and the rest. -/
def number?
    (least greatest : Nat)
    (characters : List Char) :
    Option (Nat × List Char) :=
  let digits := (characters.takeWhile Char.isDigit).take greatest
  if least ≤ digits.length then
    some (Decimal.ofDigits digits, characters.drop digits.length)
  else
    none

/-- The characters after the given one, if it comes first. -/
def after? (character : Char) (characters : List Char) : Option (List Char) :=
  match characters with
  | first :: rest => if first = character then some rest else none
  | [] => none

/-- A field of one or two digits, after blanks. -/
def field? (characters : List Char) : Option (Nat × List Char) :=
  number? 1 2 (dropBlanks characters)

/-- A year after blanks: with a sign any number of digits, without one up to four. -/
def year? (characters : List Char) : Option (Int × List Char) :=
  match dropBlanks characters with
  | '-' :: rest => do
      let (year, rest) ← number? 1 rest.length rest
      pure (-(year : Int), rest)
  | '+' :: rest => do
      let (year, rest) ← number? 1 rest.length rest
      pure ((year : Int), rest)
  | rest => do
      let (year, rest) ← number? 1 4 rest
      pure ((year : Int), rest)

/-- A time of day: the second of the day, and nanoseconds beyond a second if it is a leap second. -/
structure TimeOfDay where
  second : Nat
  nanos : Nat

/-- The time of an hour, a minute and a second, which is 60 for a leap second. -/
def timeOfDay? (hour minute second : Nat) : Option TimeOfDay :=
  if hour ≤ 23 ∧ minute ≤ 59 ∧ second ≤ 60 then
    if second = 60 then
      some ⟨hour * 3600 + minute * 60 + 59, nanosPerSecond⟩
    else
      some ⟨hour * 3600 + minute * 60 + second, 0⟩
  else
    none

/-- A date with lenient fields, and the rest. -/
def lenientDate? (characters : List Char) : Option (Date × List Char) := do
  let (year, rest) ← year? characters
  let rest ← after? '-' rest
  let (month, rest) ← field? rest
  let rest ← after? '-' rest
  let (day, rest) ← field? rest
  let date ← Date.ofFields? year month day
  pure (date, rest)

/-- A time of day with lenient fields, and the rest. -/
def lenientTime? (characters : List Char) : Option (TimeOfDay × List Char) := do
  let (hour, rest) ← field? characters
  let rest ← after? ':' rest
  let (minute, rest) ← field? rest
  let rest ← after? ':' rest
  let (second, rest) ← field? rest
  let time ← timeOfDay? hour minute second
  pure (time, rest)

/-- Nothing may be left. -/
def atEnd? (characters : List Char) : Option Unit :=
  if characters.isEmpty then some () else none

/-- A date and a time of day. -/
def dateAndTime? (characters : List Char) : Option Instant := do
  let (date, rest) ← lenientDate? characters
  let (time, rest) ← lenientTime? rest
  atEnd? rest
  pure (.ofDate date time.second time.nanos)

/-- A date alone stands for its midnight. -/
def dateAlone? (characters : List Char) : Option Instant := do
  let (date, rest) ← lenientDate? characters
  atEnd? rest
  pure (.ofDate date 0 0)

/-- A date of fixed widths, and the rest. -/
def fixedDate? (characters : List Char) : Option (Date × List Char) := do
  let (year, rest) ← number? 4 4 characters
  let rest ← after? '-' rest
  let (month, rest) ← number? 2 2 rest
  let rest ← after? '-' rest
  let (day, rest) ← number? 2 2 rest
  let date ← Date.ofFields? year month day
  pure (date, rest)

/-- A time of day of fixed widths, and the rest. -/
def fixedTime? (characters : List Char) : Option (TimeOfDay × List Char) := do
  let (hour, rest) ← number? 2 2 characters
  let rest ← after? ':' rest
  let (minute, rest) ← number? 2 2 rest
  let rest ← after? ':' rest
  let (second, rest) ← number? 2 2 rest
  let time ← timeOfDay? hour minute second
  pure (time, rest)

/-- The mark between the date and the time of the fixed form. -/
def afterDateMark? : List Char → Option (List Char)
  | 'T' :: rest => some rest
  | 't' :: rest => some rest
  | ' ' :: rest => some rest
  | _ => none

/--
The nanoseconds of a fraction, or none if there is no point.  Digits after the
ninth do not count.
-/
def fraction? (characters : List Char) : Option (Nat × List Char) :=
  match characters with
  | '.' :: rest =>
      let digits := rest.takeWhile Char.isDigit
      let counted := digits.take 9
      if digits.isEmpty then
        none
      else
        some (Decimal.ofDigits counted * Decimal.tenTo (9 - counted.length),
          rest.dropWhile Char.isDigit)
  | _ => some (0, characters)

/-- Hours up to 23 and minutes up to 59 of an offset, in seconds, and the rest. -/
def offsetAmount? (characters : List Char) : Option (Nat × List Char) := do
  let (hours, rest) ← number? 2 2 characters
  let rest ← after? ':' rest
  let (minutes, rest) ← number? 2 2 rest
  if hours ≤ 23 ∧ minutes ≤ 59 then
    pure (hours * 3600 + minutes * 60, rest)
  else
    none

/-- The seconds by which local time is ahead of universal time, and the rest. -/
def offset? : List Char → Option (Int × List Char)
  | 'Z' :: rest => some (0, rest)
  | 'z' :: rest => some (0, rest)
  | '+' :: rest => do
      let (amount, rest) ← offsetAmount? rest
      pure ((amount : Int), rest)
  | '-' :: rest => do
      let (amount, rest) ← offsetAmount? rest
      pure (-(amount : Int), rest)
  | '\u2212' :: rest => do
      let (amount, rest) ← offsetAmount? rest
      pure (-(amount : Int), rest)
  | _ => none

/-- A date and a time of day with an offset, all of fixed widths. -/
def withOffset? (characters : List Char) : Option Instant := do
  let (date, rest) ← fixedDate? characters
  let rest ← afterDateMark? rest
  let (time, rest) ← fixedTime? rest
  let (fraction, rest) ← fraction? rest
  let (offset, rest) ← offset? rest
  atEnd? rest
  let clock := Instant.ofDate date time.second (time.nanos + fraction)
  Instant.inCalendar? ⟨clock.seconds - offset, clock.nanos⟩

/-- The instant that a timestamp gives, without regard to blanks around it. -/
def instant? (text : String) : Option Instant :=
  let characters := trimBlanks text.toList
  match dateAndTime? characters with
  | some instant => some instant
  | none =>
      match dateAlone? characters with
      | some instant => some instant
      | none => withOffset? characters

end Timestamp

end EventQuery
