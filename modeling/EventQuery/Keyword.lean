import EventQuery.Text.Case
import EventQuery.Time.Spec

/-!
# Keywords

Keywords are recognised without regard to case.  Most are reserved; those that
mean something only inside a time value double as attribute names everywhere
else.
-/

namespace EventQuery

/-- The words with a meaning of their own. -/
inductive Keyword where
  | selectWord
  | fromWord
  | whereWord
  | andWord
  | orWord
  | notWord
  | inWord
  | likeWord
  | asWord
  | facetWord
  | limitWord
  | sinceWord
  | untilWord
  | agoWord
  | compareWord
  | withWord
  | timeseriesWord
  | autoWord
  | anchorWord (anchor : Anchor)
  | unitWord (unit : TimeUnit)
deriving DecidableEq, Repr

namespace Keyword

/-- All keywords. -/
def all : List Keyword :=
  [selectWord, fromWord, whereWord, andWord, orWord, notWord, inWord, likeWord,
    asWord, facetWord, limitWord, sinceWord, untilWord, agoWord, compareWord,
    withWord, timeseriesWord, autoWord] ++
  Anchor.all.map anchorWord ++
  TimeUnit.all.map unitWord

/-- The canonical spelling, in capital letters. -/
def word : Keyword → String
  | selectWord => "SELECT"
  | fromWord => "FROM"
  | whereWord => "WHERE"
  | andWord => "AND"
  | orWord => "OR"
  | notWord => "NOT"
  | inWord => "IN"
  | likeWord => "LIKE"
  | asWord => "AS"
  | facetWord => "FACET"
  | limitWord => "LIMIT"
  | sinceWord => "SINCE"
  | untilWord => "UNTIL"
  | agoWord => "AGO"
  | compareWord => "COMPARE"
  | withWord => "WITH"
  | timeseriesWord => "TIMESERIES"
  | autoWord => "AUTO"
  | anchorWord anchor => anchor.word
  | unitWord unit => Text.uppercase unit.name

/-- The spellings that are recognised, up to case: a unit also has a plural. -/
def spellings : Keyword → List String
  | unitWord unit => [unit.name, unit.name ++ "s"]
  | keyword => [keyword.word]

/-- Whether the keyword can never be the name of an attribute. -/
def isReserved : Keyword → Bool
  | agoWord => false
  | withWord => false
  | autoWord => false
  | anchorWord _ => false
  | unitWord _ => false
  | _ => true

/-- The length of the longest spelling in bytes; a longer text spells no keyword. -/
def maxLength : Nat := 10

/-- The keyword that a text spells, if it spells one. -/
def ofText? (text : String) : Option Keyword :=
  if maxLength < text.utf8ByteSize then
    none
  else
    all.find? fun keyword =>
      keyword.spellings.any fun spelling =>
        Text.agreeIgnoringCase spelling text

end Keyword

end EventQuery
