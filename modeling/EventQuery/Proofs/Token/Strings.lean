import EventQuery.Proofs.Canonical.Lexing

/-!
# Strings and their escapes

What a string literal says can be told from its characters alone.  A backslash escapes
the character behind it, unless it is escaped itself, so a character is escaped if the
row of backslashes right in front of it has an odd length.  The literal ends at the first
quote of its own kind that is not escaped, and its value is its body with the escapes
undone.  `Lexer.next_at_string` says so of the lexer, and that a written string is read
as the string that was written.
-/

namespace EventQuery

/-! ## Escapes -/

/-- The number of backslashes at the end of some characters. -/
def endingBackslashes (characters : List Char) : Nat :=
  (characters.reverse.takeWhile (· == '\\')).length

/-- Whether the character behind the start of a body is escaped. -/
def isEscapedBehind (before : List Char) : Bool :=
  endingBackslashes before % 2 == 1

/-- Whether a body ends in front of a quote: this quote is not escaped, those before are. -/
structure EndsAtQuote (quote : Char) (body : List Char) : Prop where
  isEnd : isEscapedBehind body = false
  isFirst : ∀ before after, body = before ++ quote :: after → isEscapedBehind before = true

/-- What a body says, with its escapes undone from left to right. -/
def unescape : List Char → List Char
  | [] => []
  | [character] => [character]
  | character :: next :: rest =>
      if character = '\\' then
        unescaped next :: unescape rest
      else
        character :: unescape (next :: rest)

/-- Plain characters and escapes in front do not change what is escaped behind them. -/
theorem isEscapedBehind_cons {character : Char} (isPlain : character ≠ '\\')
    (before : List Char) :
    isEscapedBehind (character :: before) = isEscapedBehind before := by
  unfold isEscapedBehind endingBackslashes
  rw [List.reverse_cons, List.takeWhile_append]
  split
  · rename_i isAll
    simp [isPlain, isAll]
  · rfl

theorem isEscapedBehind_escape (character : Char) (before : List Char) :
    isEscapedBehind ('\\' :: character :: before) = isEscapedBehind before := by
  unfold isEscapedBehind endingBackslashes
  rw [List.reverse_cons, List.reverse_cons, List.append_assoc, List.takeWhile_append]
  split
  · rename_i isAll
    rw [isAll, List.length_append]
    by_cases isBackslash : character = '\\' <;> simp [isBackslash]
  · rfl

/-! ## Where a body ends -/

variable {quote : Char}

theorem endsAtQuote_nil : EndsAtQuote quote [] where
  isEnd := rfl
  isFirst := by simp

theorem endsAtQuote_cons_iff {character : Char} {body : List Char}
    (isNoQuote : character ≠ quote)
    (isPlain : character ≠ '\\') :
    EndsAtQuote quote (character :: body) ↔ EndsAtQuote quote body := by
  constructor
  · rintro ⟨isEnd, isFirst⟩
    rw [isEscapedBehind_cons isPlain] at isEnd
    refine ⟨isEnd, fun before after isBody => ?_⟩
    rw [← isEscapedBehind_cons isPlain]
    exact isFirst (character :: before) after (by rw [isBody, List.cons_append])
  · rintro ⟨isEnd, isFirst⟩
    refine ⟨(isEscapedBehind_cons isPlain body).trans isEnd, fun before after isBody => ?_⟩
    cases before with
    | nil => exact absurd (List.cons.inj isBody).1 isNoQuote
    | cons first before =>
        obtain ⟨rfl, isRest⟩ := List.cons.inj isBody
        exact (isEscapedBehind_cons isPlain before).trans (isFirst before after isRest)

/-- An escaped character never ends the body, be it the quote or not. -/
theorem endsAtQuote_escape_iff {character : Char} {body : List Char}
    (isNoQuote : '\\' ≠ quote) :
    EndsAtQuote quote ('\\' :: character :: body) ↔ EndsAtQuote quote body := by
  constructor
  · rintro ⟨isEnd, isFirst⟩
    rw [isEscapedBehind_escape] at isEnd
    refine ⟨isEnd, fun before after isBody => ?_⟩
    rw [← isEscapedBehind_escape character]
    exact isFirst ('\\' :: character :: before) after (by simp [isBody])
  · rintro ⟨isEnd, isFirst⟩
    refine ⟨(isEscapedBehind_escape character body).trans isEnd, fun before after isBody => ?_⟩
    match before with
    | [] => exact absurd (List.cons.inj isBody).1 isNoQuote
    | [first] =>
        rw [← (List.cons.inj isBody).1]
        rfl
    | first :: second :: before =>
        obtain ⟨isBackslash, areOthers⟩ := List.cons.inj isBody
        obtain ⟨rfl, isRest⟩ := List.cons.inj areOthers
        rw [← isBackslash]
        exact (isEscapedBehind_escape character before).trans (isFirst before after isRest)

/-- A body that is not empty does not end in front of a quote that it starts with. -/
theorem not_endsAtQuote_cons (body : List Char) : ¬ EndsAtQuote quote (quote :: body) :=
  fun ends => absurd (ends.isFirst [] body rfl) (by decide)

/-! ## Reading a body -/

theorem scanString_escaped_cons (isNoQuote : '\\' ≠ quote) (character : Char)
    (rest : List Char) :
    scanString quote ('\\' :: character :: rest) =
      (scanString quote rest).map (StringBody.escape character) := by
  rw [scanString, if_neg isNoQuote, if_pos rfl]

/-- A body is read up to the quote where it ends, and its escapes are undone. -/
theorem scanString_of_endsAtQuote {body : List Char}
    (isNoQuote : '\\' ≠ quote)
    (ends : EndsAtQuote quote body)
    (rest : List Char) :
    scanString quote (body ++ quote :: rest) =
      some ⟨unescape body, body ++ [quote], rest⟩ := by
  have startsApart {character : Char} {others : List Char}
      (ends : EndsAtQuote quote (character :: others)) : character ≠ quote := by
    rintro rfl
    exact not_endsAtQuote_cons others ends
  have atQuote : scanString quote (quote :: rest) = some ⟨[], [quote], rest⟩ := by
    cases rest <;> simp [scanString]
  fun_induction unescape body with
  | case1 => exact atQuote
  | case2 character =>
      have isPlain : character ≠ '\\' := by
        rintro rfl
        exact absurd ends.isEnd (by decide)
      rw [List.singleton_append, scanString_plain (by simp) (startsApart ends) isPlain, atQuote]
      rfl
  | case3 next others ih =>
      rw [List.cons_append, List.cons_append, scanString_escaped_cons isNoQuote,
        ih ((endsAtQuote_escape_iff isNoQuote).mp ends)]
      rfl
  | case4 character next others isPlain ih =>
      have isOther := startsApart ends
      rw [List.cons_append, scanString_plain (by simp) isOther isPlain,
        ih ((endsAtQuote_cons_iff isOther isPlain).mp ends)]
      rfl

/-- Wherever a body is read, it ends at a quote. -/
theorem exists_endsAtQuote_of_scanString {characters : List Char} {found : StringBody}
    (isNoQuote : '\\' ≠ quote)
    (closes : scanString quote characters = some found) :
    ∃ body, characters = body ++ quote :: found.rest ∧ EndsAtQuote quote body := by
  fun_induction scanString quote characters generalizing found with
  | case1 => cases closes
  | case2 =>
      cases closes
      exact ⟨[], rfl, endsAtQuote_nil⟩
  | case3 => cases closes
  | case4 =>
      cases closes
      exact ⟨[], rfl, endsAtQuote_nil⟩
  | case5 next rest _ ih =>
      obtain ⟨inner, innerCloses, rfl⟩ := Option.map_eq_some_iff.mp closes
      obtain ⟨body, rfl, ends⟩ := ih innerCloses
      exact ⟨'\\' :: next :: body, rfl, (endsAtQuote_escape_iff isNoQuote).mpr ends⟩
  | case6 character next rest isOther isPlain ih =>
      obtain ⟨inner, innerCloses, rfl⟩ := Option.map_eq_some_iff.mp closes
      obtain ⟨body, isRest, ends⟩ := ih innerCloses
      exact
        ⟨character :: body, congrArg (character :: ·) isRest,
          (endsAtQuote_cons_iff isOther isPlain).mpr ends⟩

/-! ## The lexer -/

namespace Lexer

variable {lexer : Lexer}

theorem triviaItem?_of_isStringQuote (isQuote : isStringQuote quote = true)
    (characters : List Char) :
    triviaItem? (quote :: characters) = none := by
  simp only [isStringQuote, Bool.or_eq_true, beq_iff_eq] at isQuote
  rcases isQuote with rfl | rfl <;> simp [triviaItem?, Text.isBlank_eq_false]

theorem next_of_endsAtQuote {body rest : List Char}
    (isReady : lexer.IsReady)
    (isQuote : isStringQuote quote = true)
    (isAt : lexer.rest = quote :: body ++ quote :: rest)
    (ends : EndsAtQuote quote body) :
    lexer.next =
      (some
        (.ok
          ⟨.string (String.ofList (unescape body)), String.ofList (quote :: body ++ [quote]),
            lexer.position⟩),
        lexer.behind (quote :: body ++ [quote]) rest) := by
  have isNoQuote : '\\' ≠ quote := by
    rintro rfl
    cases isQuote
  refine next_of_scansAs isReady ⟨quote, body ++ quote :: rest, by simp, ?_, ?_⟩ (by simp [isAt])
  · exact triviaItem?_of_isStringQuote isQuote _
  · rw [scan, if_pos isQuote, readString_start, scanString_of_endsAtQuote isNoQuote ends]
    rfl

theorem next_of_not_endsAtQuote {characters : List Char}
    (isReady : lexer.IsReady)
    (isQuote : isStringQuote quote = true)
    (isAt : lexer.rest = quote :: characters)
    (isOpen : ∀ body rest, characters = body ++ quote :: rest → ¬ EndsAtQuote quote body) :
    lexer.next =
      (some (.error (.lex lexer.position (.unterminatedString quote))),
        { lexer with phase := .finished }) := by
  have isNoQuote : '\\' ≠ quote := by
    rintro rfl
    cases isQuote
  have isNone : scanString quote characters = none := by
    cases closes : scanString quote characters with
    | none => rfl
    | some found =>
        obtain ⟨body, isAll, ends⟩ := exists_endsAtQuote_of_scanString isNoQuote closes
        exact absurd ends (isOpen body found.rest isAll)
  have fails : scan quote characters = .error (.unterminatedString quote) := by
    rw [scan, if_pos isQuote, readString_start, isNone]
  have isSkipped : skipTrivia lexer.rest = ([], quote :: characters) := by
    rw [isAt, skipTrivia_of_none (triviaItem?_of_isStringQuote isQuote characters)]
  rw [next_of_isReady isReady, (Finds.fault isSkipped fails).eq_nextToken, ← isAt]
  rfl

/--
A written string is read as that string, whatever follows.  Any string literal ends at the
first quote of its kind that is not escaped, says what its body says without escapes, and
is an error if there is no such quote.
-/
theorem next_at_string (isReady : lexer.IsReady) :
    (∀ (value : String) (following : List Char),
        lexer.rest = (stringText value).toList ++ following →
          lexer.next =
            (some (.ok ⟨.string value, stringText value, lexer.position⟩),
              lexer.behind (stringText value).toList following)) ∧
      ∀ (quote : Char) (characters : List Char),
        isStringQuote quote = true →
          lexer.rest = quote :: characters →
            (∀ body rest,
                characters = body ++ quote :: rest →
                  EndsAtQuote quote body →
                    lexer.next =
                      (some
                        (.ok
                          ⟨.string (String.ofList (unescape body)),
                            String.ofList (quote :: body ++ [quote]), lexer.position⟩),
                        lexer.behind (quote :: body ++ [quote]) rest)) ∧
              ((∀ body rest, characters = body ++ quote :: rest → ¬ EndsAtQuote quote body) →
                lexer.next =
                  (some (.error (.lex lexer.position (.unterminatedString quote))),
                    { lexer with phase := .finished })) := by
  refine ⟨fun value following isAt => ?_, fun quote characters isQuote isAt => ⟨?_, ?_⟩⟩
  · rw [next_of_scansAs isReady (scansAs_string value following) isAt, String.ofList_toList]
  · rintro body rest rfl ends
    exact next_of_endsAtQuote isReady isQuote isAt ends
  · exact next_of_not_endsAtQuote isReady isQuote isAt

/-- A written string, a literal in the other quotes, and one that an escape leaves open. -/
theorem next_at_string_eitherQuotes :
    (new "'it\\'s' = b" none).next =
        (some (.ok ⟨.string "it's", "'it\\'s'", .start⟩),
          (new "'it\\'s' = b" none).behind "'it\\'s'".toList " = b".toList) ∧
      (new "\"\\\"'\" = b" none).next =
        (some (.ok ⟨.string "\"'", "\"\\\"'\"", .start⟩),
          (new "\"\\\"'\" = b" none).behind "\"\\\"'\"".toList " = b".toList) ∧
      (new "'\\'" none).next =
        (some (.error (.lex .start (.unterminatedString '\''))),
          { new "'\\'" none with phase := .finished }) := by
  have isReady (source : String) : (new source none).IsReady := Or.inr ⟨rfl, rfl⟩
  refine ⟨?_, ?_, ?_⟩
  · exact (next_at_string (isReady _)).1 "it's" " = b".toList (by decide)
  · have ends : EndsAtQuote '"' "\\\"'".toList :=
      (endsAtQuote_escape_iff (by decide)).mpr
        ((endsAtQuote_cons_iff (by decide) (by decide)).mpr endsAtQuote_nil)
    exact
      ((next_at_string (isReady _)).2 '"' "\\\"'\" = b".toList rfl (by decide)).1
        "\\\"'".toList " = b".toList (by decide) ends
  · refine ((next_at_string (isReady _)).2 '\'' "\\'".toList rfl (by decide)).2 ?_
    rintro body rest isAll ends
    have isOpen : scanString '\'' "\\'".toList = none := by decide
    rw [isAll, scanString_of_endsAtQuote (by decide) ends] at isOpen
    cases isOpen

end Lexer

end EventQuery
