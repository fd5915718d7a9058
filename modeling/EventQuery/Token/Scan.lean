import EventQuery.QueryError
import EventQuery.Text.Letter

/-!
# Reading one token

A token is read off the start of a list of characters that holds no trivia
there.  Each reader takes the longest run of characters that belongs to the
token; `scan_append` says that the lexeme and the rest are all there is, and
that no lexeme is empty.
-/

namespace EventQuery

open Text

/-- A token at the start of some characters: what it says, its characters, the rest. -/
structure Scanned where
  content : TokenContent
  lexeme : List Char
  rest : List Char

/-- The character that an escape stands for: three letters name controls. -/
def unescaped : Char → Char
  | 'n' => '\n'
  | 't' => '\t'
  | 'r' => '\r'
  | character => character

/-- The body of a string: its value, its characters with the closing quote, the rest. -/
structure StringBody where
  value : List Char
  lexeme : List Char
  rest : List Char

namespace StringBody

/-- The same string with one more plain character in front. -/
def plain (character : Char) (body : StringBody) : StringBody :=
  ⟨character :: body.value, character :: body.lexeme, body.rest⟩

/-- The same string with one more escape in front. -/
def escape (character : Char) (body : StringBody) : StringBody :=
  ⟨unescaped character :: body.value, '\\' :: character :: body.lexeme, body.rest⟩

end StringBody

/--
The body of a string up to the closing quote, decoded from left to right.  A
backslash makes the next character part of the string, whatever it is.
-/
def scanString (quote : Char) : List Char → Option StringBody
  | [] => none
  | [character] =>
      if character = quote then some ⟨[], [character], []⟩ else none
  | character :: next :: rest =>
      if character = quote then
        some ⟨[], [character], next :: rest⟩
      else if character = '\\' then
        (scanString quote rest).map (StringBody.escape next)
      else
        (scanString quote (next :: rest)).map (StringBody.plain character)

/--
How far the reading of a string has come.  The value of a string without
escapes is the text itself; a copy is made at the first escape only, of what
was passed up to there.  Both lists are in reverse.
-/
structure StringReading where
  /-- The characters of the body behind the opening quote. -/
  passed : List Char
  /-- What was decoded, from the first escape on. -/
  copy? : Option (List Char)

namespace StringReading

/-- Nothing behind the opening quote is read yet. -/
def start : StringReading := ⟨[], none⟩

/-- What was decoded so far: the copy if there is one, and the text otherwise. -/
def decoded (reading : StringReading) : List Char :=
  reading.copy?.getD reading.passed

/-- One more plain character; a copy that was made gets it as well. -/
def plain (character : Char) (reading : StringReading) : StringReading :=
  ⟨character :: reading.passed, reading.copy?.map (character :: ·)⟩

/-- One more escape, of the given character. -/
def escape (character : Char) (reading : StringReading) : StringReading :=
  ⟨character :: '\\' :: reading.passed, some (unescaped character :: reading.decoded)⟩

/-- The string whose closing quote comes next. -/
def close (quote : Char) (rest : List Char) (reading : StringReading) : StringBody :=
  ⟨reading.decoded.reverse, (quote :: reading.passed).reverse, rest⟩

@[simp]
theorem passed_plain (character : Char) (reading : StringReading) :
    (reading.plain character).passed = character :: reading.passed :=
  rfl

@[simp]
theorem passed_escape (character : Char) (reading : StringReading) :
    (reading.escape character).passed = character :: '\\' :: reading.passed :=
  rfl

@[simp]
theorem decoded_plain (character : Char) (reading : StringReading) :
    (reading.plain character).decoded = character :: reading.decoded := by
  cases copied : reading.copy? <;> simp [decoded, plain, copied]

@[simp]
theorem decoded_escape (character : Char) (reading : StringReading) :
    (reading.escape character).decoded = unescaped character :: reading.decoded :=
  rfl

end StringReading

/-- The rest of the body of a string up to the closing quote, copied from the first escape on. -/
def readString (quote : Char) (reading : StringReading) : List Char → Option StringBody
  | [] => none
  | character :: rest =>
      if character = quote then
        some (reading.close quote rest)
      else if character = '\\' then
        match rest with
        | [] => none
        | escaped :: rest => readString quote (reading.escape escaped) rest
      else
        readString quote (reading.plain character) rest

/-- The decimal digits at the start. -/
def leadingDigits (characters : List Char) : List Char :=
  characters.takeWhile Char.isDigit

/-- The characters after the decimal digits at the start. -/
def afterDigits (characters : List Char) : List Char :=
  characters.dropWhile Char.isDigit

/-- The digits of a fraction and the rest, if a point and a digit come first. -/
def fraction? : List Char → Option (List Char × List Char)
  | '.' :: digit :: rest =>
      if digit.isDigit then
        some (digit :: leadingDigits rest, afterDigits rest)
      else
        none
  | _ => none

/-- A number: digits, and perhaps a point and more digits. -/
def scanNumber (characters : List Char) : Except LexFault Scanned :=
  let whole := leadingDigits characters
  match fraction? (afterDigits characters) with
  | some (fraction, rest) =>
      let value :=
        Decimal.Binary64.ofDecimal false
          (Decimal.ofDigits (whole ++ fraction)) (-fraction.length)
      .ok ⟨.number (.float value), whole ++ '.' :: fraction, rest⟩
  | none =>
      match Number.ofInt? (Decimal.ofDigits whole) with
      | some value => .ok ⟨.number value, whole, afterDigits characters⟩
      | none => .error (.numberOutOfRange whole)

/-- A word: a keyword, or else a bare name. -/
def scanWord (characters : List Char) : Scanned :=
  let lexeme := characters.takeWhile continuesWord
  let word := String.ofList lexeme
  let content :=
    match Keyword.ofText? word with
    | some keyword => .keyword keyword
    | none => .name word false
  ⟨content, lexeme, characters.dropWhile continuesWord⟩

/-- A name between quotes of its own, without the opening quote. -/
def scanQuotedName (characters : List Char) : Except LexFault Scanned :=
  let name := characters.takeWhile (· != '\x60')
  match characters.dropWhile (· != '\x60') with
  | [] => .error .unterminatedName
  | quote :: rest =>
      if name.isEmpty then
        .error .emptyName
      else
        .ok ⟨.name (String.ofList name) true, '\x60' :: name ++ [quote], rest⟩

/-- The comparisons that two characters write. -/
def wideComparison? : Char → Char → Option Comparison
  | '<', '=' => some .lessOrEqual
  | '>', '=' => some .greaterOrEqual
  | '!', '=' => some .notEqual
  | '<', '>' => some .notEqual
  | '=', '=' => some .equal
  | _, _ => none

/-- The symbols of one character. -/
def narrowSymbol? : Char → Option TokenContent
  | '=' => some (.comparison .equal)
  | '<' => some (.comparison .less)
  | '>' => some (.comparison .greater)
  | '+' => some (.arithmetic .add)
  | '-' => some (.arithmetic .subtract)
  | '*' => some (.arithmetic .multiply)
  | '/' => some (.arithmetic .divide)
  | ',' => some .comma
  | '(' => some .leftParenthesis
  | ')' => some .rightParenthesis
  | _ => none

/-- A symbol of one character. -/
def scanNarrow (first : Char) (rest : List Char) : Except LexFault Scanned :=
  match narrowSymbol? first with
  | some content => .ok ⟨content, [first], rest⟩
  | none => .error (.strayCharacter first)

/-- A symbol of two characters, or else of one. -/
def scanSymbol (first : Char) (rest : List Char) : Except LexFault Scanned :=
  match rest with
  | [] => scanNarrow first []
  | second :: others =>
      match wideComparison? first second with
      | some comparison => .ok ⟨.comparison comparison, [first, second], others⟩
      | none => scanNarrow first (second :: others)

/-- Whether the character opens and closes a string. -/
def isStringQuote (character : Char) : Bool :=
  character == '\'' || character == '"'

/-- The token that starts with the given character. -/
def scan (first : Char) (rest : List Char) : Except LexFault Scanned :=
  if isStringQuote first then
    match readString first .start rest with
    | some body =>
        .ok ⟨.string (String.ofList body.value), first :: body.lexeme, body.rest⟩
    | none => .error (.unterminatedString first)
  else if first = '\x60' then
    scanQuotedName rest
  else if first.isDigit then
    scanNumber (first :: rest)
  else if startsWord first then
    .ok (scanWord (first :: rest))
  else if first = '/' ∧ rest.head? = some '*' then
    .error .unterminatedComment
  else
    scanSymbol first rest

/-- What was decoded so far stands in front of what the rest of the body says. -/
theorem readString_eq_map (quote : Char) (reading : StringReading) (characters : List Char) :
    readString quote reading characters =
      (scanString quote characters).map fun body =>
        ⟨reading.decoded.reverse ++ body.value, reading.passed.reverse ++ body.lexeme,
          body.rest⟩ := by
  fun_induction scanString quote characters generalizing reading with
  | case1 => rfl
  | case2 => simp [readString, StringReading.close]
  | case3 => simp_all [readString]
  | case4 => simp [readString, StringReading.close]
  | case5 next rest isNoQuote ih =>
      rw [readString, if_neg isNoQuote, if_pos rfl, ih, Option.map_map]
      simp [Function.comp_def, StringBody.escape]
  | case6 character next rest isNoQuote isNoEscape ih =>
      rw [readString, if_neg isNoQuote, if_neg isNoEscape, ih, Option.map_map]
      simp [Function.comp_def, StringBody.plain]

/-- A copy from the first escape on decodes a string as decoding it from its start does. -/
theorem readString_start (quote : Char) (characters : List Char) :
    readString quote .start characters = scanString quote characters := by
  simp [readString_eq_map, StringReading.start, StringReading.decoded]

/-- The characters of a string body and the rest are all there is. -/
theorem scanString_append
    {quote : Char}
    {characters : List Char}
    {body : StringBody}
    (found : scanString quote characters = some body) :
    body.lexeme ++ body.rest = characters := by
  fun_induction scanString quote characters generalizing body with
  | case1 => simp at found
  | case2 =>
      simp only [Option.some.injEq] at found
      subst found
      rfl
  | case3 => simp at found
  | case4 =>
      simp only [Option.some.injEq] at found
      subst found
      rfl
  | case5 next rest _ ih =>
      obtain ⟨inner, innerFound, rfl⟩ := Option.map_eq_some_iff.1 found
      simp [StringBody.escape, ih innerFound]
  | case6 character next rest _ _ ih =>
      obtain ⟨inner, innerFound, rfl⟩ := Option.map_eq_some_iff.1 found
      simp [StringBody.plain, ih innerFound]

/-- The point, the digits after it and the rest are all there is. -/
theorem fraction?_append
    {characters digits rest : List Char}
    (found : fraction? characters = some (digits, rest)) :
    '.' :: digits ++ rest = characters := by
  fun_cases fraction? characters <;> simp_all [fraction?]
  obtain ⟨rfl, rfl⟩ := found
  simp [leadingDigits, afterDigits]

theorem scanNumber_append
    {characters : List Char}
    {scanned : Scanned}
    (found : scanNumber characters = .ok scanned) :
    scanned.lexeme ++ scanned.rest = characters := by
  unfold scanNumber at found
  have split := List.takeWhile_append_dropWhile (p := Char.isDigit) (l := characters)
  cases fractionFound : fraction? (afterDigits characters) with
  | some pair =>
      obtain ⟨fraction, rest⟩ := pair
      simp only [fractionFound, Except.ok.injEq] at found
      subst found
      have inner := fraction?_append fractionFound
      simp only [List.cons_append] at inner
      simp only [List.append_assoc, List.cons_append, inner]
      exact split
  | none =>
      simp only [fractionFound] at found
      split at found
      · simp only [Except.ok.injEq] at found
        subst found
        exact split
      · simp at found

theorem scanQuotedName_append
    {characters : List Char}
    {scanned : Scanned}
    (found : scanQuotedName characters = .ok scanned) :
    scanned.lexeme ++ scanned.rest = '\x60' :: characters := by
  unfold scanQuotedName at found
  have split :=
    List.takeWhile_append_dropWhile (p := (· != '\x60')) (l := characters)
  cases remainder : characters.dropWhile (· != '\x60') with
  | nil => simp [remainder] at found
  | cons quote rest =>
      simp only [remainder] at found split
      split at found
      · simp at found
      · simp only [Except.ok.injEq] at found
        subst found
        simpa using split

theorem scanSymbol_append
    {first : Char}
    {rest : List Char}
    {scanned : Scanned}
    (found : scanSymbol first rest = .ok scanned) :
    scanned.lexeme ++ scanned.rest = first :: rest ∧ scanned.lexeme ≠ [] := by
  unfold scanSymbol scanNarrow at found
  repeat' split at found
  all_goals
    first
      | (simp only [Except.ok.injEq] at found
         subst found
         simp_all)
      | simp at found

/-- The lexeme and the rest are all there is. -/
theorem scan_append
    {first : Char}
    {rest : List Char}
    {scanned : Scanned}
    (found : scan first rest = .ok scanned) :
    scanned.lexeme ++ scanned.rest = first :: rest := by
  rw [scan, readString_start] at found
  split at found
  · split at found
    · rename_i body bodyFound
      simp only [Except.ok.injEq] at found
      subst found
      simp [scanString_append bodyFound]
    · simp at found
  split at found
  · rename_i isQuote
    subst isQuote
    exact scanQuotedName_append found
  split at found
  · exact scanNumber_append found
  split at found
  · simp only [Except.ok.injEq] at found
    subst found
    exact List.takeWhile_append_dropWhile
  split at found
  · simp at found
  · exact (scanSymbol_append found).1

theorem lexeme_ne_nil_of_scanQuotedName
    {characters : List Char}
    {scanned : Scanned}
    (found : scanQuotedName characters = .ok scanned) :
    scanned.lexeme ≠ [] := by
  unfold scanQuotedName at found
  split at found
  · cases found
  · dsimp only at found
    split at found
    · cases found
    · cases found
      exact List.cons_ne_nil _ _

/-- A number that starts with a digit has that digit in its lexeme. -/
theorem lexeme_ne_nil_of_scanNumber
    {first : Char}
    {rest : List Char}
    {scanned : Scanned}
    (isDigit : first.isDigit)
    (found : scanNumber (first :: rest) = .ok scanned) :
    scanned.lexeme ≠ [] := by
  have starts : leadingDigits (first :: rest) = first :: leadingDigits rest :=
    List.takeWhile_cons_of_pos isDigit
  unfold scanNumber at found
  rw [starts] at found
  dsimp only at found
  split at found
  · cases found
    exact List.cons_ne_nil _ _
  · split at found
    · cases found
      exact List.cons_ne_nil _ _
    · cases found

theorem lexeme_ne_nil_of_scan
    {first : Char}
    {rest : List Char}
    {scanned : Scanned}
    (found : scan first rest = .ok scanned) :
    scanned.lexeme ≠ [] := by
  unfold scan at found
  split at found
  · split at found
    · cases found
      exact List.cons_ne_nil _ _
    · cases found
  split at found
  · exact lexeme_ne_nil_of_scanQuotedName found
  split at found
  · rename_i isDigit
    exact lexeme_ne_nil_of_scanNumber isDigit found
  split at found
  · rename_i starts
    cases found
    simp [scanWord, List.takeWhile_cons_of_pos (continuesWord_of_startsWord starts)]
  split at found
  · cases found
  · exact (scanSymbol_append found).2

/-- No lexeme is empty, so every token takes up characters. -/
theorem rest_length_lt_of_scan
    {first : Char}
    {rest : List Char}
    {scanned : Scanned}
    (found : scan first rest = .ok scanned) :
    scanned.rest.length < rest.length + 1 := by
  have isSome := List.length_pos_iff.mpr (lexeme_ne_nil_of_scan found)
  have total := congrArg List.length (scan_append found)
  rw [List.length_append, List.length_cons] at total
  omega

end EventQuery
