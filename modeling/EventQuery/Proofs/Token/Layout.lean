import EventQuery.Proofs.Token.Limit

/-!
# How tokens lie in their text

A text is its tokens one after the other with gaps of blanks and comments
between them, and every token knows the line and the column of its first
character: `items_layOut`.
-/

namespace EventQuery

open Text

/-! ## Places -/

namespace Position

/--
The place behind some characters: its line is told by the line feeds among
them, its column by the characters after the last of these.
-/
def behind (characters : List Char) : Position where
  line := 1 + characters.count '\n'
  column := 1 + (characters.reverse.takeWhile (· != '\n')).length

theorem step_behind (before : List Char) (character : Char) :
    (behind before).step character = behind (before ++ [character]) := by
  unfold step behind
  by_cases isLineFeed : character = '\n'
  · simp [isLineFeed, Nat.add_assoc]
  · simp [isLineFeed, Nat.add_comm]

/-- Walking on from the place behind some characters leads behind more of them. -/
theorem after_behind (before characters : List Char) :
    (behind before).after characters = behind (before ++ characters) := by
  induction characters generalizing before with
  | nil => rw [after_nil, List.append_nil]
  | cons character rest ih =>
      rw [after_cons, step_behind, ih, List.append_assoc, List.singleton_append]

end Position

/-! ## Gaps -/

/--
Blanks and whole comments, as they stand in front of given characters.  A
comment after two dashes or slashes goes on to the end of its line, and one
after a slash and a star to the first star and slash behind them.
-/
inductive IsTrivia : List Char → List Char → Prop where
  | nothing (rest : List Char) :
      IsTrivia [] rest
  | blank {character : Char} {gap rest : List Char}
      (blank : isBlank character = true)
      (others : IsTrivia gap rest) :
      IsTrivia (character :: gap) rest
  | lineComment {mark : Char} {body gap rest : List Char}
      (isMark : mark = '-' ∨ mark = '/')
      (isOneLine : '\n' ∉ body)
      (endsLine : ∀ next ∈ (gap ++ rest).head?, next = '\n')
      (others : IsTrivia gap rest) :
      IsTrivia (mark :: mark :: body ++ gap) rest
  | blockComment {body gap rest : List Char}
      (isFirst : ¬ ['*', '/'] <:+: body)
      (others : IsTrivia gap rest) :
      IsTrivia ('/' :: '*' :: body ++ ['*', '/'] ++ gap) rest

/-- A block comment is closed by the first mark that can close it. -/
theorem exists_body_of_closeComment? {characters inside after : List Char}
    (closes : closeComment? characters = some (inside, after)) :
    ∃ body, inside = body ++ ['*', '/'] ∧ ¬ ['*', '/'] <:+: body := by
  fun_induction closeComment? characters generalizing inside with
  | case1 rest =>
      cases closes
      exact ⟨[], rfl, by simp⟩
  | case2 character rest isNoMark inside' after' equality ih =>
      cases closes
      obtain ⟨body, rfl, isFirst⟩ := ih equality
      refine ⟨character :: body, rfl, fun isIn => ?_⟩
      rcases List.infix_cons_iff.mp isIn with ⟨back, isPrefix⟩ | isLater
      · -- A star here and a slash after it would have closed the comment at once.
        obtain ⟨rfl, rfl⟩ : '*' = character ∧ '/' :: back = body := List.cons.inj isPrefix
        exact isNoMark _ rfl (closeComment?_append equality).symm
      · exact isFirst isLater
  | case3 => cases closes
  | case4 => cases closes

/-- A comment of a line and the trivia behind it are trivia. -/
theorem isTrivia_lineComment {mark : Char} {characters gap rest : List Char}
    (isMark : mark = '-' ∨ mark = '/')
    (isRest : afterLine characters = gap ++ rest)
    (others : IsTrivia gap rest) :
    IsTrivia (mark :: mark :: lineBody characters ++ gap) rest := by
  refine .lineComment isMark (fun isIn => ?_) (fun next isNext => ?_) others
  · have isNoLineFeed := List.all_eq_true.mp List.all_takeWhile _ isIn
    simp at isNoLineFeed
  · have stops := List.head?_dropWhile_not (· != '\n') characters
    rw [← isRest] at isNext
    rw [show (characters.dropWhile (· != '\n')).head? = some next from isNext] at stops
    simpa using stops

/-- One blank or comment and the trivia behind it are trivia. -/
theorem isTrivia_of_triviaItem? {characters item gap rest : List Char}
    (found : triviaItem? characters = some (item, gap ++ rest))
    (others : IsTrivia gap rest) :
    IsTrivia (item ++ gap) rest := by
  fun_cases triviaItem? characters with
  | case1 characters =>
      obtain ⟨rfl, isRest⟩ := Prod.mk.inj (Option.some.inj found)
      exact isTrivia_lineComment (.inl rfl) isRest others
  | case2 characters =>
      obtain ⟨rfl, isRest⟩ := Prod.mk.inj (Option.some.inj found)
      exact isTrivia_lineComment (.inr rfl) isRest others
  | case3 characters inside after closes =>
      rw [triviaItem?, closes] at found
      obtain ⟨rfl, rfl⟩ := Prod.mk.inj (Option.some.inj found)
      obtain ⟨body, rfl, isFirst⟩ := exists_body_of_closeComment? closes
      exact .blockComment isFirst others
  | case4 characters isOpen =>
      rw [triviaItem?, isOpen] at found
      cases found
  | case5 character others' isNoDash isNoSlash isNoStar isBlank =>
      rw [triviaItem?, if_pos isBlank] at found
      · obtain ⟨rfl, rfl⟩ := Prod.mk.inj (Option.some.inj found)
        exact .blank isBlank others
      all_goals assumption
  | case6 character others' isNoDash isNoSlash isNoStar isNoBlank =>
      rw [triviaItem?, if_neg isNoBlank] at found
      · cases found
      all_goals assumption
  | case7 => cases found

/-- What is skipped in front of a token is trivia. -/
theorem isTrivia_skipTrivia (characters : List Char) :
    IsTrivia (skipTrivia characters).1 (skipTrivia characters).2 := by
  fun_induction skipTrivia characters with
  | case1 characters none => exact .nothing _
  | case2 characters item after found others ih =>
      rw [← skipTrivia_append after] at found
      exact isTrivia_of_triviaItem? found ih

/-! ## Steps of a lexer -/

namespace Lexer

/--
What a lexer passes over in one step: trivia up to the end, trivia and a token,
or anything in front of an error.
-/
inductive PassesOver (lexer : Lexer) : Except QueryError Token × Lexer → Prop where
  | ending {after : Lexer}
      (isTrivia : IsTrivia lexer.rest [])
      (isDone : after.phase = .finished) :
      PassesOver lexer (.ok (.endAt (lexer.position.after lexer.rest)), after)
  | fault (error : QueryError) {after : Lexer}
      (isDone : after.phase = .finished) :
      PassesOver lexer (.error error, after)
  | token {gap : List Char} {token : Token} {after : Lexer}
      (isNoEnd : token.content ≠ .endOfInput)
      (isTrivia : IsTrivia gap (token.text.toList ++ after.rest))
      (isAll : lexer.rest = gap ++ (token.text.toList ++ after.rest))
      (isPlace : token.position = lexer.position.after gap)
      (isPlaceAfter : after.position = token.position.after token.text.toList)
      (goesOn : after.phase = .running) :
      PassesOver lexer (.ok token, after)

theorem passesOver_nextToken (lexer : Lexer) : PassesOver lexer lexer.nextToken := by
  have finds := lexer.finds_nextToken
  have isTrivia := isTrivia_skipTrivia lexer.rest
  have isAll := skipTrivia_append lexer.rest
  generalize lexer.nextToken = step at finds ⊢
  cases finds with
  | @ending gap isSkipped =>
      rw [isSkipped] at isTrivia isAll
      obtain rfl : gap = lexer.rest := (List.append_nil gap).symm.trans isAll
      exact .ending isTrivia rfl
  | fault isSkipped fails => exact .fault _ rfl
  | @token gap others first scanned isSkipped found =>
      have lexeme : (String.ofList scanned.lexeme).toList = scanned.lexeme :=
        String.toList_ofList
      have isToken := scan_append found
      rw [isSkipped, ← isToken, ← lexeme] at isTrivia isAll
      exact .token (isNoEnd_scan found) isTrivia isAll.symm rfl (by rw [lexeme]) rfl

end Lexer

/-! ## Layouts -/

/-- The characters of some gaps, each with a token behind it, and of a last gap. -/
def layOut : List (List Char × Token) → List Char → List Char
  | [], last => last
  | (gap, token) :: pieces, last => gap ++ (token.text.toList ++ layOut pieces last)

/--
Items and the characters that they were read from, behind other characters:
gaps and tokens in turn, up to the end or to an error.
-/
structure IsLayout
    (before characters : List Char)
    (items : List (Except QueryError Token))
    (pieces : List (List Char × Token))
    (last : List Char)
    (ending : Except QueryError Token) : Prop where
  areItems : items = pieces.map (fun piece => .ok piece.2) ++ [ending]
  areCharacters : characters = layOut pieces last
  token :
    ∀ {front back : List (List Char × Token)} {gap : List Char} {token : Token},
      pieces = front ++ (gap, token) :: back →
        token.content ≠ .endOfInput ∧
          IsTrivia gap (token.text.toList ++ layOut back last) ∧
          token.position = .behind (before ++ layOut front gap)
  ending :
    ∀ token, ending = .ok token →
      token = .endAt (.behind (before ++ characters)) ∧ IsTrivia last []

/-- Characters without a token in them are a last gap. -/
theorem IsLayout.alone
    {before last : List Char} {ending : Except QueryError Token}
    (isEnd :
      ∀ token, ending = .ok token →
        token = .endAt (.behind (before ++ last)) ∧ IsTrivia last []) :
    IsLayout before last [ending] [] last ending where
  areItems := rfl
  areCharacters := rfl
  token := fun isSplit => absurd isSplit.symm (List.append_ne_nil_of_right_ne_nil _ nofun)
  ending := isEnd

/-- A gap and a token in front of a layout. -/
theorem IsLayout.cons
    {before gap rest last : List Char} {token : Token}
    {items : List (Except QueryError Token)} {pieces : List (List Char × Token)}
    {ending : Except QueryError Token}
    (isNoEnd : token.content ≠ .endOfInput)
    (isTrivia : IsTrivia gap (token.text.toList ++ rest))
    (isPlace : token.position = .behind (before ++ gap))
    (layout : IsLayout (before ++ gap ++ token.text.toList) rest items pieces last ending) :
    IsLayout before (gap ++ (token.text.toList ++ rest)) (.ok token :: items)
      ((gap, token) :: pieces) last ending where
  areItems := by rw [layout.areItems, List.map_cons, List.cons_append]
  areCharacters := by rw [layout.areCharacters, layOut]
  token := by
    intro front back otherGap other isSplit
    cases front with
    | nil =>
        cases isSplit
        exact ⟨isNoEnd, layout.areCharacters ▸ isTrivia, isPlace⟩
    | cons first front =>
        obtain ⟨rfl, isSplitAfter⟩ := List.cons.inj isSplit
        obtain ⟨isOtherNoEnd, isOtherTrivia, isOtherPlace⟩ := layout.token isSplitAfter
        refine ⟨isOtherNoEnd, isOtherTrivia, ?_⟩
        rw [isOtherPlace, layOut]
        simp only [List.append_assoc]
  ending := by
    intro other isEnding
    obtain ⟨isEnd, isLastTrivia⟩ := layout.ending other isEnding
    refine ⟨?_, isLastTrivia⟩
    rw [isEnd]
    simp only [List.append_assoc]

end EventQuery
