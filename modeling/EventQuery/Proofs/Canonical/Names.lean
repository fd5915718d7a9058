import EventQuery.Proofs.Canonical.Derivation
import EventQuery.Proofs.Grammar.Renaming
import Mathlib

/-!
# Written names are read as names

A name is written plain if it is an ASCII word that means nothing else, and between
backticks otherwise.  Either way one token is read off it, which stands for the name and
for nothing else, and the token may take the place of any name of a query:
`Lexer.next_at_name`.  Only the four symbols of arithmetic are refused in one place, as
the function of a call in a column, where they would pass for operators.
-/

namespace EventQuery

open Text Grammar

/-! ## The token -/

/-- A written name is read as one token in front of what does not go on with a word. -/
theorem exists_scansAs_name {name : String} {rest : List Char}
    (isName : IsName name)
    (stops : StopsAt continuesWord rest) :
    ∃ content,
      (Piece.name name).ReadsAs content ∧ ScansAs content (nameText name).toList rest := by
  unfold nameText
  cases isPlain : isPlainName name with
  | false => exact ⟨_, .quotedName isPlain isName, scansAs_quotedName isName rest⟩
  | true =>
      have scans := scansAs_word (isPlainWord_of_isPlainName isPlain) stops
      cases isKeyword : Keyword.ofText? name with
      | none =>
          rw [wordContent_of_none isKeyword] at scans
          exact ⟨_, .plainName isPlain isKeyword, scans⟩
      | some word =>
          rw [wordContent_of_ofText? isKeyword] at scans
          exact ⟨_, .keywordName isPlain isKeyword, scans⟩

/-- No written name is read as a reserved keyword. -/
theorem not_reserved_of_readsAs {name : String} {word : Keyword}
    (reads : (Piece.name name).ReadsAs (.keyword word)) :
    word.isReserved = false := by
  cases reads with
  | keywordName isPlain isKeyword => exact not_reserved_of_isPlainName isPlain isKeyword

/-! ## In the place of other names -/

/-- The name that is put in the place of a placeholder; other names stay. -/
def replacing (placeholder name other : String) : String :=
  if other = placeholder then name else other

/--
Whether a token is accepted with a name wherever a name is accepted.  These are the places
where a query may hold a quoted placeholder that stands nowhere else in it.
-/
def Token.IsAcceptedAs (token : Token) (name : String) : Prop :=
  ∀ (front back : List Token) (other ending : Token) (placeholder : String)
    (maxDepth : Nat) (query : Query),
    other.content = .name placeholder true →
      (∀ beside ∈ front ++ back,
          beside.name? ≠ some placeholder ∧ beside.string? ≠ some placeholder) →
        TokenStream.IsErrorFree ⟨front ++ other :: back, .ok ending⟩ →
          TokenStream.query ⟨front ++ other :: back, .ok ending⟩ maxDepth = .ok query →
            -- A call in a column may not have the name of an operator.
            (∀ item ∈ query.select, placeholder ∈ item.expression.callees →
                ∀ operator : Arithmetic, name ≠ operator.symbol) →
              TokenStream.query ⟨front ++ token :: back, .ok ending⟩ maxDepth =
                .ok (query.renamed (replacing placeholder name))

theorem Token.isAcceptedAs {token : Token} {name : String}
    (isNoBoolean : token.boolean? = none)
    (means : token.name? = some name) :
    token.IsAcceptedAs name := by
  intro front back other ending placeholder maxDepth query isQuoted areBeside isErrorFree reads
    isNoOperator
  -- Only the placeholder is exchanged, so the tokens beside it fit by staying as they are.
  let exchange : Exchange :=
    { name := replacing placeholder name
      token := fun before => if before.name? = some placeholder then token else before }
  have isNamed : other.name? = some placeholder := by rw [Token.name?, isQuoted]
  have isExchanged : exchange.token other = token := if_pos isNamed
  have keepsToken : ∀ beside ∈ front ++ back, exchange.token beside = beside :=
    fun beside isBeside => if_neg (areBeside beside isBeside).1
  have fitsBeside : ∀ beside ∈ front ++ back, exchange.Fits beside := by
    intro beside isBeside
    obtain ⟨isNoName, isNoString⟩ := areBeside beside isBeside
    refine .stays (keepsToken beside isBeside) fun kept isKept => if_neg ?_
    rintro rfl
    exact isKept.elim isNoName isNoString
  have fits : exchange.FitsAll (front ++ other :: back) := by
    obtain ⟨frontFits, backFits⟩ := List.forall_mem_append.mp fitsBeside
    refine fitsAll_append_iff.mpr ⟨frontFits, fitsAll_cons_iff.mpr ⟨?_, backFits⟩⟩
    have isPlaceholder : exchange.name placeholder = name := if_pos rfl
    exact
      .changes isQuoted (by rw [isExchanged, isNoBoolean])
        (by rw [isExchanged, isPlaceholder, means])
  have areAllowed : ∀ item ∈ query.select, exchange.FitsColumn item := by
    intro item isItem function isCallee
    by_cases isSame : function = placeholder
    · have isPlaceholder : exchange.name function = name := if_pos isSame
      rw [isPlaceholder]
      exact Or.inr (isNoOperator item isItem (isSame ▸ isCallee))
    · exact Or.inl (if_neg isSame)
  have renamed := TokenStream.query_renamed isErrorFree fits areAllowed reads
  obtain ⟨keepsFront, keepsBack⟩ := List.forall_mem_append.mp keepsToken
  rwa [List.map_append, List.map_cons, map_eq_self keepsFront, map_eq_self keepsBack,
    isExchanged] at renamed

/-! ## The lexer -/

/--
Off a written name one token is read, with all of its characters.  It stands for the name,
is neither a reserved keyword nor a truth value, and is accepted wherever a name is.
-/
theorem Lexer.next_at_name {lexer : Lexer} {name : String} {following : List Char}
    (isReady : lexer.IsReady)
    (isName : IsName name)
    (stops : StopsAt continuesWord following)
    (isAt : lexer.rest = (nameText name).toList ++ following) :
    ∃ token : Token,
      lexer.next = (some (.ok token), lexer.behind (nameText name).toList following) ∧
        token.text = nameText name ∧ token.position = lexer.position ∧
        token.name? = some name ∧
        (∀ word, token.content = .keyword word → word.isReserved = false) ∧
        token.boolean? = none ∧ token.IsAcceptedAs name := by
  obtain ⟨content, reads, scans⟩ := exists_scansAs_name isName stops
  have gives := next_of_scansAs isReady scans isAt
  rw [String.ofList_toList] at gives
  obtain ⟨isNoBoolean, means⟩ :=
    @name?_of_readsAs name ⟨content, nameText name, lexer.position⟩ reads rfl
  refine ⟨_, gives, rfl, rfl, means, ?_, isNoBoolean, Token.isAcceptedAs isNoBoolean means⟩
  rintro word rfl
  exact not_reserved_of_readsAs reads

/-- A name like a reserved keyword is quoted; one like another keyword stays plain. -/
theorem Lexer.next_at_name_keywords :
    (∃ token : Token,
      (new "\x60LIMIT\x60 > 1" none).next =
          (some (.ok token),
            (new "\x60LIMIT\x60 > 1" none).behind "\x60LIMIT\x60".toList " > 1".toList) ∧
        token.text = "\x60LIMIT\x60" ∧ token.position = .start ∧
        token.name? = some "LIMIT" ∧
        (∀ word, token.content = .keyword word → word.isReserved = false) ∧
        token.boolean? = none ∧ token.IsAcceptedAs "LIMIT") ∧
      ∃ token : Token,
        (new "minute" none).next =
            (some (.ok token), (new "minute" none).behind "minute".toList []) ∧
          token.text = "minute" ∧ token.position = .start ∧
          token.name? = some "minute" ∧
          (∀ word, token.content = .keyword word → word.isReserved = false) ∧
          token.boolean? = none ∧ token.IsAcceptedAs "minute" := by
  have isReady (source : String) : (new source none).IsReady := Or.inr ⟨rfl, rfl⟩
  have isQuoted : nameText "LIMIT" = "\x60LIMIT\x60" := by decide +kernel
  have isPlain : nameText "minute" = "minute" := by decide +kernel
  constructor
  · obtain ⟨token, gives, text, others⟩ :=
      @next_at_name _ "LIMIT" " > 1".toList (isReady "\x60LIMIT\x60 > 1")
        ⟨by decide, by decide⟩ (stopsAt_cons (by decide +kernel)) (by decide +kernel)
    rw [isQuoted] at gives text
    exact ⟨token, gives, text, others⟩
  · obtain ⟨token, gives, text, others⟩ :=
      @next_at_name _ "minute" [] (isReady "minute")
        ⟨by decide, by decide⟩ (stopsAt_nil _) (by decide +kernel)
    rw [isPlain] at gives text
    exact ⟨token, gives, text, others⟩

/--
The sign of addition is a name, and may not stand where another quoted name does: as the
function of a column.
-/
theorem Query.refuses_signCall :
    IsName "+" ∧ nameText "+" = "\x60+\x60" ∧
      (parseWithin ⟨64, none⟩ "SELECT \x60sum\x60(a) FROM sale").isOk = true ∧
      parseWithin ⟨64, none⟩ "SELECT \x60+\x60(a) FROM sale" =
        .error
          (.parse ⟨1, 8⟩ [.selectItem] (.token ⟨.name "+" true, "\x60+\x60", ⟨1, 8⟩⟩)) := by
  exact ⟨⟨by decide, by decide⟩, by decide +kernel, by cbv, by cbv⟩

end EventQuery
