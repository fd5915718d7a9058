import EventQuery.Proofs.Canonical.Derivation

/-!
# Canonical text is read back

A well-formed query with finite numbers is read off its own canonical text
again, however it was made.  For a query that was itself read off a text, twice
the depth that was enough for that text is enough for the canonical one.  More
exactly, canonical text needs one level more for each pair of minus signs that
meet, since it puts the second one in parentheses; without such a pair it needs
no more than the text that was read.
-/

namespace EventQuery

open Grammar Piece

/-- Every piece but a space is read as a token and has a character. -/
theorem Piece.length_le_of_areReadAs {pieces : List Piece} {tokens : List Token}
    (areRead : AreReadAs pieces tokens) :
    tokens.length ≤ (textOf pieces).length := by
  have isLong : tokens.length ≤ (textOf pieces).toList.length := by
    induction areRead with
    | nil => exact Nat.zero_le _
    | space rest ih =>
        rw [toList_textOf_cons, List.length_append]
        omega
    | token reads isSpelled rest ih =>
        have isNonempty := List.length_pos_iff.mpr (ne_nil_of_readsAs reads)
        rw [toList_textOf_cons, List.length_append, List.length_cons]
        omega
  rwa [String.length_toList] at isLong

namespace Query

theorem areWritable_numbers {query : Query}
    (isWellFormed : query.IsWellFormed)
    (areFinite : ∀ number ∈ query.numbers, number.isFinite = true) :
    ∀ number ∈ query.numbers, number.IsWritable :=
  fun number isIn => ⟨areFinite number isIn, isWellFormed.numbers number isIn⟩

/-- The canonical text of a query holds no error, and its tokens are a phrase of the query. -/
theorem phrase_of_text {query : Query}
    (isWellFormed : query.IsWellFormed)
    (areFinite : ∀ number ∈ query.numbers, number.isFinite = true) :
    (TokenStream.ofSource query.text none).IsErrorFree ∧
      (TokenStream.ofSource query.text none).tokens.length ≤ query.text.length ∧
      QueryPhrase query.nesting (TokenStream.ofSource query.text none).tokens query := by
  have areWritable := areWritable_numbers isWellFormed areFinite
  obtain ⟨areReadable, isChain⟩ := isWellFormed.areLegible_pieces
  obtain ⟨tokens, ending, equal, areRead⟩ :=
    TokenStream.exists_ofSource_textOf areReadable isChain
  have stream : TokenStream.ofSource query.text none = ⟨tokens, .ok ending⟩ := equal
  have isErrorFree : (TokenStream.ofSource query.text none).IsErrorFree :=
    @TokenStream.isErrorFree_ofSource _ _ ending (by rw [stream])
  rw [stream] at isErrorFree ⊢
  exact
    ⟨isErrorFree, length_le_of_areReadAs areRead,
      phrase_of_areReadAs isWellFormed areWritable areRead⟩

/-- A depth that is enough for the canonical text is its nesting. -/
theorem parseWithin_text_of_nesting_le {query : Query} {maxDepth : Nat}
    (isWellFormed : query.IsWellFormed)
    (areFinite : ∀ number ∈ query.numbers, number.isFinite = true)
    (isDeep : query.nesting ≤ maxDepth) :
    parseWithin ⟨maxDepth, none⟩ query.text = .ok query := by
  obtain ⟨isErrorFree, _, phrase⟩ := phrase_of_text isWellFormed areFinite
  exact (TokenStream.query_eq_ok_iff isErrorFree).mpr (phrase.mono isDeep)

/--
A well-formed query with finite numbers is read off its canonical text, with no
bound on nesting that the text could reach.
-/
theorem parseWithin_text {query : Query} {maxDepth : Nat}
    (isWellFormed : query.IsWellFormed)
    (areFinite : ∀ number ∈ query.numbers, number.isFinite = true)
    (isUnlimited : query.text.length ≤ maxDepth) :
    parseWithin ⟨maxDepth, none⟩ query.text = .ok query := by
  obtain ⟨isErrorFree, isShort, phrase⟩ := phrase_of_text isWellFormed areFinite
  have isWithin := Nat.le_trans isShort isUnlimited
  exact
    (TokenStream.query_eq_ok_iff isErrorFree).mpr (phrase.nested_within_length.mono isWithin)

end Query

/-- The column that counts all events, under whatever name. -/
theorem SelectItem.isWellFormed_countAll (aliasName : Option String) :
    SelectItem.IsWellFormed ⟨"count", [.wildcard], aliasName⟩ := by
  have isNoOperator (operator : Arithmetic) : "count" ≠ operator.symbol := by
    cases operator <;> decide
  have isName : IsName "count" := by simp [IsName]
  exact ⟨_, .call isNoOperator, .call, .call isName (by simp)⟩

namespace Query

/-- A query with names, strings and numbers that are not as they are usually written. -/
def strange : Query where
  select := [⟨"count", [.wildcard], some "it's\n"⟩]
  sources := ["true", "last sale"]
  condition :=
    some
      (.binary (.comparison .less)
        (.binary (.arithmetic .subtract) (.field "select")
          (.literal (.number (.float (.ofRank true 0)))))
        (.unary .negate (.unary .negate (.field "-"))))
  since := some (.timestamp "\t\\")

theorem strange_isWellFormed : strange.IsWellFormed where
  selects := by simp [strange]
  columns := by
    intro item isIn
    obtain rfl := List.mem_singleton.mp isIn
    exact SelectItem.isWellFormed_countAll (some "it's\n")
  hasSources := by simp [strange]
  sources := by simp [strange, IsName]
  condition := by
    intro expression isIn
    cases isIn
    refine ⟨?_, rfl, rfl⟩
    have hasNames : IsName "select" ∧ IsName "-" := by simp [IsName]
    exact
      .binary (.binary (.field hasNames.1) .literal)
        (.negate (.negate (.field hasNames.2) (by simp)) (by simp))
  facet := by simp [strange]
  limit := by simp [strange]
  since := by simp [strange, TimeSpec.IsWellFormed]
  upTo := by simp [strange]
  compareWith := by simp [strange]
  timeseries := by simp [strange]
  numbers := by
    simp [strange, numbers, Expression.numbers, Expression.listNumbers, Literal.numbers]

theorem strange_areFinite : ∀ number ∈ strange.numbers, number.isFinite = true := by
  have onlyZero : strange.numbers = [.float (.ofRank true 0)] := rfl
  rw [onlyZero]
  exact List.forall_mem_singleton.mpr (by decide)

theorem parseWithin_text_strange :
    parseWithin ⟨strange.text.length, none⟩ strange.text = .ok strange :=
  parseWithin_text strange_isWellFormed strange_areFinite (Nat.le_refl _)

/--
A query that was read off a text is read off its canonical text again, as soon
as twice the depth is allowed, and however long the canonical text is.
-/
theorem parseWithin_text_of_parseWithin
    {limits : Limits} {source : String} {query : Query} {maxDepth : Nat}
    (reads : parseWithin limits source = .ok query)
    (areFinite : ∀ number ∈ query.numbers, number.isFinite = true)
    (isDeep : 2 * limits.maxDepth ≤ maxDepth) :
    parseWithin ⟨maxDepth, none⟩ query.text = .ok query := by
  obtain ⟨_, phrase⟩ := TokenStream.phrase_of_query_ofSource reads
  have areProper : AreProper (TokenStream.ofSource source limits.maxLength).tokens :=
    fun token isIn => TokenStream.isProper_ofSource isIn
  exact
    parseWithin_text_of_nesting_le (phrase.isWellFormed areProper) areFinite
      (Nat.le_trans (phrase.nesting_le areProper) isDeep)

/-- Two minus signs in a row, which canonical text keeps apart by parentheses. -/
def twoSigns : Query where
  select := [⟨"max", [.unary .negate (.unary .negate (.field "x"))], none⟩]
  sources := ["sale"]

theorem parseWithin_text_of_parseWithin_twoSigns :
    parseWithin ⟨3, none⟩ "SELECT max(- - x) FROM sale" = .ok twoSigns ∧
      parseWithin ⟨6, none⟩ twoSigns.text = .ok twoSigns := by
  have reads : parseWithin ⟨3, none⟩ "SELECT max(- - x) FROM sale" = .ok twoSigns := by
    cbv
  have hasNoNumber : twoSigns.numbers = [] := rfl
  have areFinite : ∀ number ∈ twoSigns.numbers, number.isFinite = true := by
    simp [hasNoNumber]
  exact ⟨reads, parseWithin_text_of_parseWithin reads areFinite (by decide)⟩

/--
The depth that was enough for a text is enough for the canonical text as well,
but for one level for each minus sign that meets another one.
-/
theorem parseWithin_text_of_doubledSigns
    {limits : Limits} {source : String} {query : Query} {maxDepth : Nat}
    (reads : parseWithin limits source = .ok query)
    (areFinite : ∀ number ∈ query.numbers, number.isFinite = true)
    (isDeep : limits.maxDepth + query.doubledSigns ≤ maxDepth) :
    parseWithin ⟨maxDepth, none⟩ query.text = .ok query := by
  obtain ⟨_, phrase⟩ := TokenStream.phrase_of_query_ofSource reads
  have areProper : AreProper (TokenStream.ofSource source limits.maxLength).tokens :=
    fun token isIn => TokenStream.isProper_ofSource isIn
  exact
    parseWithin_text_of_nesting_le (phrase.isWellFormed areProper) areFinite
      (Nat.le_trans (phrase.nesting_le_add areProper).1 isDeep)

/-- A minus sign in front of a group with a minus sign inside, where no two signs meet. -/
def oppositeProduct : Query where
  select := [⟨"max",
    [.unary .negate
      (.binary (.arithmetic .multiply) (.field "x") (.unary .negate (.field "y")))], none⟩]
  sources := ["sale"]

theorem parseWithin_text_of_doubledSigns_oppositeProduct :
    parseWithin ⟨4, none⟩ "SELECT max(-(x * -y)) FROM sale" = .ok oppositeProduct ∧
      oppositeProduct.doubledSigns = 0 ∧
      parseWithin ⟨4, none⟩ oppositeProduct.text = .ok oppositeProduct := by
  have reads :
      parseWithin ⟨4, none⟩ "SELECT max(-(x * -y)) FROM sale" = .ok oppositeProduct := by
    cbv
  have hasNoNumber : oppositeProduct.numbers = [] := rfl
  have areFinite : ∀ number ∈ oppositeProduct.numbers, number.isFinite = true := by
    simp [hasNoNumber]
  have hasNoDoubledSign : oppositeProduct.doubledSigns = 0 := by cbv
  have isDeep : 4 + oppositeProduct.doubledSigns ≤ 4 := Nat.le_of_eq (by rw [hasNoDoubledSign])
  exact ⟨reads, hasNoDoubledSign, parseWithin_text_of_doubledSigns reads areFinite isDeep⟩

/-- The canonical text of two minus signs in a row is refused at the depth of the text itself. -/
theorem not_parseWithin_text_twoSigns :
    parseWithin ⟨3, none⟩ "SELECT max(- - x) FROM sale" = .ok twoSigns ∧
      (∀ number ∈ twoSigns.numbers, number.isFinite = true) ∧
      twoSigns.text = "SELECT max(-(-x)) FROM sale" ∧
      ∃ position found,
        parseWithin ⟨3, none⟩ twoSigns.text =
          .error (.parse position [.nestingAtMost 3] found) := by
  have hasNoNumber : twoSigns.numbers = [] := rfl
  refine ⟨by cbv, by simp [hasNoNumber], by cbv, ⟨1, 14⟩,
    .token ⟨.arithmetic .subtract, "-", ⟨1, 14⟩⟩, ?_⟩
  cbv

end Query

end EventQuery
