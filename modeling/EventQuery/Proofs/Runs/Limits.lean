import EventQuery.Proofs.Runs.Outcome
import EventQuery.Proofs.Token.Limit

/-!
# Limits only filter

One text is read within two limits, side by side.  The tighter ones either make
no difference or refuse the text, and the error says which of them does so:
`parseWithin_filtered`.
-/

namespace EventQuery

open Grammar

namespace Limits

/-- One pair of limits allows nothing that another pair does not allow. -/
structure IsWithin (tight loose : Limits) : Prop where
  depth : tight.maxDepth ≤ loose.maxDepth
  length :
    ∀ bound, loose.maxLength = some bound →
      ∃ smaller, tight.maxLength = some smaller ∧ smaller ≤ bound

/-- The errors by which limits refuse a text. -/
inductive Refuses (limits : Limits) : QueryError → Prop where
  | tooLong {bound : Nat} (position : Position) (character : Char)
      (isLimit : limits.maxLength = some bound) :
      Refuses limits (.lex position (.tooLong bound character))
  | tooDeep {expected : List Expectation} (position : Position) (found : Found)
      (wording :
        expected.map Expectation.text =
          ["at most " ++ Decimal.naturalText limits.maxDepth ++ " levels of nesting"]) :
      Refuses limits (.parse position expected found)

/--
How what a text is read as within tighter limits compares to what it is read as
within looser ones.
-/
structure Filter (tight loose : Limits) (source : String) : Prop where
  sameOrRefused :
    Query.parseWithin tight source = Query.parseWithin loose source ∨
      ∃ error, Query.parseWithin tight source = .error error ∧ tight.Refuses error
  isTooLong_iff :
    ∀ bound,
      (∃ position character,
          Query.parseWithin tight source = .error (.lex position (.tooLong bound character))) ↔
        tight.maxLength = some bound ∧ bound < source.utf8ByteSize
  keepsQuery :
    ∀ query, Query.parseWithin tight source = .ok query →
      Query.parseWithin loose source = .ok query
  keepsError :
    ∀ error, Query.parseWithin tight source = .error error → ¬ tight.Refuses error →
      Query.parseWithin loose source = .error error

theorem IsWithin.fitsWithin {tight loose : Limits} {source : String}
    (isWithin : tight.IsWithin loose)
    (fits : FitsWithin source tight.maxLength) :
    FitsWithin source loose.maxLength := by
  intro bound isLimit
  obtain ⟨smaller, isTightLimit, isSmaller⟩ := isWithin.length bound isLimit
  exact Nat.le_trans (fits smaller isTightLimit) isSmaller

end Limits

/-! ## The limit on nesting -/

section Nesting

namespace Grammar.TwoRuns

variable {runs : TwoRuns}

/-- If only a token itself stands where it stands, errors that agree are the same. -/
theorem ErrorsAgree.eq {error other : QueryError}
    (isSame : ∀ {token twin : Token}, runs.Twins token twin → token = twin)
    (errors : runs.ErrorsAgree error other) :
    error = other := by
  cases errors with
  | ending ends => rfl
  | unexpected expected twins => rw [isSame twins]
  | condition expression twins => rw [isSame twins]
  | time twins faults =>
      rw [isSame twins]
      cases faults with
      | notAPoint clause twins => rw [isSame twins]
      | notAnAmount twins => rw [isSame twins]
      | notAUnit twins => rw [isSame twins]
      | missingAgo amount units twins => rw [isSame units, isSame twins]

end Grammar.TwoRuns

namespace TokenStream

variable {stream : TokenStream} {tight loose : Nat}

/-- The two runs that read one stream within two limits on nesting. -/
def runsWithin (stream : TokenStream) (isTighter : tight ≤ loose) : TwoRuns where
  first := ⟨stream.ending, tight⟩
  second := ⟨stream.ending, loose⟩
  Twins := Eq
  agrees := fun isSame => isSame ▸ .refl _
  endings := by
    cases stream.ending with
    | ok ending => exact .inl ⟨ending, ending, rfl, rfl, rfl⟩
    | error error => exact .inr ⟨error, rfl, rfl⟩
  isTighter := isTighter

/-- A tighter limit on nesting makes no difference, or some token goes beyond it. -/
theorem query_eq_or_tooDeep (stream : TokenStream) (isTighter : tight ≤ loose) :
    stream.query tight = stream.query loose ∨
      ∃ token, stream.query tight = .error (.unexpected token [.nestingAtMost tight]) := by
  have agree :
      (stream.runsWithin isTighter).Agree Eq (stream.query tight) (stream.query loose) :=
    TwoRuns.query_agree ⟨List.forall₂_same.mpr fun _ _ => rfl, rfl⟩
  generalize stream.query tight = outcome at agree ⊢
  generalize stream.query loose = otherOutcome at agree ⊢
  cases agree with
  | ok same => exact .inl (congrArg _ same)
  | error errors => exact .inl (congrArg _ (errors.eq id))
  | @tooDeep token _ isLess => exact .inr ⟨token, rfl⟩

end TokenStream

end Nesting

/-! ## Both limits -/

section Texts

variable {source : String}

/-- An error about characters is the one behind the tokens of a text. -/
theorem TokenStream.ending_of_query_eq_lex
    {limit : Option Nat} {maxDepth : Nat} {position : Position} {fault : LexFault}
    (fails : (ofSource source limit).query maxDepth = .error (.lex position fault)) :
    (ofSource source limit).ending = .error (.lex position fault) := by
  rcases (corresponds_itself source limit).query maxDepth with
    ⟨query, reads, _⟩ | ⟨error, _, failsToo, _, ⟨ends, _⟩ | standAtTwins⟩
  · cases fails.symm.trans reads
  · cases fails.symm.trans failsToo
    exact ends
  · cases fails.symm.trans failsToo
    obtain ⟨_, _, _, stands, _⟩ := standAtTwins.stand
    exact absurd rfl (stands.isNoLex position fault)

/-- A text with more bytes than allowed is refused for that, whatever it says. -/
theorem Query.parseWithin_of_exceeds {limits : Limits} {bound : Nat}
    (isLimit : limits.maxLength = some bound)
    (exceeds : bound < source.utf8ByteSize) :
    ∃ position character,
      parseWithin limits source = .error (.lex position (.tooLong bound character)) := by
  obtain ⟨position, character, isAll⟩ := TokenStream.ofSource_of_exceeds exceeds
  refine ⟨position, character, ?_⟩
  rw [parseWithin, isLimit, isAll]
  rfl

/-- A text is refused for its length exactly if it has more bytes than allowed. -/
theorem Query.parseWithin_eq_tooLong_iff {limits : Limits} {bound : Nat} :
    (∃ position character,
        parseWithin limits source = .error (.lex position (.tooLong bound character))) ↔
      limits.maxLength = some bound ∧ bound < source.utf8ByteSize := by
  constructor
  · rintro ⟨position, character, fails⟩
    rcases fitsWithin_or_exceeds source limits.maxLength with fits | ⟨other, isLimit, exceeds⟩
    · have ends := TokenStream.ending_of_query_eq_lex fails
      cases TokenStream.isAboutLength_ofSource fits ends
    · obtain ⟨_, _, failsToo⟩ := parseWithin_of_exceeds isLimit exceeds
      cases fails.symm.trans failsToo
      exact ⟨isLimit, exceeds⟩
  · rintro ⟨isLimit, exceeds⟩
    exact parseWithin_of_exceeds isLimit exceeds

/-- Tighter limits make no difference, or refuse the text. -/
theorem Query.parseWithin_eq_or_refused {tight loose : Limits}
    (isWithin : tight.IsWithin loose)
    (source : String) :
    parseWithin tight source = parseWithin loose source ∨
      ∃ error, parseWithin tight source = .error error ∧ tight.Refuses error := by
  rcases fitsWithin_or_exceeds source tight.maxLength with fits | ⟨bound, isLimit, exceeds⟩
  · have sameStream := TokenStream.ofSource_eq_of_fits fits (isWithin.fitsWithin fits)
    unfold parseWithin
    rw [sameStream]
    refine (TokenStream.query_eq_or_tooDeep _ isWithin.depth).imp_right ?_
    rintro ⟨token, fails⟩
    exact ⟨_, fails, .tooDeep _ _ rfl⟩
  · obtain ⟨position, character, fails⟩ := parseWithin_of_exceeds isLimit exceeds
    exact .inr ⟨_, fails, .tooLong position character isLimit⟩

/--
Limits only filter: a text is read within tighter ones as it is within looser
ones, or they refuse it, for its length exactly if it is too long.
-/
theorem Query.parseWithin_filtered {tight loose : Limits}
    (isWithin : tight.IsWithin loose)
    (source : String) :
    tight.Filter loose source where
  sameOrRefused := parseWithin_eq_or_refused isWithin source
  isTooLong_iff := fun _ => parseWithin_eq_tooLong_iff
  keepsQuery := by
    intro query reads
    rcases parseWithin_eq_or_refused isWithin source with isSame | ⟨error, fails, _⟩
    · exact isSame.symm.trans reads
    · cases reads.symm.trans fails
  keepsError := by
    intro error fails isOther
    rcases parseWithin_eq_or_refused isWithin source with isSame | ⟨refusal, failsToo, refuses⟩
    · exact isSame.symm.trans fails
    · cases fails.symm.trans failsToo
      exact absurd refuses isOther

/-- A text of 25 bytes is as long as allowed, and the group in its call is one level too deep. -/
theorem Query.parseWithin_filtered_group :
    Limits.IsWithin ⟨1, some 25⟩ ⟨64, none⟩ ∧
      Limits.Filter ⟨1, some 25⟩ ⟨64, none⟩ "SELECT max((x)) FROM sale" := by
  have isWithin : Limits.IsWithin ⟨1, some 25⟩ ⟨64, none⟩ :=
    ⟨by decide, fun _ isLimit => nomatch isLimit⟩
  exact ⟨isWithin, parseWithin_filtered isWithin _⟩

end Texts

end EventQuery
