import EventQuery.Proofs.Json.Number
import EventQuery.Proofs.Json.String

/-!
# Reading JSON values step by step

The reader meets a value with blanks in front of it, so what is shown of it is
about any characters that are the value's text once their blanks are gone.
Arrays and objects are read one item at a time: `Inside` is what stands behind
an opening bracket, and `Following` what stands behind an item.

Only integers that do not fit into 64 bits and infinities have no text of their
own, and no text is read as one of them: `isExpressible_of_ofText?`.
-/

namespace EventQuery.Json

open Text

/-- Values that text can write: integers fit into 64 bits, and numbers are finite. -/
inductive IsExpressible : Json → Prop where
  | null :
      IsExpressible .null
  | boolean (value : Bool) :
      IsExpressible (.boolean value)
  | integer {value : Int}
      (isInRange : isIntegerRange value = true) :
      IsExpressible (.integer value)
  | float {value : Decimal.Binary64}
      (isFinite : value.isFinite = true) :
      IsExpressible (.float value)
  | string (value : String) :
      IsExpressible (.string value)
  | array {items : List Json}
      (areExpressible : ∀ item ∈ items, IsExpressible item) :
      IsExpressible (.array items)
  | object {fields : List (String × Json)}
      (areExpressible : ∀ field ∈ fields, IsExpressible field.2) :
      IsExpressible (.object fields)

/-! ## Blanks -/

theorem afterSpaces_append {blanks characters : List Char}
    (areBlank : ∀ character ∈ blanks, isSpace character = true) :
    afterSpaces (blanks ++ characters) = afterSpaces characters := by
  unfold afterSpaces
  rw [List.dropWhile_append_of_pos areBlank]

theorem afterSpaces_cons {first : Char} {rest : List Char} (isVisible : isSpace first = false) :
    afterSpaces (first :: rest) = first :: rest := by
  unfold afterSpaces
  rw [List.dropWhile_cons_of_neg]
  simpa using isVisible

/-! ## Results of reading -/

/-- A reader gives the value and leaves the rest. -/
def Reads {α : Type} {bound : Nat} (result : Option (Read α bound)) (value : α)
    (rest : List Char) : Prop :=
  ∃ isShorter, result = some ⟨value, rest, isShorter⟩

theorem Reads.mapped {α β : Type} {narrow wide : Nat} {result : Option (Read α narrow)}
    {value : α} {rest : List Char} {function : α → β} {isWider : narrow ≤ wide}
    (reads : Reads result value rest) :
    Reads (result.map fun read => (read.map function).widen isWider) (function value) rest := by
  obtain ⟨isShorter, rfl⟩ := reads
  exact ⟨Nat.lt_of_lt_of_le isShorter isWider, rfl⟩

theorem reads_some {α : Type} {bound : Nat} {value : α} {rest : List Char}
    (isShorter : rest.length < bound) :
    Reads (some ⟨value, rest, isShorter⟩) value rest :=
  ⟨isShorter, rfl⟩

/-! ## Truth values, the null and numbers -/

/-- The characters that a truth value, the null or a number can start with. -/
def startsAtom (character : Char) : Bool :=
  character.isDigit || ['-', 'n', 't', 'f'].contains character

/-- The text of a value that is neither a string nor holds other values. -/
structure IsAtom (text : List Char) (value : Json) : Prop where
  starts : ∃ first others, text = first :: others ∧ startsAtom first = true
  reads : ∀ {rest}, EndsNumber rest → readAtom (text ++ rest) = some (value, rest)

theorem afterWord?_append (word rest : List Char) :
    afterWord? word (word ++ rest) = some rest := by
  simp [afterWord?, List.isPrefixOf_iff_prefix]

theorem afterWord?_eq_none {first other : Char} {word rest : List Char}
    (isOther : first ≠ other) :
    afterWord? (first :: word) (other :: rest) = none := by
  simp [afterWord?, isOther]

theorem isAtom_null : IsAtom ['n', 'u', 'l', 'l'] .null where
  starts := ⟨'n', _, rfl, rfl⟩
  reads := fun {rest} _ => by
    have isWord := afterWord?_append ['n', 'u', 'l', 'l'] rest
    rw [readAtom, isWord]

theorem isAtom_boolean (value : Bool) : IsAtom (boolean value).scalarText (.boolean value) := by
  cases value with
  | true =>
      refine ⟨⟨'t', _, rfl, rfl⟩, fun {rest} _ => ?_⟩
      have isWord := afterWord?_append ['t', 'r', 'u', 'e'] rest
      rw [readAtom, scalarText, isWord]
      rfl
  | false =>
      refine ⟨⟨'f', _, rfl, rfl⟩, fun {rest} _ => ?_⟩
      have isWord := afterWord?_append ['f', 'a', 'l', 's', 'e'] rest
      rw [readAtom, scalarText, isWord]
      rfl

theorem isAtom_number {number : NumberText} {value : Json}
    (isProper : number.IsProper)
    (isValue : number.value? = some value) :
    IsAtom number.characters value := by
  have starts : ∃ first others, number.characters = first :: others ∧
      (first.isDigit = true ∨ first = '-') := by
    obtain ⟨negative, whole, fraction, exponent⟩ := number
    unfold NumberText.characters
    cases negative with
    | true => exact ⟨'-', _, rfl, .inr rfl⟩
    | false =>
        obtain ⟨first, others, isCons⟩ := List.exists_cons_of_ne_nil isProper.isWhole.isNonempty
        dsimp only at isCons
        subst isCons
        exact ⟨first, _, rfl, .inl (isProper.isWhole.areDigits first List.mem_cons_self)⟩
  obtain ⟨first, others, isCons, isFirst⟩ := starts
  have isNoWord {letter : Char} (isNoDigit : letter.isDigit = false) (isNoSign : letter ≠ '-') :
      letter ≠ first := by
    rintro rfl
    rcases isFirst with isDigit | isSign
    · rw [isNoDigit] at isDigit
      cases isDigit
    · exact isNoSign isSign
  refine ⟨⟨first, others, isCons, ?_⟩, fun {rest} ends => ?_⟩
  · rcases isFirst with isDigit | rfl
    · rw [startsAtom, isDigit, Bool.true_or]
    · rfl
  · have reads := readNumber_characters isProper ends
    rw [isCons, List.cons_append] at reads ⊢
    rw [readAtom, afterWord?_eq_none (isNoWord rfl (by decide)),
      afterWord?_eq_none (isNoWord rfl (by decide)),
      afterWord?_eq_none (isNoWord rfl (by decide)), reads]
    simp [isValue]

theorem isAtom_integer {value : Int} (isInRange : isIntegerRange value = true) :
    IsAtom (integer value).scalarText (.integer value) := by
  rw [scalarText, toList_integerText]
  exact isAtom_number (isProper_ofInt value) (value?_ofInt isInRange)

theorem isAtom_float {value : Decimal.Binary64} (isFinite : value.isFinite = true) :
    IsAtom (float value).scalarText (.float value) := by
  obtain ⟨number, isText, isProper, isValue⟩ := exists_numberText isFinite
  rw [scalarText, isText]
  exact isAtom_number isProper isValue

theorem ne_of_startsAtom {first other : Char}
    (starts : startsAtom first = true)
    (isOther : startsAtom other = false) :
    first ≠ other := by
  rintro rfl
  rw [starts] at isOther
  cases isOther

theorem isVisible_of_startsAtom {first : Char} (starts : startsAtom first = true) :
    isSpace first = false := by
  have isNone (blank : Char) (isOther : startsAtom blank = false) : (first == blank) = false :=
    beq_false_of_ne (ne_of_startsAtom starts isOther)
  rw [isSpace, isNone ' ' rfl, isNone '\n' rfl, isNone '\r' rfl, isNone '\t' rfl]
  rfl

section Values

variable {characters rest : List Char}

theorem length_le_of_afterSpaces {text : List Char} (starts : afterSpaces characters = text) :
    text.length ≤ characters.length :=
  starts ▸ length_dropWhile_le isSpace characters

/-- Behind its blanks an atom is read as its value. -/
theorem readValue_of_isAtom {text : List Char} {value : Json}
    (isAtom : IsAtom text value)
    (starts : afterSpaces characters = text ++ rest)
    (ends : EndsNumber rest) :
    Reads (readValue characters) value rest := by
  obtain ⟨first, others, isCons, isFirst⟩ := isAtom.starts
  have reads := isAtom.reads ends
  have isShorter : rest.length < characters.length := by
    have isLong := length_le_of_afterSpaces starts
    rw [isCons, List.length_append, List.length_cons] at isLong
    omega
  have isOther {other : Char} {following : List Char}
      (startsToo : afterSpaces characters = other :: following) :
      startsAtom other = true := by
    rw [starts, isCons] at startsToo
    rw [← (List.cons_eq_cons.mp startsToo).1]
    exact isFirst
  rw [readValue]
  split
  · rename_i startsToo
    cases isOther startsToo
  · rename_i startsToo
    cases isOther startsToo
  · rename_i startsToo
    cases isOther startsToo
  · rw [starts, reads, bounded, dif_pos isShorter]
    exact reads_some isShorter

/-- Behind its blanks a written string is read as the string. -/
theorem readValue_of_stringText {value : String}
    (starts : afterSpaces characters = stringText value ++ rest) :
    Reads (readValue characters) (.string value) rest := by
  obtain ⟨body, isText, reads⟩ := stringText_append value rest
  rw [isText] at starts
  rw [readValue]
  split
  · rename_i following startsToo
    cases startsToo.symm.trans starts
    split
    · rename_i fails
      rw [reads] at fails
      cases fails
    · rename_i inner after readsToo
      cases readsToo.symm.trans reads
      rw [String.ofList_toList]
      exact reads_some _
  · rename_i startsToo
    cases startsToo.symm.trans starts
  · rename_i startsToo
    cases startsToo.symm.trans starts
  · rename_i isNoString _ _
    exact absurd starts (isNoString body)

/-! ## Arrays and objects, one step at a time -/

section Steps

variable {α : Type} (closing : Char)
  (read : (characters : List Char) → Option (Read (List α) characters.length))

/-- What stands behind an opening bracket: the closing one, or items and the closing one. -/
inductive Inside (inner : List Char) : List α → List Char → Prop where
  | empty {rest : List Char}
      (closes : afterSpaces inner = closing :: rest) :
      Inside inner [] rest
  | filled {items : List α} {rest : List Char}
      (isOpen : (afterSpaces inner).head? ≠ some closing)
      (reads : Reads (read inner) items rest) :
      Inside inner items rest

/-- What stands behind an item: the closing bracket, or a comma and more items. -/
inductive Following (after : List Char) : List α → List Char → Prop where
  | last {rest : List Char}
      (closes : afterSpaces after = closing :: rest) :
      Following after [] rest
  | more {inner : List Char} {items : List α} {rest : List Char}
      (goesOn : afterSpaces after = ',' :: inner)
      (reads : Reads (read inner) items rest) :
      Following after items rest

end Steps

theorem readValue_of_array {inner : List Char} {items : List Json}
    (starts : afterSpaces characters = '[' :: inner)
    (inside : Inside ']' readItems inner items rest) :
    Reads (readValue characters) (.array items) rest := by
  rw [readValue]
  split
  · rename_i startsToo
    cases startsToo.symm.trans starts
  · rename_i startsToo
    cases startsToo.symm.trans starts
    split
    · rename_i closesToo
      cases inside with
      | empty closes =>
          cases closesToo.symm.trans closes
          exact reads_some _
      | filled isOpen reads =>
          rw [closesToo] at isOpen
          exact absurd rfl isOpen
    · rename_i isOther
      cases inside with
      | empty closes => exact absurd closes (isOther _)
      | filled isOpen reads => exact reads.mapped
  · rename_i startsToo
    cases startsToo.symm.trans starts
  · rename_i isNoArray _
    exact absurd starts (isNoArray _)

theorem readValue_of_object {inner : List Char} {fields : List (String × Json)}
    (starts : afterSpaces characters = '\x7b' :: inner)
    (inside : Inside '\x7d' readFields inner fields rest) :
    Reads (readValue characters) (.object fields) rest := by
  rw [readValue]
  split
  · rename_i startsToo
    cases startsToo.symm.trans starts
  · rename_i startsToo
    cases startsToo.symm.trans starts
  · rename_i startsToo
    cases startsToo.symm.trans starts
    split
    · rename_i closesToo
      cases inside with
      | empty closes =>
          cases closesToo.symm.trans closes
          exact reads_some _
      | filled isOpen reads =>
          rw [closesToo] at isOpen
          exact absurd rfl isOpen
    · rename_i isOther
      cases inside with
      | empty closes => exact absurd closes (isOther _)
      | filled isOpen reads => exact reads.mapped
  · rename_i isNoObject
    exact absurd starts (isNoObject _)

theorem readItems_of_value {after : List Char} {item : Json} {items : List Json}
    (reads : Reads (readValue characters) item after)
    (following : Following ']' readItems after items rest) :
    Reads (readItems characters) (item :: items) rest := by
  obtain ⟨isShorter, reads⟩ := reads
  rw [readItems, reads]
  dsimp only
  cases following with
  | last closes =>
      split
      · rename_i closesToo
        cases closesToo.symm.trans closes
        exact reads_some _
      · rename_i goesOn
        cases goesOn.symm.trans closes
      · rename_i isNoClosing _
        exact absurd closes (isNoClosing _)
  | more goesOn others =>
      split
      · rename_i closes
        cases closes.symm.trans goesOn
      · rename_i goesOnToo
        cases goesOnToo.symm.trans goesOn
        exact others.mapped
      · rename_i isNoComma
        exact absurd goesOn (isNoComma _)

theorem readFields_of_field
    {nameText afterName valueText after : List Char} {name : String} {value : Json}
    {fields : List (String × Json)}
    (opens : afterSpaces characters = '"' :: nameText)
    (named : readString nameText = some (name.toList, afterName))
    (colon : afterSpaces afterName = ':' :: valueText)
    (reads : Reads (readValue valueText) value after)
    (following : Following '\x7d' readFields after fields rest) :
    Reads (readFields characters) ((name, value) :: fields) rest := by
  obtain ⟨isShorter, reads⟩ := reads
  rw [readFields]
  split
  · rename_i opensToo
    cases opensToo.symm.trans opens
    split
    · rename_i fails
      cases fails.symm.trans named
    · rename_i namedToo
      cases namedToo.symm.trans named
      split
      · rename_i colonToo
        cases colonToo.symm.trans colon
        rw [reads, String.ofList_toList]
        dsimp only
        cases following with
        | last closes =>
            split
            · rename_i closesToo
              cases closesToo.symm.trans closes
              exact reads_some _
            · rename_i goesOn
              cases goesOn.symm.trans closes
            · rename_i isNoClosing _
              exact absurd closes (isNoClosing _)
        | more goesOn others =>
            split
            · rename_i closes
              cases closes.symm.trans goesOn
            · rename_i goesOnToo
              cases goesOnToo.symm.trans goesOn
              exact others.mapped
            · rename_i isNoComma
              exact absurd goesOn (isNoComma _)
      · rename_i isNoColon
        exact absurd colon (isNoColon _)
  · rename_i isNoName
    exact absurd opens (isNoName _)

end Values

/-! ## Values that are read -/

theorem isExpressible_of_value? {number : NumberText} {value : Json}
    (isValue : number.value? = some value) :
    value.IsExpressible := by
  unfold NumberText.value? at isValue
  dsimp only at isValue
  rcases ite_eq_iff.mp isValue with ⟨isWhole, isInteger⟩ | ⟨_, isValue⟩
  · cases isInteger
    exact .integer (Bool.and_eq_true_iff.mp isWhole).2
  · rcases ite_eq_iff.mp isValue with ⟨isFinite, isFloat⟩ | ⟨_, isNone⟩
    · cases isFloat
      exact .float isFinite
    · cases isNone

theorem isExpressible_of_readAtom {characters rest : List Char} {value : Json}
    (found : readAtom characters = some (value, rest)) :
    value.IsExpressible := by
  unfold readAtom at found
  split at found
  · cases found
    exact .null
  · split at found
    · cases found
      exact .boolean true
    · split at found
      · cases found
        exact .boolean false
      · obtain ⟨⟨number, after⟩, _, found⟩ := Option.bind_eq_some_iff.mp found
        obtain ⟨read, isValue, isSame⟩ := Option.bind_eq_some_iff.mp found
        cases isSame
        exact isExpressible_of_value? isValue

mutual

theorem isExpressible_of_readValue {characters : List Char}
    {read : Read Json characters.length}
    (found : readValue characters = some read) :
    read.value.IsExpressible := by
  rw [readValue] at found
  split at found
  · split at found
    · cases found
    · cases found
      exact .string _
  · rename_i starts
    have isShorter := length_lt_of_afterSpaces starts
    split at found
    · cases found
      exact .array (List.forall_mem_nil _)
    · obtain ⟨items, foundItems, rfl⟩ := Option.map_eq_some_iff.mp found
      exact .array (areExpressible_of_readItems foundItems)
  · rename_i starts
    have isShorter := length_lt_of_afterSpaces starts
    split at found
    · cases found
      exact .object (List.forall_mem_nil _)
    · obtain ⟨fields, foundFields, rfl⟩ := Option.map_eq_some_iff.mp found
      exact .object (areExpressible_of_readFields foundFields)
  · unfold bounded at found
    split at found
    · cases found
    · rename_i value rest isAtom
      split at found
      · cases found
        exact isExpressible_of_readAtom isAtom
      · cases found
termination_by (characters.length, 0)

theorem areExpressible_of_readItems {characters : List Char}
    {read : Read (List Json) characters.length}
    (found : readItems characters = some read) :
    ∀ item ∈ read.value, item.IsExpressible := by
  rw [readItems] at found
  split at found
  · cases found
  · rename_i first foundFirst
    have isExpressible := isExpressible_of_readValue foundFirst
    have isShorter := first.length_lt
    split at found
    · cases found
      exact List.forall_mem_singleton.mpr isExpressible
    · rename_i goesOn
      have isShorterStill := length_lt_of_afterSpaces goesOn
      obtain ⟨others, foundOthers, rfl⟩ := Option.map_eq_some_iff.mp found
      exact List.forall_mem_cons.mpr ⟨isExpressible, areExpressible_of_readItems foundOthers⟩
    · cases found
termination_by (characters.length, 1)

theorem areExpressible_of_readFields {characters : List Char}
    {read : Read (List (String × Json)) characters.length}
    (found : readFields characters = some read) :
    ∀ field ∈ read.value, field.2.IsExpressible := by
  rw [readFields] at found
  split at found
  · rename_i opens
    have isShorter := length_lt_of_afterSpaces opens
    split at found
    · cases found
    · rename_i named
      have isShorterStill := length_lt_of_readString named
      split at found
      · rename_i colon
        have isShortest := length_lt_of_afterSpaces colon
        split at found
        · cases found
        · rename_i value foundValue
          have isExpressible := isExpressible_of_readValue foundValue
          have isBehind := value.length_lt
          split at found
          · cases found
            exact List.forall_mem_singleton.mpr isExpressible
          · rename_i goesOn
            have isLast := length_lt_of_afterSpaces goesOn
            obtain ⟨others, foundOthers, rfl⟩ := Option.map_eq_some_iff.mp found
            exact
              List.forall_mem_cons.mpr ⟨isExpressible, areExpressible_of_readFields foundOthers⟩
          · cases found
      · cases found
  · cases found
termination_by (characters.length, 1)

end

/-- Every value that a text writes is expressible. -/
theorem isExpressible_of_ofText? {text : String} {json : Json}
    (found : ofText? text = some json) :
    json.IsExpressible := by
  unfold ofText? at found
  split at found
  · cases found
  · rename_i read foundValue
    split at found
    · cases found
      exact isExpressible_of_readValue foundValue
    · cases found

end EventQuery.Json
