import EventQuery.Proofs.Json.Reading

/-!
# JSON text reads back

A value is read back from its text, in either spacing: `ofText?_compact` and
`ofText?_pretty`.  The induction is on the value; `ReadsBack` is what it shows
of each value, wherever the value stands in a text.
-/

namespace EventQuery.Json

open Text

/-! ## Spacing -/

/-- Nothing but blanks between the tokens. -/
structure Spacing.IsBlank (spacing : Spacing) : Prop where
  lineStart : ∀ level, ∀ character ∈ spacing.lineStart level, isSpace character = true
  afterColon : ∀ character ∈ spacing.afterColon, isSpace character = true

theorem Spacing.isBlank_none : Spacing.none.IsBlank where
  lineStart := by simp [Spacing.none]
  afterColon := by simp [Spacing.none]

theorem Spacing.isBlank_lines : Spacing.lines.IsBlank where
  lineStart := by
    intro level character isIn
    rcases List.mem_cons.mp isIn with rfl | isIndent
    · rfl
    · rw [List.eq_of_mem_replicate isIndent]
      rfl
  afterColon := by
    intro character isIn
    rw [List.mem_singleton.mp isIn]
    rfl

/-! ## Written values -/

/-- A written value starts visibly, and not with a bracket that closes something. -/
structure StartsValue (text : List Char) : Prop where
  isNotEmpty : text ≠ []
  isVisible : ∀ first ∈ text.head?, isSpace first = false
  isNoClosing : text.head? ≠ some ']'

theorem StartsValue.afterSpaces_eq {text : List Char} (starts : StartsValue text) :
    afterSpaces text = text := by
  obtain ⟨first, others, rfl⟩ := List.exists_cons_of_ne_nil starts.isNotEmpty
  exact afterSpaces_cons (starts.isVisible first rfl)

theorem IsAtom.startsValue {text : List Char} {value : Json}
    (isAtom : IsAtom text value)
    (rest : List Char) :
    StartsValue (text ++ rest) := by
  obtain ⟨first, others, rfl, isFirst⟩ := isAtom.starts
  refine ⟨List.cons_ne_nil _ _, fun head isHead => ?_, fun isClosing => ?_⟩
  · cases isHead
    exact isVisible_of_startsAtom isFirst
  · exact ne_of_startsAtom isFirst rfl (Option.some.inj isClosing)

section Written

variable {spacing : Spacing}

theorem startsValue_write (level : Nat) {json : Json} (isExpressible : json.IsExpressible)
    (rest : List Char) :
    StartsValue (write spacing level json rest) := by
  have startsVisibly {first : Char} {others : List Char}
      (isVisible : isSpace first = false)
      (isNoClosing : first ≠ ']') :
      StartsValue (first :: others) := by
    refine ⟨List.cons_ne_nil _ _, fun head isHead => ?_, fun isClosing => ?_⟩
    · cases isHead
      exact isVisible
    · exact isNoClosing (Option.some.inj isClosing)
  cases isExpressible with
  | null => exact isAtom_null.startsValue rest
  | boolean value => exact (isAtom_boolean value).startsValue rest
  | integer isInRange => exact (isAtom_integer isInRange).startsValue rest
  | float isFinite => exact (isAtom_float isFinite).startsValue rest
  | string value =>
      obtain ⟨body, isText, _⟩ := stringText_append value rest
      rw [write, scalarText, isText]
      · exact startsVisibly rfl (by decide)
      · intro _ isArray
        cases isArray
      · intro _ isObject
        cases isObject
  | array areExpressible =>
      rw [write]
      exact startsVisibly rfl (by decide)
  | object areExpressible =>
      rw [write]
      exact startsVisibly rfl (by decide)

/-! ### What stands behind a value -/

theorem endsNumber_append {blanks rest : List Char}
    (areBlank : ∀ character ∈ blanks, isSpace character = true)
    (ends : EndsNumber rest) :
    EndsNumber (blanks ++ rest) := by
  cases blanks with
  | nil => exact ends
  | cons first blanks =>
      have isBlank : isSpace first = true := areBlank first List.mem_cons_self
      simp only [isSpace, Bool.or_eq_true, beq_iff_eq] at isBlank
      rcases isBlank with ((rfl | rfl) | rfl) | rfl
      all_goals exact stopsAt_cons rfl

theorem endsNumber_writeItems (level : Nat) (items : List Json) {rest : List Char}
    (ends : EndsNumber rest) :
    EndsNumber (writeItems spacing level false items rest) := by
  cases items with
  | nil => exact ends
  | cons item items =>
      rw [writeItems, Spacing.beforeItem, if_neg Bool.false_ne_true]
      exact stopsAt_cons rfl

theorem endsNumber_writeFields (level : Nat) (fields : List (String × Json)) {rest : List Char}
    (ends : EndsNumber rest) :
    EndsNumber (writeFields spacing level false fields rest) := by
  cases fields with
  | nil => exact ends
  | cons field fields =>
      obtain ⟨name, value⟩ := field
      rw [writeFields, Spacing.beforeItem, if_neg Bool.false_ne_true]
      exact stopsAt_cons rfl

/-! ### Reading written values -/

/-- Behind its blanks the written value is read as itself, at any level. -/
def ReadsBack (spacing : Spacing) (json : Json) : Prop :=
  ∀ {level : Nat} {characters rest : List Char},
    afterSpaces characters = write spacing level json rest →
      EndsNumber rest → Reads (readValue characters) json rest

/-- Behind the blanks in front of an item comes the item. -/
theorem afterSpaces_item (isBlank : spacing.IsBlank) (level : Nat) {item : Json}
    (isExpressible : item.IsExpressible)
    (rest : List Char) :
    afterSpaces (spacing.lineStart level ++ write spacing level item rest) =
      write spacing level item rest := by
  rw [afterSpaces_append (isBlank.lineStart level),
    (startsValue_write level isExpressible rest).afterSpaces_eq]

/-- Behind one item of an array, the items after it are read. -/
theorem following_writeItems (isBlank : spacing.IsBlank) (level : Nat)
    {items : List Json} {closing rest : List Char}
    (areExpressible : ∀ item ∈ items, item.IsExpressible)
    (readBack : ∀ item ∈ items, ReadsBack spacing item)
    (isClosing : ∀ character ∈ closing, isSpace character = true) :
    Following ']' readItems (writeItems spacing level false items (closing ++ ']' :: rest))
      items rest := by
  have ends : EndsNumber (closing ++ ']' :: rest) :=
    endsNumber_append isClosing (stopsAt_cons rfl)
  induction items with
  | nil =>
      refine .last ?_
      rw [writeItems, afterSpaces_append isClosing, afterSpaces_cons rfl]
  | cons item items ih =>
      obtain ⟨itemExpressible, laterExpressible⟩ := List.forall_mem_cons.mp areExpressible
      obtain ⟨itemReadsBack, laterReadBack⟩ := List.forall_mem_cons.mp readBack
      rw [writeItems, Spacing.beforeItem, if_neg Bool.false_ne_true]
      refine
        .more (afterSpaces_cons rfl)
          (readItems_of_value ?_ (ih laterExpressible laterReadBack))
      exact
        itemReadsBack (afterSpaces_item isBlank level itemExpressible _)
          (endsNumber_writeItems level items ends)

/-- The items of a written array are read inside of its brackets. -/
theorem inside_writeItems (isBlank : spacing.IsBlank) (level : Nat)
    {items : List Json} {rest : List Char}
    (areExpressible : ∀ item ∈ items, item.IsExpressible)
    (readBack : ∀ item ∈ items, ReadsBack spacing item) :
    Inside ']' readItems
      (writeItems spacing (level + 1) true items
        (spacing.beforeClosing level items.isEmpty ++ ']' :: rest))
      items rest := by
  cases items with
  | nil => exact .empty (afterSpaces_cons rfl)
  | cons item items =>
      obtain ⟨itemExpressible, laterExpressible⟩ := List.forall_mem_cons.mp areExpressible
      obtain ⟨itemReadsBack, laterReadBack⟩ := List.forall_mem_cons.mp readBack
      have isClosing := isBlank.lineStart level
      have ends : EndsNumber (spacing.lineStart level ++ ']' :: rest) :=
        endsNumber_append isClosing (stopsAt_cons rfl)
      have starts := fun after => afterSpaces_item isBlank (level + 1) itemExpressible after
      have following :
          Following ']' readItems
            (writeItems spacing (level + 1) false items (spacing.lineStart level ++ ']' :: rest))
            items rest :=
        following_writeItems isBlank (level + 1) laterExpressible laterReadBack isClosing
      rw [writeItems, Spacing.beforeItem, if_pos rfl, List.nil_append]
      refine .filled ?_ (readItems_of_value ?_ following)
      · rw [starts]
        exact (startsValue_write (level + 1) itemExpressible _).isNoClosing
      · exact itemReadsBack (starts _) (endsNumber_writeItems (level + 1) items ends)

/-! ### Fields -/

/-- Behind the blanks in front of a field comes its name. -/
theorem afterSpaces_field (isBlank : spacing.IsBlank) (level : Nat) (name : String)
    (rest : List Char) :
    afterSpaces (spacing.lineStart level ++ (stringText name ++ rest)) =
      stringText name ++ rest := by
  rw [afterSpaces_append (isBlank.lineStart level)]
  exact afterSpaces_cons rfl

/-- The text of a field, with what stands in front of it and behind it. -/
theorem writeFields_cons (level : Nat) (isFirst : Bool) (name : String) (value : Json)
    (fields : List (String × Json)) (rest : List Char) :
    writeFields spacing level isFirst ((name, value) :: fields) rest =
      (if isFirst then [] else [',']) ++
        (spacing.lineStart level ++
          (stringText name ++
            ':' :: (spacing.afterColon ++
              write spacing level value (writeFields spacing level false fields rest)))) := by
  simp only [writeFields, Spacing.beforeItem, List.append_assoc, List.cons_append]

/-- A field is read where its name comes first behind blanks. -/
theorem readFields_of_written (isBlank : spacing.IsBlank) {level : Nat}
    {name : String} {value : Json} {fields : List (String × Json)}
    {characters after rest : List Char}
    (isExpressible : value.IsExpressible)
    (readsBack : ReadsBack spacing value)
    (starts :
      afterSpaces characters =
        stringText name ++ ':' :: (spacing.afterColon ++ write spacing level value after))
    (ends : EndsNumber after)
    (following : Following '\x7d' readFields after fields rest) :
    Reads (readFields characters) ((name, value) :: fields) rest := by
  obtain ⟨nameText, isText, named⟩ :=
    stringText_append name (':' :: (spacing.afterColon ++ write spacing level value after))
  rw [isText] at starts
  have startsValue :
      afterSpaces (spacing.afterColon ++ write spacing level value after) =
        write spacing level value after := by
    rw [afterSpaces_append isBlank.afterColon,
      (startsValue_write level isExpressible after).afterSpaces_eq]
  exact
    readFields_of_field starts named (afterSpaces_cons rfl) (readsBack startsValue ends) following

/-- Behind one field of an object, the fields after it are read. -/
theorem following_writeFields (isBlank : spacing.IsBlank) (level : Nat)
    {fields : List (String × Json)} {closing rest : List Char}
    (areExpressible : ∀ field ∈ fields, field.2.IsExpressible)
    (readBack : ∀ field ∈ fields, ReadsBack spacing field.2)
    (isClosing : ∀ character ∈ closing, isSpace character = true) :
    Following '\x7d' readFields
      (writeFields spacing level false fields (closing ++ '\x7d' :: rest)) fields rest := by
  have ends : EndsNumber (closing ++ '\x7d' :: rest) :=
    endsNumber_append isClosing (stopsAt_cons rfl)
  induction fields with
  | nil =>
      refine .last ?_
      rw [writeFields, afterSpaces_append isClosing, afterSpaces_cons rfl]
  | cons field fields ih =>
      obtain ⟨name, value⟩ := field
      obtain ⟨valueExpressible, laterExpressible⟩ := List.forall_mem_cons.mp areExpressible
      obtain ⟨valueReadsBack, laterReadBack⟩ := List.forall_mem_cons.mp readBack
      rw [writeFields_cons, if_neg Bool.false_ne_true]
      refine .more (afterSpaces_cons rfl) ?_
      exact
        readFields_of_written isBlank valueExpressible valueReadsBack
          (afterSpaces_field isBlank level name _) (endsNumber_writeFields level fields ends)
          (ih laterExpressible laterReadBack)

/-- The fields of a written object are read inside of its brackets. -/
theorem inside_writeFields (isBlank : spacing.IsBlank) (level : Nat)
    {fields : List (String × Json)} {rest : List Char}
    (areExpressible : ∀ field ∈ fields, field.2.IsExpressible)
    (readBack : ∀ field ∈ fields, ReadsBack spacing field.2) :
    Inside '\x7d' readFields
      (writeFields spacing (level + 1) true fields
        (spacing.beforeClosing level fields.isEmpty ++ '\x7d' :: rest))
      fields rest := by
  cases fields with
  | nil => exact .empty (afterSpaces_cons rfl)
  | cons field fields =>
      obtain ⟨name, value⟩ := field
      obtain ⟨valueExpressible, laterExpressible⟩ := List.forall_mem_cons.mp areExpressible
      obtain ⟨valueReadsBack, laterReadBack⟩ := List.forall_mem_cons.mp readBack
      have isClosing := isBlank.lineStart level
      have ends : EndsNumber (spacing.lineStart level ++ '\x7d' :: rest) :=
        endsNumber_append isClosing (stopsAt_cons rfl)
      have starts := fun after => afterSpaces_field isBlank (level + 1) name after
      rw [writeFields_cons, if_pos rfl, List.nil_append]
      refine .filled ?_ ?_
      · rw [starts]
        exact fun isClosed => absurd (Option.some.inj isClosed) (by decide)
      · exact
          readFields_of_written isBlank valueExpressible valueReadsBack (starts _)
            (endsNumber_writeFields (level + 1) fields ends)
            (following_writeFields isBlank (level + 1) laterExpressible laterReadBack isClosing)

/-! ### Whole values -/

/-- Every expressible value is read back, behind its blanks. -/
theorem readsBack_of_isExpressible (isBlank : spacing.IsBlank) {json : Json}
    (isExpressible : json.IsExpressible) :
    ReadsBack spacing json := by
  induction isExpressible with
  | null => exact fun starts ends => readValue_of_isAtom isAtom_null starts ends
  | boolean value =>
      exact fun starts ends => readValue_of_isAtom (isAtom_boolean value) starts ends
  | integer isInRange =>
      exact fun starts ends => readValue_of_isAtom (isAtom_integer isInRange) starts ends
  | float isFinite =>
      exact fun starts ends => readValue_of_isAtom (isAtom_float isFinite) starts ends
  | string value => exact fun starts _ => readValue_of_stringText starts
  | array areExpressible readBack =>
      intro level characters rest starts _
      rw [write] at starts
      exact readValue_of_array starts (inside_writeItems isBlank level areExpressible readBack)
  | object areExpressible readBack =>
      intro level characters rest starts _
      rw [write] at starts
      exact readValue_of_object starts (inside_writeFields isBlank level areExpressible readBack)

/-- The text of an expressible value, in blank spacing, is read as the value. -/
theorem ofText?_write (isBlank : spacing.IsBlank) {json : Json}
    (isExpressible : json.IsExpressible) :
    ofText? (String.ofList (write spacing 0 json [])) = some json := by
  have starts :
      afterSpaces (String.ofList (write spacing 0 json [])).toList =
        write spacing 0 json [] := by
    rw [String.toList_ofList, (startsValue_write 0 isExpressible []).afterSpaces_eq]
  obtain ⟨isShorter, reads⟩ :=
    readsBack_of_isExpressible isBlank isExpressible starts (stopsAt_nil _)
  rw [ofText?, reads]
  rfl

end Written

theorem ofText?_compact {json : Json} (isExpressible : json.IsExpressible) :
    ofText? json.compact = some json :=
  ofText?_write Spacing.isBlank_none isExpressible

theorem ofText?_pretty {json : Json} (isExpressible : json.IsExpressible) :
    ofText? json.pretty = some json :=
  ofText?_write Spacing.isBlank_lines isExpressible

end EventQuery.Json
