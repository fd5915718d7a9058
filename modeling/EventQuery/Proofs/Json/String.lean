import EventQuery.Json.Reader
import EventQuery.Json.Writer

/-!
# JSON strings read back

Every character of a string is read back from the characters that it is
written with, so a written string is read as itself, whatever it holds.
-/

namespace EventQuery.Json

open EventQuery.Text

/-! ## One character -/

/-- A short escape, which is anything but four hexadecimal digits. -/
theorem readString_shortEscape {escape character : Char}
    (isShort : shortEscape? escape = some character)
    (isNoCode : escape ≠ 'u')
    (rest : List Char) :
    readString ('\\' :: escape :: rest) = prepend character (readString rest) := by
  rw [readString]
  · rw [isShort]
  · intro _ _ _ _ _ isCode
    exact absurd isCode isNoCode

/-- The digits of every control, all of which are characters of their own. -/
theorem hexNumber?_control :
    ∀ control : Fin 32, ∃ high low,
      controlEscape (Char.ofNat control) = ['\\', 'u', '0', '0', high, low] ∧
        hexNumber? ['0', '0', high, low] = some control.val ∧
        scalar? control.val = some (Char.ofNat control) := by
  intro control
  refine ⟨(controlEscape (Char.ofNat control)).getD 4 ' ',
    (controlEscape (Char.ofNat control)).getD 5 ' ', ?_⟩
  revert control
  decide

theorem readString_controlEscape {character : Char}
    (isControl : character.toNat < 0x20)
    (rest : List Char) :
    readString (controlEscape character ++ rest) = prepend character (readString rest) := by
  obtain ⟨high, low, isText, isNumber, isScalar⟩ := hexNumber?_control ⟨character.toNat, isControl⟩
  have isCharacter : Char.ofNat character.toNat = character := Char.ofNat_toNat character
  dsimp only at isText isNumber isScalar
  rw [isCharacter] at isText isScalar
  rw [isText]
  dsimp only [List.cons_append, List.nil_append]
  rw [readString, isNumber]
  dsimp only
  rw [isScalar]

/-- A character that is neither a control nor a quote nor a backslash is read as itself. -/
theorem readString_plain {character : Char}
    (isNoControl : ¬ character.toNat < 0x20)
    (isNoQuote : character ≠ '"')
    (isNoBackslash : character ≠ '\\')
    (rest : List Char) :
    readString (character :: rest) = prepend character (readString rest) := by
  rw [readString]
  · simp [isNoControl, isNoBackslash]
  · exact isNoQuote
  · intro _ _ _ _ _ isBackslash
    exact absurd isBackslash isNoBackslash
  · intro _ _ isBackslash
    exact absurd isBackslash isNoBackslash

/-- Whatever a character is written with is read as the character. -/
theorem readString_escapedCharacter (character : Char) (rest : List Char) :
    readString (escapedCharacter character ++ rest) = prepend character (readString rest) := by
  unfold escapedCharacter
  split
  · exact readString_shortEscape rfl (by decide) rest
  · exact readString_shortEscape rfl (by decide) rest
  · exact readString_shortEscape rfl (by decide) rest
  · exact readString_shortEscape rfl (by decide) rest
  · exact readString_shortEscape rfl (by decide) rest
  · exact readString_shortEscape rfl (by decide) rest
  · exact readString_shortEscape rfl (by decide) rest
  · rename_i isNoQuote isNoBackslash _ _ _ _ _
    split
    · rename_i isControl
      exact readString_controlEscape isControl rest
    · rename_i isNoControl
      exact readString_plain isNoControl isNoQuote isNoBackslash rest

/-! ## Whole strings -/

theorem readString_flatMap (characters rest : List Char) :
    readString (characters.flatMap escapedCharacter ++ '"' :: rest) =
      some (characters, rest) := by
  induction characters with
  | nil => rw [List.flatMap_nil, List.nil_append, readString]
  | cons character characters ih =>
      rw [List.flatMap_cons, List.append_assoc, readString_escapedCharacter, ih, prepend,
        Option.map_some]

/-- A written string is its opening quote, and then what is read as its characters. -/
theorem stringText_append (value : String) (rest : List Char) :
    ∃ body, stringText value ++ rest = '"' :: body ∧
      readString body = some (value.toList, rest) := by
  refine ⟨value.toList.flatMap escapedCharacter ++ '"' :: rest, ?_, readString_flatMap _ _⟩
  rw [stringText, List.append_assoc]
  rfl

end EventQuery.Json
