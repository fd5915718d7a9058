import EventQuery.Text.Lines
import Mathlib.Data.List.Basic

/-!
# What the lines of a text are

A text falls into lines in exactly one way: `areLines_iff`.  No line has a line feed in
it, and one that a mere line feed ends does not end with a carriage return.
-/

namespace EventQuery.Text

/--
The lines of a text.  Each but the last is ended by a line feed, or by a carriage return
and a line feed.  The last one has characters, and nothing behind it.
-/
inductive AreLines : List Char → List (List Char) → Prop where
  | nothing :
      AreLines [] []
  | last {line : List Char}
      (isOneLine : '\n' ∉ line)
      (isSome : line ≠ []) :
      AreLines line [line]
  | lineFeed {line rest : List Char} {lines : List (List Char)}
      (isOneLine : '\n' ∉ line)
      (isNoReturn : line.getLast? ≠ some '\r')
      (others : AreLines rest lines) :
      AreLines (line ++ '\n' :: rest) (line :: lines)
  | returnAndLineFeed {line rest : List Char} {lines : List (List Char)}
      (isOneLine : '\n' ∉ line)
      (others : AreLines rest lines) :
      AreLines (line ++ '\r' :: '\n' :: rest) (line :: lines)

/-- One more character at the start belongs to the first line, unless it ends one. -/
theorem AreLines.startLines {character : Char} {text : List Char} {lines : List (List Char)}
    (isNoLineFeed : character ≠ '\n')
    (endsNoLine : character = '\r' → text.head? ≠ some '\n')
    (areLines : AreLines text lines) :
    AreLines (character :: text) (startLines character lines) := by
  have isInside {line : List Char} (isOneLine : '\n' ∉ line) : '\n' ∉ character :: line :=
    List.not_mem_cons_of_ne_of_not_mem isNoLineFeed.symm isOneLine
  cases areLines with
  | nothing => exact .last (isInside List.not_mem_nil) (List.cons_ne_nil _ _)
  | last isOneLine isSome => exact .last (isInside isOneLine) (List.cons_ne_nil _ _)
  | @lineFeed line rest lines isOneLine isNoReturn others =>
      refine @lineFeed (character :: line) rest lines (isInside isOneLine) ?_ others
      cases line with
      | nil =>
          intro isReturn
          exact endsNoLine (Option.some.inj isReturn) rfl
      | cons first line => rwa [List.getLast?_cons_cons]
  | @returnAndLineFeed line rest lines isOneLine others =>
      exact @returnAndLineFeed (character :: line) rest lines (isInside isOneLine) others

theorem areLines_lines (text : List Char) : AreLines text (lines text) := by
  fun_induction lines text with
  | case1 => exact .nothing
  | case2 rest ih => exact @AreLines.lineFeed [] rest _ List.not_mem_nil (by simp) ih
  | case3 rest ih => exact @AreLines.returnAndLineFeed [] rest _ List.not_mem_nil ih
  | case4 character rest isNoLineFeed endsNoLine ih =>
      refine ih.startLines (fun isLineFeed => isNoLineFeed isLineFeed) fun isReturn isNext => ?_
      obtain ⟨others, rfl⟩ := List.head?_eq_some_iff.mp isNext
      exact endsNoLine others isReturn rfl

/-! ## No other lines -/

theorem lines_cons {character : Char} {rest : List Char}
    (isNoLineFeed : character ≠ '\n')
    (endsNoLine : character = '\r' → rest.head? ≠ some '\n') :
    lines (character :: rest) = startLines character (lines rest) := by
  rw [lines]
  · exact isNoLineFeed
  · rintro others isReturn rfl
    exact endsNoLine isReturn rfl

/-- A line in front of what ends it is the first line, and what is behind has the others. -/
theorem lines_append {line ending rest : List Char}
    (isOneLine : '\n' ∉ line)
    (isApart : ending.head? = some '\n' → line.getLast? ≠ some '\r')
    (ends : lines ending = [] :: lines rest) :
    lines (line ++ ending) = line :: lines rest := by
  induction line with
  | nil => exact ends
  | cons first line ih =>
      have isInside := List.ne_and_not_mem_of_not_mem_cons isOneLine
      have others : lines (line ++ ending) = line :: lines rest := by
        refine ih isInside.2 fun isNext isReturn => isApart isNext ?_
        rw [List.getLast?_cons, isReturn]
        rfl
      rw [List.cons_append, lines_cons isInside.1.symm, others, startLines]
      rintro rfl isNext
      cases line with
      | nil => exact isApart isNext rfl
      | cons second line => exact isInside.2 (List.mem_of_mem_head? isNext)

/-- A text without a line feed is one line, if it is not empty. -/
theorem lines_of_isOneLine {line : List Char}
    (isOneLine : '\n' ∉ line)
    (isSome : line ≠ []) :
    lines line = [line] := by
  induction line with
  | nil => exact absurd rfl isSome
  | cons first line ih =>
      have isInside := List.ne_and_not_mem_of_not_mem_cons isOneLine
      rw [lines_cons isInside.1.symm fun _ isNext =>
        isInside.2 (List.mem_of_mem_head? isNext)]
      cases line with
      | nil => rfl
      | cons second line => rw [ih isInside.2 (List.cons_ne_nil _ _), startLines]

/-- A text falls into lines in one way. -/
theorem areLines_iff {text : List Char} {parts : List (List Char)} :
    AreLines text parts ↔ parts = lines text := by
  constructor
  · intro areLines
    induction areLines with
    | nothing => rfl
    | last isOneLine isSome => exact (lines_of_isOneLine isOneLine isSome).symm
    | @lineFeed line rest parts isOneLine isNoReturn others ih =>
        rw [lines_append isOneLine (fun _ => isNoReturn) rfl, ih]
    | @returnAndLineFeed line rest parts isOneLine others ih =>
        rw [lines_append isOneLine (by simp) rfl, ih]
  · rintro rfl
    exact areLines_lines text

theorem AreLines.isOneLine {text : List Char} {lines : List (List Char)}
    (areLines : AreLines text lines) :
    ∀ line ∈ lines, '\n' ∉ line := by
  induction areLines with
  | nothing => exact List.forall_mem_nil _
  | last isOneLine _ => exact List.forall_mem_singleton.mpr isOneLine
  | lineFeed isOneLine _ _ ih => exact List.forall_mem_cons.mpr ⟨isOneLine, ih⟩
  | returnAndLineFeed isOneLine _ ih => exact List.forall_mem_cons.mpr ⟨isOneLine, ih⟩

end EventQuery.Text
