import ScriptFront.Proofs.Text.LineMap

/-!
# Lines and columns as coordinates

The line of a position tells how many line feeds stand before it, and its column how far it lies
behind the last of them. So a position can be worked out from its place, places are in the order of
their positions, and no two positions share one (`placeOf_coordinates`). That includes positions
past the end of the text, all of which lie on the last line.
-/
namespace ScriptFront

/-- Whether the line of a position begins here: at the beginning of the text or right behind a line
feed, with no line feed from here to the position. -/
structure BeginsLine (text : String) (position start : Nat) : Prop where
  reached : start ≤ position
  opened : start = 0 ∨ ∃ feed, text.toList[feed]? = some '\n' ∧ start = feed + 1
  unbroken : ∀ other, start ≤ other → other < position → text.toList[other]? ≠ some '\n'

/-- Whether a place stands before another one, by its line and on one line by its column. -/
def Place.Before (place other : Place) : Prop :=
  place.line < other.line ∨ place.line = other.line ∧ place.column < other.column

theorem Place.Before.asymm {place other : Place} (before : place.Before other) :
    ¬ other.Before place := by
  unfold Place.Before at *
  omega

theorem Place.not_before_self (place : Place) : ¬ place.Before place :=
  fun before => before.asymm before

namespace LineMap

/-- Lines begin where they began before and right behind each line feed. -/
theorem mem_extend_lineStarts (lineStarts byteOffsets : Array Nat) (position bytes : Nat)
    (chars : List Char) (start : Nat) :
    start ∈ (extend lineStarts byteOffsets position bytes chars).lineStarts.toList ↔
      start ∈ lineStarts.toList ∨
        ∃ feed, chars[feed]? = some '\n' ∧ start = position + feed + 1 := by
  induction chars generalizing lineStarts byteOffsets position bytes with
  | nil => simp [extend]
  | cons c rest ih =>
    have feeds : (∃ feed, (c :: rest)[feed]? = some '\n' ∧ start = position + feed + 1) ↔
        (c = '\n' ∧ start = position + 1) ∨
          ∃ feed, rest[feed]? = some '\n' ∧ start = position + 1 + feed + 1 := by
      rw [← Nat.or_exists_add_one]
      simp only [List.getElem?_cons_zero, List.getElem?_cons_succ, Option.some.injEq,
        Nat.add_zero, Nat.add_right_comm position 1, ← Nat.add_assoc]
    rw [extend, ih, feeds]
    by_cases feed : c = '\n'
    · simp [feed, or_assoc]
    · simp [feed]

variable (text : String)

theorem mem_lineStarts (start : Nat) :
    start ∈ (ofText text).lineStarts.toList ↔
      start = 0 ∨ ∃ feed, text.toList[feed]? = some '\n' ∧ start = feed + 1 := by
  rw [ofText, mem_extend_lineStarts]
  simp

theorem lineOf_pos (position : Nat) : 0 < (ofText text).lineOf position := by
  rw [lineOf_eq]
  omega

theorem lineOf_le_lineCount (position : Nat) :
    (ofText text).lineOf position ≤ (ofText text).lineCount := by
  rw [lineOf_eq_countP]
  exact List.countP_le_length

/-- The table of line starts has an entry for every line that a position can be on. -/
theorem lineOf_inside (position : Nat) :
    (ofText text).lineOf position - 1 < (ofText text).lineStarts.size := by
  have positive := lineOf_pos text position
  have within : (ofText text).lineOf position ≤ (ofText text).lineStarts.size :=
    lineOf_le_lineCount text position
  omega

/-- The entry of a position's line is where that line begins. -/
theorem beginsLine (position : Nat)
    (inside : (ofText text).lineOf position - 1 < (ofText text).lineStarts.size) :
    BeginsLine text position (ofText text).lineStarts[(ofText text).lineOf position - 1] := by
  have increasing := lineStarts_increasing text
  have latest : (ofText text).lineOf position - 1 <
      (ofText text).lineStarts.toList.countP (· ≤ position) := by
    rw [← lineOf_eq_countP]
    exact Nat.sub_one_lt (Nat.ne_of_gt (lineOf_pos text position))
  rw [← Array.getElem_toList]
  rw [← Array.length_toList] at inside
  refine ⟨(getElem_le_iff increasing position inside).mpr latest,
    (mem_lineStarts text _).mp (List.getElem_mem inside), fun other behind before feed => ?_⟩
  -- The line feed would open a line that begins later and still up to the position.
  obtain ⟨index, within, entry⟩ := List.mem_iff_getElem.mp
    ((mem_lineStarts text (other + 1)).mpr (.inr ⟨other, feed, rfl⟩))
  have counted := (getElem_le_iff increasing position within).mp (entry ▸ before)
  have later := mt (getElem_le_iff increasing other within).mpr (by omega)
  have own := (getElem_le_iff increasing other inside).mp behind
  rw [← lineOf_eq_countP] at counted
  omega

/-- The column is counted from where the line begins. -/
theorem lineStart_add_column (position : Nat)
    (inside : (ofText text).lineOf position - 1 < (ofText text).lineStarts.size) :
    (ofText text).lineStarts[(ofText text).lineOf position - 1] +
      ((ofText text).placeOf position).column = position := by
  have reached := (beginsLine text position inside).reached
  simp only [placeOf, Array.getD_eq_getD_getElem?, Array.getElem?_eq_getElem inside,
    Option.getD_some]
  omega

theorem lineOf_monotone : Monotone (ofText text).lineOf := by
  intro position later before
  rw [lineOf_eq, lineOf_eq]
  have stretch : (text.toList.take position).Sublist (text.toList.take later) :=
    (List.take_prefix_take_left before).sublist
  exact Nat.add_le_add_left (stretch.count_le _) 1

/-- Places are in the order of their positions. -/
theorem placeOf_before {position later : Nat} (before : position < later) :
    ((ofText text).placeOf position).Before ((ofText text).placeOf later) := by
  rcases Nat.lt_or_eq_of_le (lineOf_monotone text (Nat.le_of_lt before)) with above | same
  · exact .inl above
  · have here := lineStart_add_column text position (lineOf_inside text position)
    have there := lineStart_add_column text later (lineOf_inside text later)
    simp only [same] at here
    exact .inr ⟨same, by omega⟩

/-- A line and a column are exact coordinates of a position, also of one past the end of the text.
The line is one more than the line feeds before the position and is one of the lines of the text.
The column is how far the position lies behind the beginning of its line, which the table of line
starts has. Places are in the order of their positions, so that no two positions share one. -/
theorem placeOf_coordinates :
    (∀ position,
      ∃ inside : ((ofText text).placeOf position).line - 1 < (ofText text).lineStarts.size,
        ((ofText text).placeOf position).line =
          1 + (text.toList.take (min position text.toList.length)).count '\n' ∧
        1 ≤ ((ofText text).placeOf position).line ∧
        ((ofText text).placeOf position).line ≤ (ofText text).lineCount ∧
        BeginsLine text position
          (ofText text).lineStarts[((ofText text).placeOf position).line - 1] ∧
        ((ofText text).placeOf position).column =
          position - (ofText text).lineStarts[((ofText text).placeOf position).line - 1]) ∧
    (∀ position later, position < later ↔
      ((ofText text).placeOf position).Before ((ofText text).placeOf later)) ∧
    Function.Injective (ofText text).placeOf := by
  have ordered (position later : Nat) : position < later ↔
      ((ofText text).placeOf position).Before ((ofText text).placeOf later) := by
    refine ⟨placeOf_before text, fun before => ?_⟩
    by_contra notBefore
    rcases Nat.eq_or_lt_of_not_lt notBefore with rfl | behind
    · exact Place.not_before_self _ before
    · exact before.asymm (placeOf_before text behind)
  refine ⟨fun position => ?_, ordered, fun position later same => ?_⟩
  · have inside := lineOf_inside text position
    have clamped : text.toList.take position =
        text.toList.take (min position text.toList.length) := by
      rw [← List.take_take, List.take_length]
    have column := lineStart_add_column text position inside
    exact ⟨inside, clamped ▸ lineOf_eq text position, lineOf_pos text position,
      lineOf_le_lineCount text position, beginsLine text position inside,
      Nat.eq_sub_of_add_eq' column⟩
  · have never := ((ofText text).placeOf later).not_before_self
    rcases Nat.lt_trichotomy position later with before | same' | behind
    · exact absurd (same ▸ (ordered position later).mp before) never
    · exact same'
    · exact absurd (same ▸ (ordered later position).mp behind) never

end LineMap

end ScriptFront
