import Mathlib.Order.Interval.Set.Basic
import ScriptFront.Text.LineMap

/-!
# What a line map answers

The two tables of a line map answer what counting would. A position is on the line after as many
line feeds as stand before it (`lineOf_eq`), and as many bytes precede it as the characters before
it take (`byteOffset_eq`). Halving finds how many entries are up to a position because the table of
line starts increases (`countUpTo_eq`). A span of characters becomes a range of bytes that ends
between characters and encodes those that the span has (`byteRange_encloses`), and no two positions
of a text share a byte position (`byteRange_exact`).
-/
namespace ScriptFront

/-- Whether a text has this part from one byte to another, both of which lie between characters. -/
structure Encloses (text : String) (start stop : Nat) (part : String) : Prop where
  ordered : start ≤ stop
  inside : stop ≤ text.utf8ByteSize
  starts : String.Pos.Raw.IsValid text ⟨start⟩
  stops : String.Pos.Raw.IsValid text ⟨stop⟩
  bytes : text.toByteArray.extract start stop = part.toByteArray

theorem encloses_of_append {text before part after : String}
    (split : text = before ++ part ++ after) :
    Encloses text before.utf8ByteSize (before ++ part).utf8ByteSize part where
  ordered := by simp [String.utf8ByteSize_append]
  inside := by simp [split, String.utf8ByteSize_append]
  starts := by
    rw [String.Pos.Raw.isValid_iff_exists_append]
    exact ⟨before, part ++ after, by rw [split, String.append_assoc], rfl⟩
  stops := by
    rw [String.Pos.Raw.isValid_iff_exists_append]
    exact ⟨before ++ part, after, split, rfl⟩
  bytes := by
    have whole : text.toByteArray = (before ++ part).toByteArray ++ after.toByteArray := by
      rw [split, String.toByteArray_append]
    rw [whole, ← String.size_toByteArray (s := before ++ part), ByteArray.extract_append_size_left,
      String.toByteArray_append]
    apply ByteArray.extract_append_eq_right
    · exact String.size_toByteArray.symm
    · exact ByteArray.size_append

namespace LineMap

/-- In an increasing table the entries up to a bound come first. -/
theorem getElem_le_iff {table : List Nat} (increasing : table.Pairwise (· < ·)) (bound : Nat)
    {index : Nat} (inside : index < table.length) :
    table[index] ≤ bound ↔ index < table.countP (· ≤ bound) := by
  induction table generalizing index with
  | nil => simp at inside
  | cons entry rest ih =>
    obtain ⟨before, increasing⟩ := List.pairwise_cons.mp increasing
    by_cases small : entry ≤ bound
    · cases index with
      | zero => simp [small]
      | succ index =>
        have later := ih increasing (Nat.lt_of_succ_lt_succ inside)
        simp [small, later]
    · have none : (entry :: rest).countP (· ≤ bound) = 0 := by
        rw [List.countP_eq_zero]
        intro other among
        have large : entry ≤ other := by
          rcases List.mem_cons.mp among with rfl | behind
          · exact Nat.le_refl _
          · exact Nat.le_of_lt (before other behind)
        simp only [decide_eq_true_eq]
        omega
      have large : entry ≤ (entry :: rest)[index] := by
        cases index with
        | zero => exact Nat.le_refl _
        | succ index => exact Nat.le_of_lt (before _ (List.getElem_mem _))
      rw [none]
      omega

/-- Halving finds how many entries are up to the position. -/
theorem countUpTo_eq {table : Array Nat} (increasing : table.toList.Pairwise (· < ·))
    {position low high : Nat} (above : low ≤ table.toList.countP (· ≤ position))
    (below : table.toList.countP (· ≤ position) ≤ high) (inside : high ≤ table.size) :
    countUpTo table position low high = table.toList.countP (· ≤ position) := by
  fun_induction countUpTo table position low high with
  | case1 low high apart middle small ih =>
    have within : middle < table.size := by omega
    have entry := getElem_le_iff increasing position (Array.length_toList ▸ within)
    rw [Array.getD_eq_getD_getElem?, Array.getElem?_eq_getElem within] at small
    exact ih (entry.mp small) below inside
  | case2 low high apart middle large ih =>
    have within : middle < table.size := by omega
    have entry := getElem_le_iff increasing position (Array.length_toList ▸ within)
    rw [Array.getD_eq_getD_getElem?, Array.getElem?_eq_getElem within] at large
    exact ih above (Nat.le_of_not_lt (mt entry.mpr large)) (by omega)
  | case3 low high together => omega

section Walk

variable (lineStarts byteOffsets : Array Nat) (position bytes : Nat) (chars : List Char)

/-- Up to a bound there is one more line start for each line feed before it. -/
theorem extend_countP (bound : Nat) :
    (extend lineStarts byteOffsets position bytes chars).lineStarts.toList.countP (· ≤ bound) =
      lineStarts.toList.countP (· ≤ bound) + (chars.take (bound - position)).count '\n' := by
  induction chars generalizing lineStarts byteOffsets position bytes with
  | nil => simp [extend]
  | cons c rest ih =>
    rw [extend, ih]
    have pushed : (lineStarts.push (position + 1)).toList.countP (· ≤ bound) =
        lineStarts.toList.countP (· ≤ bound) + if position < bound then 1 else 0 := by
      simp only [Array.toList_push, List.countP_append, List.countP_singleton, decide_eq_true_eq,
        Nat.add_one_le_iff]
    by_cases before : position < bound
    · obtain ⟨left, same⟩ : ∃ left, bound - position = left + 1 := ⟨bound - position - 1, by omega⟩
      have onward : bound - (position + 1) = left := by omega
      by_cases feed : c = '\n'
      · rw [if_pos feed, pushed, if_pos before, same, onward, feed, List.take_succ_cons,
          List.count_cons_self]
        omega
      · simp [same, onward, feed]
    · have none : bound - position = 0 ∧ bound - (position + 1) = 0 := by omega
      by_cases feed : c = '\n'
      · rw [if_pos feed, pushed, if_neg before, none.1, none.2]
        rfl
      · simp [none, feed]

theorem extend_increasing (increasing : lineStarts.toList.Pairwise (· < ·))
    (behind : ∀ start ∈ lineStarts.toList, start ≤ position) :
    (extend lineStarts byteOffsets position bytes chars).lineStarts.toList.Pairwise (· < ·) := by
  induction chars generalizing lineStarts byteOffsets position bytes with
  | nil => exact increasing
  | cons c rest ih =>
    rw [extend]
    apply ih
    · split
      · rw [Array.toList_push, List.pairwise_append]
        refine ⟨increasing, List.pairwise_singleton .., fun start among next new => ?_⟩
        have earlier := behind start among
        rw [List.mem_singleton.mp new]
        omega
      · exact increasing
    · intro start among
      split at among
      · rw [Array.toList_push, List.mem_append, List.mem_singleton] at among
        rcases among with old | rfl
        · exact Nat.le_succ_of_le (behind start old)
        · exact Nat.le_refl _
      · exact Nat.le_succ_of_le (behind start among)

theorem extend_size :
    (extend lineStarts byteOffsets position bytes chars).lineStarts.size =
      lineStarts.size + chars.count '\n' := by
  induction chars generalizing lineStarts byteOffsets position bytes with
  | nil => simp [extend]
  | cons c rest ih =>
    rw [extend, ih]
    by_cases feed : c = '\n'
    · simp [feed]
      omega
    · simp [feed]

theorem extend_byteOffsets :
    (extend lineStarts byteOffsets position bytes chars).byteOffsets.toList =
      byteOffsets.toList ++ (List.range (chars.length + 1)).map fun index =>
        bytes + (String.ofList (chars.take index)).utf8ByteSize := by
  induction chars generalizing lineStarts byteOffsets position bytes with
  | nil => simp [extend]
  | cons c rest ih =>
    have indices : List.range (rest.length + 1 + 1) =
        0 :: (List.range (rest.length + 1)).map Nat.succ := List.range_succ_eq_map
    rw [extend, ih, List.length_cons, indices]
    simp [String.ofList_cons, String.utf8ByteSize_append, Nat.add_assoc, Function.comp_def]

end Walk

variable (text : String)

theorem lineStarts_increasing : (ofText text).lineStarts.toList.Pairwise (· < ·) :=
  extend_increasing _ _ _ _ _ (by simp) (by simp)

/-- The line of a position is the last one that begins up to it. -/
theorem lineOf_eq_countP (position : Nat) :
    (ofText text).lineOf position = (ofText text).lineStarts.toList.countP (· ≤ position) := by
  have inside : (ofText text).lineStarts.toList.countP (· ≤ position) ≤
      (ofText text).lineStarts.size := List.countP_le_length
  rw [lineOf, countUpTo_eq (lineStarts_increasing text) (Nat.zero_le _) inside (Nat.le_refl _)]

/-- The line of a position comes after as many line feeds as stand before the position. -/
theorem lineOf_eq (position : Nat) :
    (ofText text).lineOf position = 1 + (text.toList.take position).count '\n' := by
  rw [lineOf_eq_countP, ofText, extend_countP]
  simp

theorem lineCount_eq : (ofText text).lineCount = 1 + text.toList.count '\n' := by
  rw [lineCount, ofText, extend_size]
  rfl

/-- As many bytes precede a position as the characters before it take. -/
theorem byteOffset_eq (position : Nat) :
    (ofText text).byteOffset position =
      (String.ofList (text.toList.take position)).utf8ByteSize := by
  have table := extend_byteOffsets #[0] #[] 0 0 text.toList
  have size : (ofText text).byteOffsets.size = text.toList.length + 1 := by
    rw [← Array.length_toList, ofText, table]
    simp
  have clamped : text.toList.take (min position text.toList.length) =
      text.toList.take position := by
    rw [← List.take_take, List.take_length]
  have inside : min position text.toList.length < text.toList.length + 1 := by omega
  rw [byteOffset, size, Nat.add_sub_cancel, Array.getD_eq_getD_getElem?, ← Array.getElem?_toList,
    ofText, table]
  simp [inside, clamped]

/-- The bytes of a span encode the characters of the text that it has, also where it goes past the
end. -/
theorem byteRange_encloses (span : Span) :
    Encloses text ((ofText text).byteRange span).1 ((ofText text).byteRange span).2
      (String.ofList ((text.toList.drop span.start).take span.length)) := by
  let before := String.ofList (text.toList.take span.start)
  let part := String.ofList ((text.toList.drop span.start).take span.length)
  let after := String.ofList (text.toList.drop span.stop)
  have upTo : String.ofList (text.toList.take span.stop) = before ++ part := by
    rw [Span.stop, List.take_add, String.ofList_append]
  have split : text = before ++ part ++ after := by
    rw [← upTo, ← String.ofList_append, List.take_append_drop, String.ofList_toList]
  rw [byteRange, byteOffset_eq, byteOffset_eq, upTo]
  exact encloses_of_append split

/-- The bytes before a later position are those before an earlier one and those in between. -/
theorem byteOffset_add (position length : Nat) :
    (ofText text).byteOffset (position + length) = (ofText text).byteOffset position +
      (String.ofList ((text.toList.drop position).take length)).utf8ByteSize := by
  rw [byteOffset_eq, byteOffset_eq, List.take_add, String.ofList_append,
    String.utf8ByteSize_append]

theorem byteOffset_monotone : Monotone (ofText text).byteOffset := by
  intro position later before
  obtain ⟨length, rfl⟩ := Nat.exists_eq_add_of_le before
  rw [byteOffset_add]
  exact Nat.le_add_right ..

/-- Every character takes a byte at least, so positions of a text are at different bytes. -/
theorem byteOffset_strictMonoOn :
    StrictMonoOn (ofText text).byteOffset (Set.Iic text.toList.length) := by
  intro position _ later inside before
  obtain ⟨length, rfl⟩ := Nat.exists_eq_add_of_lt before
  have within : position + length + 1 ≤ text.toList.length := inside
  let between := String.ofList ((text.toList.drop position).take (length + 1))
  have some : between ≠ "" := by
    rw [Ne, String.ofList_eq_empty_iff, ← Ne, ← List.length_pos_iff, List.length_take,
      List.length_drop]
    omega
  have bytes : 0 < between.utf8ByteSize := by
    rwa [Nat.pos_iff_ne_zero, Ne, String.utf8ByteSize_eq_zero_iff]
  rw [Nat.add_assoc, byteOffset_add]
  exact Nat.lt_add_of_pos_right bytes

/-- A span of characters, also one that goes past the end, becomes the range of the bytes that
encode just those of its characters that the text has. Byte positions never fall from one position
to the next, and up to the end of the text they rise. -/
theorem byteRange_exact :
    (∀ span : Span, Encloses text ((ofText text).byteRange span).1 ((ofText text).byteRange span).2
      (String.ofList ((text.toList.drop span.start).take span.length))) ∧
      Monotone (ofText text).byteOffset ∧
      StrictMonoOn (ofText text).byteOffset (Set.Iic text.toList.length) :=
  ⟨byteRange_encloses text, byteOffset_monotone text, byteOffset_strictMonoOn text⟩

end LineMap

end ScriptFront
