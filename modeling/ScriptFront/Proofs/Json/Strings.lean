import ScriptFront.Json.Strings
import ScriptFront.Proofs.Json.Grammar

/-!
# Reading strings of the grammar

What the readers take from a text, step by step; and that a string as the grammar has it is read for
what it says, up to its last quote and no further (`Reader.string_run`).
-/
namespace ScriptFront.Json

namespace Reader

section Runs

variable {α β : Type} (text : List Char)

@[simp] theorem run_pure (value : α) : (pure value : Reader α).run text = .ok (value, text) := rfl

@[simp] theorem run_bind (first : Reader α) (second : α → Reader β) :
    (first >>= second).run text =
      match first.run text with
      | .ok (value, rest) => (second value).run rest
      | .error fault => .error fault := rfl

@[simp] theorem run_ahead : ahead.run text = .ok (text, text) := rfl

@[simp] theorem run_drop (count : Nat) : (drop count).run text = .ok ((), text.drop count) := rfl

@[simp] theorem run_next : next.run text = .ok (text.dropWhile isBlank, text.dropWhile isBlank) :=
  rfl

end Runs

variable {digits value text after : List Char} {code : Nat}

theorem length_le_byteCount (text : List Char) : text.length ≤ byteCount text := by
  have onto (count : Nat) :
      count + text.length ≤ text.foldl (fun count c => count + c.utf8Size) count := by
    induction text generalizing count with
    | nil => exact Nat.le_refl _
    | cons first rest ih =>
      have some := first.utf8Size_pos
      have more := ih (count + first.utf8Size)
      rw [List.length_cons, List.foldl_cons]
      omega
  simpa [byteCount] using onto 0

theorem hexCode_run (four : digits.length = 4) (hex : hexNumber? digits = some code) :
    hexCode.run (digits ++ after) = .ok (code, after) := by
  have taken : (digits ++ after).take 4 = digits := List.take_left' four
  have left : (digits ++ after).drop 4 = after := List.drop_left' four
  have enough : ¬ byteCount digits < 4 := by
    have := length_le_byteCount digits
    omega
  simp only [hexCode, run_bind, run_ahead, taken, if_neg enough, hex, run_drop, left, run_pure]

theorem escape_run {letter c : Char} (escape : Escape letter c) (used : Bool) :
    (Reader.escape used).run (letter :: after) = .ok (c, after) := by
  cases escape <;> rfl

theorem escape_run_coded {used : Bool} (four : digits.length = 4)
    (hex : hexNumber? digits = some code) (whole : used → code < 0xD800 ∨ 0xE000 ≤ code) :
    (Reader.escape used).run ('u' :: (digits ++ after)) = .ok (Char.ofNat code, after) := by
  simp only [escape, codeEscape, run_bind, run_ahead, run_drop, List.drop_succ_cons, List.drop_zero,
    hexCode_run four hex]
  cases used with
  | false => rfl
  | true =>
    have notLow : isLowSurrogate code = false := by
      have := whole rfl
      simp only [isLowSurrogate, Bool.and_eq_false_iff, decide_eq_false_iff_not]
      omega
    have notHigh : isHighSurrogate code = false := by
      have := whole rfl
      simp only [isHighSurrogate, Bool.and_eq_false_iff, decide_eq_false_iff_not]
      omega
    simp [notLow, notHigh]

theorem escape_run_paired {digits' : List Char} {high low : Nat} (four : digits.length = 4)
    (hex : hexNumber? digits = some (0xD800 + high)) (four' : digits'.length = 4)
    (hex' : hexNumber? digits' = some (0xDC00 + low)) (isHigh : high < 0x400)
    (isLow : low < 0x400) :
    (Reader.escape true).run ('u' :: (digits ++ '\\' :: 'u' :: (digits' ++ after))) =
      .ok (Char.ofNat (0x10000 + 0x400 * high + low), after) := by
  have first : isLowSurrogate (0xD800 + high) = false ∧ isHighSurrogate (0xD800 + high) = true := by
    simp only [isLowSurrogate, isHighSurrogate, Bool.and_eq_false_iff, Bool.and_eq_true,
      decide_eq_true_eq, decide_eq_false_iff_not]
    omega
  have second : isLowSurrogate (0xDC00 + low) = true := by
    simp only [isLowSurrogate, Bool.and_eq_true, decide_eq_true_eq]
    omega
  have code : pairedCode (0xD800 + high) (0xDC00 + low) = 0x10000 + 0x400 * high + low := by
    unfold pairedCode
    omega
  have lower :
      lowSurrogate.run ('\\' :: 'u' :: (digits' ++ after)) = .ok (0xDC00 + low, after) := by
    simp [lowSurrogate, surrogateLink, hexCode_run four' hex', second]
  simp only [escape, codeEscape, run_bind, run_ahead, run_drop, List.drop_succ_cons, List.drop_zero,
    hexCode_run four hex, Bool.not_true, Bool.false_eq_true, ↓reduceIte, first, lower, code,
    run_pure]

variable {used : Bool} {read : List Char}

theorem stringOnto_done (used : Bool) (read after : List Char) :
    stringOnto used read ('"' :: after) = .ok (String.ofList read.reverse, after) := by
  rw [stringOnto]

theorem stringOnto_escape {c : Char} (escaped : (escape used).run text = .ok (c, after)) :
    stringOnto used read ('\\' :: text) = stringOnto used (c :: read) after := by
  rw [stringOnto]
  split
  next found rest again =>
    obtain ⟨rfl, rfl⟩ : c = found ∧ after = rest := by simpa [escaped] using again
    rfl
  next again => simp [escaped] at again

theorem stringOnto_plain {c : Char} (notQuote : c ≠ '"') (notBackslash : c ≠ '\\')
    (noControl : 32 ≤ c.toNat) :
    stringOnto used read (c :: text) = stringOnto used (c :: read) text := by
  rw [stringOnto, if_neg (Nat.not_lt.mpr noControl)]
  · exact notQuote
  · exact notBackslash

/-- A string of the grammar is read to its end, and if it is put to use, for what it says. -/
theorem stringOnto_inscribed (inscribes : Inscribes value text after) (used : Bool)
    (read : List Char) :
    ∃ found, stringOnto used read text = .ok (found, after) ∧
      (used → found = String.ofList (read.reverse ++ value)) := by
  have onto {c : Char} {value : List Char} {read : List Char} :
      (c :: read).reverse ++ value = read.reverse ++ c :: value := by simp
  induction inscribes generalizing read with
  | done => exact ⟨_, stringOnto_done .., by simp⟩
  | plain notQuote notBackslash noControl more ih =>
    rw [stringOnto_plain notQuote notBackslash noControl, ← onto]
    exact ih _
  | escaped escape more ih =>
    rw [stringOnto_escape (escape_run escape used), ← onto]
    exact ih _
  | coded four hex noSurrogate more ih =>
    rw [stringOnto_escape (escape_run_coded four hex fun _ => noSurrogate), ← onto]
    exact ih _
  | paired four hex four' hex' isHigh isLow more ih =>
    cases used with
    | true =>
      rw [stringOnto_escape (escape_run_paired four hex four' hex' isHigh isLow), ← onto]
      exact ih _
    | false =>
      -- The halves of a pair are passed over one by one.
      rw [stringOnto_escape (escape_run_coded four hex (by simp)),
        stringOnto_escape (escape_run_coded four' hex' (by simp))]
      obtain ⟨found, passed, -⟩ := ih (Char.ofNat _ :: Char.ofNat _ :: read)
      exact ⟨found, passed, by simp⟩

theorem string_run (inscribes : Inscribes value text after) :
    (string true).run text = .ok (String.ofList value, after) := by
  obtain ⟨found, done, value⟩ := stringOnto_inscribed inscribes true []
  rw [value rfl] at done
  exact done

end Reader

end ScriptFront.Json
