import Mathlib.Data.List.TakeWhile
import ScriptFront.Proofs.Token.Form

/-!
# The longest token

A scan takes the longest text at the front that is a token, and reports a fault only where none is
(`Front.munch_ofChars`). There is only one such text (`Longest.unique`).
-/
namespace ScriptFront

/-- The longest text at the front that is a token. -/
structure Longest (text munch : List Char) : Prop where
  isForm : IsForm munch
  isPrefix : munch <+: text
  longest : ∀ other, other <+: text → IsForm other → other.length ≤ munch.length

theorem Longest.unique {text munch munch' : List Char} (longest : Longest text munch)
    (longest' : Longest text munch') : munch = munch' := by
  have short := longest'.longest munch longest.isPrefix longest.isForm
  have short' := longest.longest munch' longest'.isPrefix longest'.isForm
  exact (List.prefix_of_prefix_length_le longest.isPrefix longest'.isPrefix short).eq_of_length
    (Nat.le_antisymm short short')

/-- What a scan finds at the front of a text. -/
inductive Munch (text : List Char) (front : Front) : Prop where
  | token (kind : Kind) (found : front.found = .ok kind) (form : Form kind front.taken)
      (longest : Longest text front.taken)
  | openString (found : front.found = .error .unterminatedString) (quote : text.head? = some '"')
      (taken : front.taken = text) (none : ∀ munch, munch <+: text → ¬ IsForm munch)
  | stray (found : front.found = .error .unexpectedCharacter) (noQuote : text.head? ≠ some '"')
      (taken : front.taken.length = 1) (none : ∀ munch, munch <+: text → ¬ IsForm munch)

section Prefixes

variable {α : Type} {p : α → Bool} {some text : List α}

/-- A prefix all of one class lies within the longest one. -/
theorem length_le_takeWhile (isPrefix : some <+: text) (inside : ∀ c ∈ some, p c) :
    some.length ≤ (text.takeWhile p).length := by
  obtain ⟨more, rfl⟩ := isPrefix
  rw [List.takeWhile_append_of_pos inside, List.length_append]
  exact Nat.le_add_right ..

theorem takeWhile_dropWhile_of_separator {separator : α} {more : List α}
    (isPrefix : some ++ separator :: more <+: text) (inside : ∀ c ∈ some, p c)
    (outside : p separator = false) :
    text.takeWhile p = some ∧ separator :: more <+: text.dropWhile p := by
  obtain ⟨rest, rfl⟩ := isPrefix
  rw [List.append_assoc, List.takeWhile_append_of_pos inside, List.dropWhile_append_of_pos inside]
  simp [outside]

end Prefixes

/-- Prefixes that are tokens begin with the first character. -/
theorem Form.cons_of_prefix {kind : Kind} {other rest : List Char} {first : Char}
    (form : Form kind other) (isPrefix : other <+: first :: rest) :
    ∃ more, other = first :: more ∧ more <+: rest := by
  obtain ⟨c, more, rfl⟩ := form.exists_cons
  obtain ⟨rfl, inner⟩ := List.cons_prefix_cons.mp isPrefix
  exact ⟨more, rfl, inner⟩

namespace Front

variable {first : Char} (rest : List Char)

theorem munch_word (start : isWordStart first) : Munch (first :: rest) (word first rest) := by
  have inside : ∀ c ∈ rest.takeWhile isWordPart, isWordPart c := fun c => List.mem_takeWhile_imp
  have form := Form.ofWord (isWord_cons start inside)
  refine .token _ rfl form ⟨⟨_, form⟩, ?_, ?_⟩
  · exact List.cons_prefix_cons.mpr ⟨rfl, List.takeWhile_prefix _⟩
  · rintro other isPrefix ⟨kind, form⟩
    obtain ⟨more, rfl, within⟩ := form.cons_of_prefix isPrefix
    have parts := (form.begins.of_isWordStart start).1.start.2
    exact Nat.succ_le_succ (length_le_takeWhile within parts)

theorem number_of_point {digit : Char} {after : List Char}
    (point : rest.dropWhile Char.isDigit = '.' :: digit :: after) (place : digit.isDigit) :
    number first rest =
      ⟨.ok .numericLiteral,
        first :: (rest.takeWhile Char.isDigit ++ '.' :: digit :: after.takeWhile Char.isDigit),
        after.dropWhile Char.isDigit⟩ := by
  simp [number, point, place]

theorem number_of_plain
    (plain : ∀ digit after, rest.dropWhile Char.isDigit = '.' :: digit :: after →
      ¬ digit.isDigit) :
    number first rest =
      ⟨.ok .numericLiteral, first :: rest.takeWhile Char.isDigit,
        rest.dropWhile Char.isDigit⟩ := by
  unfold number
  dsimp only
  split
  next digit after point => rw [if_neg (plain digit after point), point]
  next => rfl

/-- The digits of a number after the first one, with or without a point among them. -/
theorem IsNumber.after_first {more : List Char} (isNumber : IsNumber (first :: more)) :
    (∀ c ∈ more, c.isDigit) ∨
      ∃ whole places, more = whole ++ '.' :: places ∧ (∀ c ∈ whole, c.isDigit) ∧
        IsDigits places := by
  rcases isNumber with ⟨_, digits⟩ | ⟨whole, places, same, ⟨some, digits⟩, isPlaces⟩
  · exact .inl fun c among => digits c (List.mem_cons_of_mem _ among)
  · obtain ⟨c, whole, rfl⟩ := List.exists_cons_of_ne_nil some
    exact .inr ⟨whole, places, (List.cons.inj same).2,
      fun c among => digits c (List.mem_cons_of_mem _ among), isPlaces⟩

theorem isDigits_cons (digit : first.isDigit) (rest : List Char) :
    IsDigits (first :: rest.takeWhile Char.isDigit) :=
  ⟨by simp, by simpa [digit] using fun c => List.mem_takeWhile_imp⟩

/-- A number goes on behind its point as far as there are digits. -/
theorem munch_number_of_point (digit : first.isDigit) {place : Char} {after : List Char}
    (point : rest.dropWhile Char.isDigit = '.' :: place :: after) (isPlace : place.isDigit) :
    Munch (first :: rest) (number first rest) := by
  have form : Form .numericLiteral (first :: (rest.takeWhile Char.isDigit ++
      '.' :: place :: after.takeWhile Char.isDigit)) :=
    .number (.inr ⟨_, _, rfl, isDigits_cons digit rest, isDigits_cons isPlace after⟩)
  rw [number_of_point rest point isPlace]
  refine .token _ rfl form ⟨⟨_, form⟩, ?_, ?_⟩
  · refine List.cons_prefix_cons.mpr ⟨rfl, after.dropWhile Char.isDigit, ?_⟩
    have whole := List.takeWhile_append_dropWhile (p := Char.isDigit) (l := rest)
    rw [List.append_assoc, List.cons_append, List.cons_append,
      List.takeWhile_append_dropWhile, ← point, whole]
  · rintro other isPrefix ⟨kind, form⟩
    obtain ⟨more, rfl, within⟩ := form.cons_of_prefix isPrefix
    refine Nat.succ_le_succ ?_
    rcases IsNumber.after_first (form.begins.of_isDigit digit).1 with
      inside | ⟨before, behind, rfl, inside, _, insideBehind⟩
    · exact Nat.le_trans (length_le_takeWhile within inside) (by simp)
    · obtain ⟨same, onward⟩ := takeWhile_dropWhile_of_separator within inside (by decide)
      rw [point] at onward
      have short : behind.length ≤ _ :=
        length_le_takeWhile (List.cons_prefix_cons.mp onward).2 insideBehind
      simp only [List.takeWhile_cons, isPlace] at short
      simpa [same] using short

/-- Without a digit behind it a point is no part of a number. -/
theorem munch_number_of_plain (digit : first.isDigit)
    (plain : ∀ place after, rest.dropWhile Char.isDigit = '.' :: place :: after →
      ¬ place.isDigit) :
    Munch (first :: rest) (number first rest) := by
  have form : Form .numericLiteral (first :: rest.takeWhile Char.isDigit) :=
    .number (.inl (isDigits_cons digit rest))
  rw [number_of_plain rest plain]
  refine .token _ rfl form ⟨⟨_, form⟩, ?_, ?_⟩
  · exact List.cons_prefix_cons.mpr ⟨rfl, List.takeWhile_prefix _⟩
  · rintro other isPrefix ⟨kind, form⟩
    obtain ⟨more, rfl, within⟩ := form.cons_of_prefix isPrefix
    refine Nat.succ_le_succ ?_
    rcases IsNumber.after_first (form.begins.of_isDigit digit).1 with
      inside | ⟨before, behind, rfl, inside, some, insideBehind⟩
    · exact length_le_takeWhile within inside
    · obtain ⟨c, behind, rfl⟩ := List.exists_cons_of_ne_nil some
      obtain ⟨-, after, onward⟩ := takeWhile_dropWhile_of_separator within inside (by decide)
      exact absurd (insideBehind c List.mem_cons_self) (plain c _ onward.symm)

theorem munch_number (digit : first.isDigit) : Munch (first :: rest) (number first rest) := by
  by_cases pointed : ∃ place after, rest.dropWhile Char.isDigit = '.' :: place :: after ∧
      place.isDigit
  · obtain ⟨place, after, point, isPlace⟩ := pointed
    exact munch_number_of_point rest digit point isPlace
  · exact munch_number_of_plain rest digit fun place after point isPlace =>
      pointed ⟨place, after, point, isPlace⟩

/-- A string ends with the first quote behind the one it begins with. -/
theorem quoted_of_prefix {kind : Kind} {other rest : List Char} (form : Form kind other)
    (isPrefix : other <+: '"' :: rest) :
    ∃ body, other = '"' :: (body ++ ['"']) ∧ rest.takeWhile (· != '"') = body ∧
      ∃ after, rest.dropWhile (· != '"') = '"' :: after := by
  obtain ⟨more, rfl, within⟩ := form.cons_of_prefix isPrefix
  obtain ⟨body, same, inside⟩ := (form.begins.of_quote rfl).1
  obtain rfl : more = body ++ ['"'] := (List.cons.inj same).2
  have noQuote : ∀ c ∈ body, (c != '"') = true := by
    intro c among
    have different : c ≠ '"' := ne_of_mem_of_not_mem among inside
    simpa using different
  obtain ⟨taken, after, onward⟩ := takeWhile_dropWhile_of_separator within noQuote (by decide)
  exact ⟨body, rfl, taken, after, onward.symm⟩

theorem munch_quoted (rest : List Char) : Munch ('"' :: rest) (quoted rest) := by
  cases left : rest.dropWhile (· != '"') with
  | nil =>
    have open_ : rest.takeWhile (· != '"') = rest := by
      have whole := List.takeWhile_append_dropWhile (p := (· != '"')) (l := rest)
      rwa [left, List.append_nil] at whole
    refine .openString (by simp [quoted, left]) rfl (by simp [quoted, left, open_]) ?_
    rintro munch isPrefix ⟨kind, form⟩
    obtain ⟨_, -, -, _, onward⟩ := quoted_of_prefix form isPrefix
    simp [left] at onward
  | cons quote after =>
    have isQuote : quote = '"' := by
      have found := List.head_dropWhile_not (· != '"') (l := rest) (by simp [left])
      simpa [left] using found
    subst isQuote
    have whole := List.takeWhile_append_dropWhile (p := (· != '"')) (l := rest)
    have taken : (quoted rest).taken = '"' :: (rest.takeWhile (· != '"') ++ ['"']) := by
      simp [quoted, left]
    have form : Form .stringLiteral (quoted rest).taken := by
      rw [taken]
      refine .string ⟨_, rfl, fun among => ?_⟩
      have outside := List.mem_takeWhile_imp among
      simp at outside
    refine .token _ (by simp [quoted, left]) form ⟨⟨_, form⟩, ?_, ?_⟩
    · rw [taken]
      refine List.cons_prefix_cons.mpr ⟨rfl, after, ?_⟩
      rw [List.append_assoc, List.singleton_append, ← left, whole]
    · rintro other isPrefix ⟨kind, form⟩
      obtain ⟨body, rfl, same, -⟩ := quoted_of_prefix form isPrefix
      rw [taken, same]

theorem form_of_mark {mark : Mark} {text : List Char} (written : mark.text.toList = text) :
    Form (.mark mark) text :=
  .mark (congrArg some (by simp [← written]))

/-- Where no word, number or string begins, every token is a mark, and so has one character or
two. -/
theorem mark_of_prefix {kind : Kind} {other rest : List Char} (form : Form kind other)
    (isPrefix : other <+: first :: rest) (noWord : ¬ isWordStart first)
    (noDigit : ¬ first.isDigit) (noQuote : first ≠ '"') :
    ∃ mark : Mark, mark.text.toList = other ∧
      (other = [first] ∨ ∃ second after, other = [first, second] ∧ rest = second :: after) := by
  obtain ⟨more, rfl, within⟩ := form.cons_of_prefix isPrefix
  obtain ⟨mark, spelled, -⟩ := form.begins.of_other noWord noDigit noQuote
  refine ⟨mark, spelled, ?_⟩
  have length := mark.text_length
  rw [spelled] at length
  cases more with
  | nil => exact .inl rfl
  | cons second others =>
    obtain ⟨after, rfl⟩ := within
    obtain rfl : others = [] := by simpa using length
    exact .inr ⟨second, after, rfl, rfl⟩

theorem LongestMark.munch {rest : List Char} {front : Front}
    (longest : LongestMark first rest front)
    (noWord : ¬ isWordStart first) (noDigit : ¬ first.isDigit) (noQuote : first ≠ '"') :
    Munch (first :: rest) front := by
  cases longest with
  | single written noLonger =>
    refine .token _ rfl (form_of_mark written) ⟨⟨_, form_of_mark written⟩, ⟨rest, rfl⟩, ?_⟩
    rintro other isPrefix ⟨kind, form⟩
    obtain ⟨mark, longer, rfl | ⟨second, after, rfl, split⟩⟩ :=
      mark_of_prefix form isPrefix noWord noDigit noQuote
    · exact Nat.le_refl _
    · exact absurd longer (noLonger mark second after split)
  | @double mark second after written =>
    refine .token _ rfl (form_of_mark written) ⟨⟨_, form_of_mark written⟩, ⟨after, rfl⟩, ?_⟩
    rintro other isPrefix ⟨kind, form⟩
    obtain ⟨_, -, rfl | ⟨_, _, rfl, _⟩⟩ := mark_of_prefix form isPrefix noWord noDigit noQuote
    · simp
    · simp
  | none noMark =>
    refine .stray rfl (by simpa using noQuote) rfl ?_
    rintro other isPrefix ⟨kind, form⟩
    obtain ⟨mark, written, -⟩ := mark_of_prefix form isPrefix noWord noDigit noQuote
    obtain ⟨more, rfl, -⟩ := form.cons_of_prefix isPrefix
    exact noMark mark (by rw [written, List.head?_cons])

/-- A scan takes the longest token at the front, and reports a fault only where there is none. -/
theorem munch_ofChars (first : Char) (rest : List Char) :
    Munch (first :: rest) (ofChars first rest) := by
  unfold ofChars
  split
  next start => exact munch_word rest start
  next noWord =>
  split
  next digit => exact munch_number rest digit
  next noDigit =>
  split
  next quote => exact quote ▸ munch_quoted rest
  next noQuote => exact (longestMark_punctuation first rest).munch noWord noDigit noQuote

end Front

end ScriptFront
