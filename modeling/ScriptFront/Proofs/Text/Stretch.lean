import Mathlib.Data.List.TakeWhile

/-!
# Stretches of a text

A stretch is a part of a text of which all characters are of one class, and which no further
character of the class follows. Where a stretch ends is settled by the text alone
(`split_of_stretch`), and so is where a part ends that goes up to the first stop (`split_at_stop`).
-/
namespace ScriptFront

section Stretches

variable {α : Type} {p : α → Bool}

/-- Whether a text does not go on with an element of a class. -/
def Halts (p : α → Bool) (text : List α) : Prop := ∀ c ∈ text.head?, p c = false

@[simp] theorem halts_nil : Halts p [] := by simp [Halts]

@[simp] theorem halts_cons {first : α} {rest : List α} :
    Halts p (first :: rest) ↔ p first = false := by
  simp [Halts]

variable {stretch after : List α}

theorem takeWhile_stretch (inside : ∀ c ∈ stretch, p c) (halts : Halts p after) :
    (stretch ++ after).takeWhile p = stretch := by
  rw [List.takeWhile_append_of_pos inside]
  cases after with
  | nil => simp
  | cons first rest => simp [halts_cons.mp halts]

theorem dropWhile_stretch (inside : ∀ c ∈ stretch, p c) (halts : Halts p after) :
    (stretch ++ after).dropWhile p = after := by
  rw [List.dropWhile_append_of_pos inside]
  cases after with
  | nil => simp
  | cons first rest => simp [halts_cons.mp halts]

theorem split_of_stretch {stretch' after' : List α} (inside : ∀ c ∈ stretch, p c)
    (inside' : ∀ c ∈ stretch', p c) (halts : Halts p after) (halts' : Halts p after')
    (same : stretch ++ after = stretch' ++ after') : stretch = stretch' ∧ after = after' := by
  have taken := congrArg (List.takeWhile p) same
  have left := congrArg (List.dropWhile p) same
  rw [takeWhile_stretch inside halts, takeWhile_stretch inside' halts'] at taken
  rw [dropWhile_stretch inside halts, dropWhile_stretch inside' halts'] at left
  exact ⟨taken, left⟩

/-- A text in front of the first stop is settled by the whole. -/
theorem split_at_stop [DecidableEq α] {stop : α} {text text' after' : List α} (absent : stop ∉ text)
    (absent' : stop ∉ text') (same : text ++ stop :: after = text' ++ stop :: after') :
    text = text' ∧ after = after' := by
  have free {text : List α} (absent : stop ∉ text) : ∀ c ∈ text, (c != stop) = true :=
    fun c among => bne_iff_ne.mpr fun isStop => absent (isStop ▸ among)
  obtain ⟨front, behind⟩ := split_of_stretch (free absent) (free absent') (by simp) (by simp) same
  exact ⟨front, (List.cons.inj behind).2⟩

end Stretches

/-- A name in front of a blank is settled by the whole, and with it what can be found by the
name. -/
theorem name_split {α : Type} {name : α → String} {find? : String → Option α}
    (found : ∀ named, find? (name named) = some named)
    (noBlank : ∀ named, ' ' ∉ (name named).toList) {named named' : α} {after after' : List Char}
    (same : (name named).toList ++ ' ' :: after = (name named').toList ++ ' ' :: after') :
    named = named' ∧ after = after' := by
  obtain ⟨names, behind⟩ := split_at_stop (noBlank named) (noBlank named') same
  have known : find? (name named) = some named' := by
    rw [String.toList_inj.mp names, found]
  rw [found] at known
  exact ⟨Option.some.inj known, behind⟩

end ScriptFront
