import Mathlib.Data.List.Forall2
import ScriptFront.Proofs.Token.Behind

/-!
# Blanks in place of errors

`blankErrors` puts blanks in place of all that error tokens cover. A blank belongs to no token but a
string, so that a token stays what it is when blanks are put behind it (`Dimmed.spares`).
-/
namespace ScriptFront

/-- Whether a position lies within the token. -/
def Token.covers (token : Token) (position : Nat) : Bool :=
  token.start ≤ position && position < token.stop

/-- The text from a position on, with blanks in place of what error tokens cover. -/
def blankFrom (tokens : List Token) (offset : Nat) (text : List Char) : List Char :=
  text.mapIdx fun index c =>
    if tokens.any fun token => token.isError && token.covers (offset + index) then ' ' else c

/-- The source with blanks in place of what error tokens cover. -/
def blankErrors (source : String) : String :=
  String.ofList (blankFrom (tokenize source) 0 source.toList)

/-- The same text but for some blanks. -/
abbrev Dimmed : List Char → List Char → Prop :=
  List.Forall₂ fun before after => after = before ∨ after = ' '

section Blanks

variable {tokens : List Token} {token : Token} {offset : Nat} {text : List Char}

theorem blankFrom_append (before after : List Char) :
    blankFrom tokens offset (before ++ after) =
      blankFrom tokens offset before ++ blankFrom tokens (offset + before.length) after := by
  simp [blankFrom, List.mapIdx_append, Nat.add_left_comm, Nat.add_comm]

theorem dimmed_blankFrom (tokens : List Token) (offset : Nat) (text : List Char) :
    Dimmed text (blankFrom tokens offset text) := by
  rw [Dimmed, List.forall₂_iff_get]
  refine ⟨by simp [blankFrom], fun index _ _ => ?_⟩
  simp only [blankFrom, List.get_eq_getElem, List.getElem_mapIdx]
  split
  · exact .inr rfl
  · exact .inl rfl

theorem blankFrom_of_uncovered
    (uncovered : ∀ token ∈ tokens, token.isError →
      token.stop ≤ offset ∨ offset + text.length ≤ token.start) :
    blankFrom tokens offset text = text := by
  refine List.ext_getElem (by simp [blankFrom]) fun index _ inside => ?_
  simp only [blankFrom, List.getElem_mapIdx]
  refine if_neg ?_
  rw [List.any_eq_true]
  rintro ⟨token, among, covering⟩
  simp only [Bool.and_eq_true, Token.covers, decide_eq_true_eq] at covering
  have apart := uncovered token among covering.1
  omega

theorem blankFrom_of_covered (among : token ∈ tokens) (isError : token.isError)
    (starts : token.start ≤ offset) (stops : offset + text.length ≤ token.stop) :
    blankFrom tokens offset text = List.replicate text.length ' ' := by
  refine List.ext_getElem (by simp [blankFrom]) fun index inside _ => ?_
  have short : index < text.length := by simpa [blankFrom] using inside
  simp only [blankFrom, List.getElem_mapIdx, List.getElem_replicate]
  refine if_pos (List.any_eq_true.mpr ⟨token, among, ?_⟩)
  simp only [Bool.and_eq_true, Token.covers, decide_eq_true_eq]
  exact ⟨isError, by omega, by omega⟩

theorem blankFrom_cons (behind : token.stop ≤ offset) :
    blankFrom (token :: tokens) offset text = blankFrom tokens offset text := by
  refine List.ext_getElem (by simp [blankFrom]) fun index _ _ => ?_
  have uncovered : token.covers (offset + index) = false := by
    simp only [Token.covers, Bool.and_eq_false_iff, decide_eq_false_iff_not]
    omega
  simp [blankFrom, uncovered]

end Blanks

/-- Where no blank was put, the text is the same. -/
theorem Dimmed.prefix_of_no_blank {after after' extra : List Char} (dimmed : Dimmed after after')
    (isPrefix : extra <+: after') (noBlank : ' ' ∉ extra) : extra <+: after := by
  induction dimmed generalizing extra with
  | nil => exact isPrefix
  | @cons c c' rest rest' same _ ih =>
    cases extra with
    | nil => exact List.nil_prefix
    | cons d extra =>
      obtain ⟨rfl, within⟩ := List.cons_prefix_cons.mp isPrefix
      obtain ⟨isNot, noBlank⟩ := not_or.mp (mt List.mem_cons.mpr noBlank)
      have kept : d = c := same.resolve_right (Ne.symm isNot)
      exact List.cons_prefix_cons.mpr ⟨kept, ih within noBlank⟩

theorem Dimmed.spares {after after' : List Char} (dimmed : Dimmed after after') :
    Spares after after' :=
  fun _ isPrefix noWhite => dimmed.prefix_of_no_blank isPrefix (noWhite ' ' (by decide))

end ScriptFront
