import ScriptFront.Json.Numbers
import ScriptFront.Json.Strings

/-!
# Passing over values

A value that nobody asked for is passed over, but must be well formed. The lists and objects that
are open are kept on a stack, so that they may nest to any depth.
-/
namespace ScriptFront.Json

/-- What a part of an open value stands in. -/
inductive Enclosure where
  | list | object
  deriving DecidableEq, Repr

namespace Enclosure

def ofOpening? : Char → Option Enclosure
  | '[' => some list
  | '\x7b' => some object
  | _ => none

def closing : Enclosure → Char
  | list => ']'
  | object => '\x7d'

/-- The text ended inside. -/
def unfinished : Enclosure → Cause
  | list => .endInList
  | object => .endInObject

/-- Neither a comma nor the end follows a part. -/
def unseparated : Enclosure → Cause
  | list => .expectedListEnd
  | object => .expectedObjectEnd

end Enclosure

namespace Reader

/-- Takes the colon after a key. -/
def colon : Reader Unit := do
  match ← next with
  | [] => failBefore .endInObject
  | ':' :: _ => drop 1
  | _ => failUpon .expectedColon

/-- Passes over a key and its colon. -/
def skipKey : Reader Unit := do
  match ← next with
  | [] => failBefore .endInObject
  | '"' :: _ => do
    drop 1
    let _ ← string false
    colon
  | _ => failUpon .keyNotString

/-- Passes over what comes before a part of a list or an object. -/
def skipToPart : Enclosure → Reader Unit
  | .list => pure ()
  | .object => skipKey

/-- Passes over a value that has no parts. -/
def skipScalar : Reader Unit := do
  match ← ahead with
  | 'n' :: _ => word "null".toList
  | 't' :: _ => word "true".toList
  | 'f' :: _ => word "false".toList
  | '-' :: _ => do
    drop 1
    skipNumber
  | '"' :: _ => do
    drop 1
    let _ ← string false
  | text => if startsWithDigit text then skipNumber else failUpon .expectedValue

theorem behind_blanks {text rest : List Char} {c : Char}
    (found : text.dropWhile isBlank = c :: rest) : rest.length < text.length := by
  have shorter := (List.dropWhile_sublist isBlank (l := text)).length_le
  rw [found] at shorter
  exact shorter

/--
Passes over a value and the rest of what is open around it, the innermost first. If `ended`, the
value has been passed over already.
-/
def skipFrom (ended : Bool) (opened : List Enclosure) (text : List Char) :
    Except Fault (List Char) :=
  match ended, opened with
  | true, [] => .ok text
  | true, enclosure :: outer =>
    match _behind : text.dropWhile isBlank with
    | [] => .error (.before enclosure.unfinished [])
    | c :: rest =>
      if c = ',' then
        match _part : (skipToPart enclosure).run rest with
        | .ok (_, part) => skipFrom false (enclosure :: outer) part
        | .error fault => .error fault
      else if c = enclosure.closing then skipFrom true outer rest
      else .error (.upon enclosure.unseparated (c :: rest))
  | false, opened =>
    match _behind : text.dropWhile isBlank with
    | [] => .error (.before .endInValue [])
    | c :: rest =>
      match Enclosure.ofOpening? c with
      | none =>
        match _scalar : skipScalar.run (c :: rest) with
        | .ok (_, after) => skipFrom true opened after
        | .error fault => .error fault
      | some enclosure =>
        match _inside : rest.dropWhile isBlank with
        | [] => .error (.before enclosure.unfinished [])
        | d :: after =>
          if d = enclosure.closing then skipFrom true opened after
          else
            match _part : (skipToPart enclosure).run (d :: after) with
            | .ok (_, part) => skipFrom false (enclosure :: opened) part
            | .error fault => .error fault
termination_by (text.length, if ended then 0 else 1)
decreasing_by
  · have part := (skipToPart enclosure).shrinks _part
    have behind := behind_blanks _behind
    exact Prod.Lex.left _ _ (by omega)
  · exact Prod.Lex.left _ _ (behind_blanks _behind)
  · have scalar := skipScalar.shrinks _scalar
    have behind := behind_blanks _behind
    simp only [List.length_cons] at scalar
    by_cases same : after.length = text.length
    · rw [same]
      exact Prod.Lex.right _ (by decide)
    · exact Prod.Lex.left _ _ (by omega)
  · exact Prod.Lex.left _ _ (Nat.lt_trans (behind_blanks _inside) (behind_blanks _behind))
  · have part := (skipToPart enclosure).shrinks _part
    have inside := behind_blanks _inside
    have behind := behind_blanks _behind
    simp only [List.length_cons] at part
    exact Prod.Lex.left _ _ (by omega)

theorem skipFrom_shrinks {ended : Bool} {opened : List Enclosure} {text rest : List Char}
    (done : skipFrom ended opened text = .ok rest) : rest.length ≤ text.length := by
  fun_induction skipFrom ended opened text with
  | case1 =>
    cases done
    exact Nat.le_refl _
  | case3 text enclosure outer after _ part passed behind onward =>
    exact Nat.le_trans (onward done) (Nat.le_trans ((skipToPart enclosure).shrinks passed)
      (Nat.le_of_lt (behind_blanks behind)))
  | case5 text enclosure outer after behind _ onward =>
    exact Nat.le_trans (onward done) (Nat.le_of_lt (behind_blanks behind))
  | case8 text opened c after behind _ _ left passed onward =>
    exact Nat.le_trans (onward done)
      (Nat.le_trans (skipScalar.shrinks passed) (behind_blanks behind))
  | case11 text opened c after behind enclosure _ left inside onward =>
    exact Nat.le_trans (onward done) (Nat.le_of_lt
      (Nat.lt_trans (behind_blanks inside) (behind_blanks behind)))
  | case12 text opened c after behind enclosure _ d left inside _ _ part passed onward =>
    exact Nat.le_trans (onward done) (Nat.le_trans ((skipToPart enclosure).shrinks passed)
      (Nat.le_trans (behind_blanks inside) (Nat.le_of_lt (behind_blanks behind))))
  | case2 | case4 | case6 | case7 | case9 | case10 | case13 => cases done

/-- Passes over a value. -/
def skip : Reader Unit where
  run text :=
    match skipFrom false [] text with
    | .ok rest => .ok ((), rest)
    | .error fault => .error fault
  shrinks := by
    intro text value rest read
    split at read
    next left done =>
      cases read
      exact skipFrom_shrinks done
    · cases read

end Reader

end ScriptFront.Json
