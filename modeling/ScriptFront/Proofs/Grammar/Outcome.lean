import ScriptFront.Proofs.Grammar.Stage
import ScriptFront.Proofs.Parse.Report

/-!
# What comes of reading

A rule of a parse either consumes tokens of the grammar and does nothing else (`Took`), or it
complains about the token at which the stages of the grammar end (`Faulted`). Where the alarm was
down and no error token is left, that complaint is the issue reported. Both compose with the tokens
that were consumed before.
-/
namespace ScriptFront

namespace ParseState

/-- The state after so many tokens were consumed. -/
def advance : Nat → ParseState → ParseState
  | 0, state => state
  | count + 1, state => advance count state.consume

theorem advance_add (first second : Nat) (state : ParseState) :
    state.advance (first + second) = (state.advance first).advance second := by
  induction first generalizing state with
  | zero => rw [Nat.zero_add, advance]
  | succ first ih => rw [Nat.succ_add, advance, advance, ih]

theorem advance_nest (count nesting : Nat) (state : ParseState) :
    (state.nest nesting).advance count = (state.advance count).nest nesting := by
  induction count generalizing state with
  | zero => rfl
  | succ count ih => rw [advance, advance, consume_nest, ih]

@[simp] theorem advance_nesting (count : Nat) (state : ParseState) :
    (state.advance count).nesting = state.nesting := by
  induction count generalizing state with
  | zero => rfl
  | succ count ih => rw [advance, ih, consume_nesting]

theorem Proper.advance {state : ParseState} (proper : state.Proper) (count : Nat) :
    (state.advance count).Proper := by
  induction count generalizing state with
  | zero => exact proper
  | succ count ih => exact ih proper.consume

theorem Clean.advance {state : ParseState} (clean : state.Clean) (count : Nat) :
    (state.advance count).Clean ∧ (state.advance count).alarmed = state.alarmed ∧
      (state.advance count).issues = state.issues := by
  induction count generalizing state with
  | zero => exact ⟨clean, rfl, rfl⟩
  | succ count ih =>
    obtain ⟨cleanNext, alarmed, issues⟩ := clean.consume
    obtain ⟨cleanAfter, alarmed', issues'⟩ := ih cleanNext
    exact ⟨cleanAfter, alarmed'.trans alarmed, issues'.trans issues⟩

theorem reports_advance (count : Nat) (state : ParseState) :
    Reports (fun _ => False) state (state.advance count) := by
  induction count generalizing state with
  | zero => exact .refl state
  | succ count ih => exact (reports_consume state).trans (ih state.consume)

/-- From one state to the other exactly these tokens were consumed. -/
structure Took (tokens : List Token) (before after : ParseState) : Prop where
  ahead : before.ahead = tokens ++ after.ahead
  advanced : after = before.advance tokens.length

namespace Took

variable {first second third : ParseState} {left right tokens : List Token}

theorem refl (state : ParseState) : Took [] state state := ⟨rfl, rfl⟩

theorem trans (before : Took left first second) (after : Took right second third) :
    Took (left ++ right) first third :=
  ⟨by rw [before.ahead, after.ahead, List.append_assoc],
    by rw [after.advanced, before.advanced, List.length_append, advance_add]⟩

theorem consume {state : ParseState} (proper : state.Proper) (notEnd : ¬ state.current.isEnd) :
    Took [state.current] state state.consume :=
  ⟨proper.ahead_of_notEnd notEnd, rfl⟩

theorem proper (took : Took tokens first second) (before : first.Proper) : second.Proper :=
  took.advanced ▸ before.advance _

theorem clean (took : Took tokens first second) (before : first.Clean) :
    second.Clean ∧ second.alarmed = first.alarmed ∧ second.issues = first.issues :=
  took.advanced ▸ before.advance _

theorem reports (took : Took tokens first second) : Reports (fun _ => False) first second :=
  took.advanced ▸ reports_advance ..

theorem nesting (took : Took tokens first second) : second.nesting = first.nesting := by
  rw [took.advanced, advance_nesting]

theorem nest (took : Took tokens first second) (nesting : Nat) :
    Took tokens (first.nest nesting) (second.nest nesting) :=
  ⟨took.ahead, by rw [advance_nest, took.advanced]⟩

/-- Only the end of input has nothing after it. -/
theorem notEnd_of_ahead {state : ParseState} {token : Token} {rest : List Token}
    (ahead : state.ahead = token :: rest) (some : rest ≠ []) : ¬ state.current.isEnd := by
  intro isEnd
  rw [ParseState.ahead, if_pos isEnd] at ahead
  exact some (List.cons.inj ahead).2.symm

theorem ahead_ne_nil (state : ParseState) : state.ahead ≠ [] := by
  obtain ⟨rest, split⟩ := ahead_eq_cons state
  simp [split]

/-- Tokens with others after them can be consumed. -/
theorem of_ahead {state : ParseState} {rest : List Token} (proper : state.Proper)
    (some : rest ≠ []) (ahead : state.ahead = tokens ++ rest) :
    Took tokens state (state.advance tokens.length) := by
  induction tokens generalizing state with
  | nil => exact .refl state
  | cons token tokens ih =>
    have consumed := Took.consume proper (notEnd_of_ahead ahead (by simp [some]))
    obtain ⟨rfl, onward⟩ := List.cons.inj (consumed.ahead.symm.trans ahead)
    exact consumed.trans (ih proper.consume onward)

theorem split (took : Took (left ++ right) first third) (proper : first.Proper) :
    ∃ second, Took left first second ∧ Took right second third := by
  have ahead := took.ahead
  rw [List.append_assoc] at ahead
  have before := of_ahead proper (by simp [ahead_ne_nil]) ahead
  refine ⟨_, before, List.append_cancel_left (before.ahead.symm.trans ahead), ?_⟩
  rw [took.advanced, List.length_append, advance_add]

theorem of_cons {token : Token} (took : Took (token :: tokens) first second)
    (proper : first.Proper) :
    first.current = token ∧ ¬ first.current.isEnd ∧ Took tokens first.consume second := by
  have notEnd := notEnd_of_ahead took.ahead (by simp [ahead_ne_nil])
  obtain ⟨current, onward⟩ :=
    List.cons.inj ((proper.ahead_of_notEnd notEnd).symm.trans took.ahead)
  exact ⟨current, notEnd, onward, took.advanced⟩

theorem eq_of_nil (took : Took [] first second) : second = first := took.advanced

/-- What was consumed at another nesting is consumed at this one. -/
theorem unnest {nesting : Nat} (took : Took tokens (first.nest nesting) second) :
    Took tokens first (second.nest first.nesting) := by
  refine ⟨took.ahead, ?_⟩
  have back : (first.advance tokens.length).nest first.nesting = first.advance tokens.length := by
    rw [← advance_nesting tokens.length first]
    rfl
  rw [took.advanced, advance_nest]
  exact back

end Took

end ParseState

namespace Grammar

open ParseState

/-- Where some tokens leave the stages of the grammar, and what is said about it. Too many operators
in front of an operand are noticed one token late. -/
inductive Fault (stage : Stage) (tokens : List Token) : Diagnostic → Token → Prop where
  | here {before after : List Token} {token : Token} {reached : Stage} {diagnostic : Diagnostic}
      (split : tokens = before ++ token :: after) (stages : stage.after? before = some reached)
      (stuck : reached.next? token.kind = none) (other : diagnostic ≠ .nestsTooDeeply) :
      Fault stage tokens diagnostic token
  | deep {before after : List Token} {operator token : Token}
      (split : tokens = before ++ operator :: token :: after)
      (stages : stage.after? before = some (.operand maxPrefixes))
      (isPrefix : operator.kind.isPrefix) : Fault stage tokens .nestsTooDeeply token

theorem Fault.prepend {stage middle : Stage} {before tokens : List Token} {diagnostic : Diagnostic}
    {token : Token} (stages : stage.after? before = some middle)
    (fault : Fault middle tokens diagnostic token) :
    Fault stage (before ++ tokens) diagnostic token := by
  cases fault with
  | here split reached stuck other =>
    rw [split, ← List.append_assoc]
    exact .here rfl ((Stage.after?_append_of_eq stages _).trans reached) stuck other
  | deep split reached isPrefix =>
    rw [split, ← List.append_assoc]
    exact .deep rfl ((Stage.after?_append_of_eq stages _).trans reached) isPrefix

theorem next?_of_deep {kind : Kind} (isPrefix : kind.isPrefix) :
    (Stage.operand maxPrefixes).next? kind = none := by
  simp [Stage.next?, Stage.inOperand?, isPrefix]

/-- Tokens with a fault lead to no stage. -/
theorem Fault.after?_eq_none {stage : Stage} {tokens : List Token} {diagnostic : Diagnostic}
    {token : Token} (fault : Fault stage tokens diagnostic token) :
    stage.after? tokens = none := by
  cases fault with
  | here split reached stuck _ =>
    rw [split, Stage.after?_append_of_eq reached, Stage.after?, stuck]
    rfl
  | deep split reached isPrefix =>
    rw [split, Stage.after?_append_of_eq reached, Stage.after?, next?_of_deep isPrefix]
    rfl

/-- A complaint was made about the token where the stages end, unless an error token was met before
it was noticed. -/
structure Faulted (stage : Stage) (diagnostic : Diagnostic) (token : Token)
    (before after : ParseState) : Prop where
  fault : Fault stage before.ahead diagnostic token
  alarmed : after.alarmed = true
  reports : Reports (· = ⟨.error, diagnostic.message, token⟩) before after

/-- What comes of reading tokens of some form from a stage on. -/
inductive Outcome (Form : List Token → Prop) (stage : Stage) (before after : ParseState) :
    Prop where
  | read (tokens : List Token) (form : Form tokens) (took : Took tokens before after)
  | faulted {diagnostic : Diagnostic} {token : Token}
      (faulted : Faulted stage diagnostic token before after)

namespace Faulted

variable {stage middle : Stage} {diagnostic : Diagnostic} {token : Token}
  {first second third : ParseState}

/-- Where no error token is left, the complaint is the issue reported. -/
theorem reported (faulted : Faulted stage diagnostic token first second) (clean : first.Clean)
    (calm : first.alarmed = false) :
    second.issues = ⟨.error, diagnostic.message, token⟩ :: first.issues := by
  cases faulted.reports with
  | silent _ _ same => simp [faulted.alarmed, calm] at same
  | raised skipped unread blamed _ _ issues =>
    rcases blamed with ⟨scanned, among, isError, -⟩ | rfl
    · exact absurd isError (clean scanned (unread ▸ List.mem_append_left _ among))
    · exact issues

/-- What follows a fault without a recovery reports nothing. -/
theorem onward {Complaint : Issue → Prop} (faulted : Faulted stage diagnostic token first second)
    (reports : Reports Complaint second third) : Faulted stage diagnostic token first third :=
  ⟨faulted.fault, (reports.of_alarmed faulted.alarmed).1,
    faulted.reports.trans (reports.strengthen faulted.alarmed)⟩

/-- A fault after tokens of the grammar. -/
theorem prepend {tokens : List Token} (took : Took tokens first second)
    (stages : stage.after? tokens = some middle)
    (faulted : Faulted middle diagnostic token second third) :
    Faulted stage diagnostic token first third :=
  ⟨took.ahead ▸ faulted.fault.prepend stages, faulted.alarmed,
    took.reports.widen.trans faulted.reports⟩

/-- A complaint made after nothing but consuming. -/
theorem complain {count : Nat} (advanced : second = first.advance count)
    (fault : Fault stage first.ahead diagnostic token) :
    Faulted stage diagnostic token first (second.complain diagnostic token) := by
  subst advanced
  exact ⟨fault, report_alarmed .., (reports_advance count first).widen.trans (reports_report ..)⟩

end Faulted

namespace Outcome

variable {Form Before After : List Token → Prop} {stage middle : Stage}
  {first second third : ParseState}

/-- Reading on after tokens of the grammar. -/
theorem prepend {tokens : List Token} (took : Took tokens first second)
    (stages : stage.after? tokens = some middle)
    (forms : ∀ more, Before more → After (tokens ++ more))
    (outcome : Outcome Before middle second third) : Outcome After stage first third := by
  cases outcome with
  | read more form onward => exact .read _ (forms more form) (took.trans onward)
  | faulted faulted => exact .faulted (faulted.prepend took stages)

/-- An operand inside of an operand: counting one operator more, and one less afterwards. -/
theorem unnest (outcome : Outcome Form stage (first.nest (first.nesting + 1)) second) :
    Outcome Form stage first (second.nest (second.nesting - 1)) := by
  cases outcome with
  | read tokens form took =>
    have depth : second.nesting - 1 = first.nesting := by rw [took.nesting]; rfl
    rw [depth]
    exact .read tokens form took.unnest
  | faulted faulted => exact .faulted ⟨faulted.fault, faulted.alarmed, faulted.reports.unnest⟩

end Outcome

end Grammar

end ScriptFront
