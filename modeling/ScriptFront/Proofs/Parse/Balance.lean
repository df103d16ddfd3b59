import ScriptFront.Proofs.Grammar.Outcome
import ScriptFront.Proofs.Parse.Course
import ScriptFront.Proofs.Parse.Nesting

/-!
# The balance of the count

On the course of a parse the count of operators is the number of jobs that are waiting to lower it
(`Moment.Counted.waiting`): it is raised together with the job that lowers it again, and no other
job touches it. While such a job is waiting nothing is read but the operand that it waits for, so
the count is 0 wherever a statement or an operand of a binary operator begins.

There the limit is on the operators right in front of the operand, and the count can be left out
(`Rule.prefixed_eq_behind`): what was read or went wrong before makes no difference
(`nesting_balanced`).
-/
namespace ScriptFront

open ParseState Moment

/-! ## Operands without a count -/

/-- The operators that can stand in front of an operand, as many as the tokens begin with. -/
def frontOperators : List Token → List Operator
  | [] => []
  | token :: rest =>
    match Operator.ofKind? token.kind with
    | some operator => if operator.isUnary then operator :: frontOperators rest else []
    | none => []

namespace Rule

/-- Reads a literal behind these operators. Where more than so many stand in front of it, one more
is consumed and the operand is given up. -/
def behind (limit : Nat) (operators : List Operator) (state : ParseState) :
    Expression × ParseState :=
  if operators.length ≤ limit then
    let read := primary (state.advance operators.length)
    (operators.foldr .unary read.1, read.2)
  else
    let after := state.advance (limit + 1)
    ((operators.take limit).foldr .unary .null, after.complain .nestsTooDeeply after.current)

end Rule

namespace ParseState

variable {state next : ParseState} {operator : Operator}

theorem frontOperators_of_none (absent : state.current.kind ∉ prefixOperators) :
    frontOperators state.ahead = [] := by
  obtain ⟨rest, ahead⟩ := ahead_eq_cons state
  rw [ahead, frontOperators]
  split
  next found isOperator =>
    rw [Operator.ofKind?_eq_some_iff.mp isOperator, Operator.kind_mem_prefixOperators_iff] at absent
    exact if_neg absent
  next => rfl

theorem frontOperators_of_some (stream : Stream state.unread)
    (taken : state.matchOperator prefixOperators = (some operator, next)) :
    frontOperators state.ahead = operator :: frontOperators next.ahead := by
  obtain ⟨among, kind, rfl⟩ := matchOperator_eq_some_iff.mp taken
  have notEnd := (matchOperator_next taken).2
  rw [ahead_of_stream stream notEnd, frontOperators, kind, Operator.ofKind?_kind]
  exact if_pos (Operator.kind_mem_prefixOperators_iff.mp among)

theorem complain_nest (nesting : Nat) (state : ParseState) (diagnostic : Diagnostic)
    (token : Token) :
    (state.nest nesting).complain diagnostic token =
      (state.complain diagnostic token).nest nesting :=
  report_nest nesting state diagnostic.message token

theorem primary_nest (nesting : Nat) (state : ParseState) :
    Rule.primary (state.nest nesting) =
      ((Rule.primary state).1, (Rule.primary state).2.nest nesting) := by
  have current : (state.nest nesting).current = state.current := rfl
  unfold Rule.primary
  rw [current, consume_nest, complain_nest]
  split
  case h_4 =>
    have previous : (state.consume.nest nesting).previous = state.consume.previous := rfl
    dsimp only
    rw [previous, complain_nest]
    split <;> rfl
  all_goals rfl

end ParseState

namespace Rule

variable {limit : Nat} {operators : List Operator} {state : ParseState}

theorem behind_nesting : (behind limit operators state).2.nesting = state.nesting := by
  unfold behind
  split
  · exact (primary_nesting _).trans (advance_nesting _ state)
  · exact (complain_nesting _ _ _).trans (advance_nesting _ state)

theorem behind_nest (nesting : Nat) :
    behind limit operators (state.nest nesting) =
      ((behind limit operators state).1, (behind limit operators state).2.nest nesting) := by
  unfold behind
  split
  · dsimp only
    rw [advance_nest, primary_nest]
  · dsimp only
    rw [advance_nest, complain_nest]
    rfl

/-- An operator in front makes one more of them, and leaves room for one less. -/
theorem behind_cons (operator : Operator) :
    behind (limit + 1) (operator :: operators) state =
      (.unary operator (behind limit operators state.consume).1,
        (behind limit operators state.consume).2) := by
  unfold behind
  rw [List.length_cons, List.take_succ_cons]
  by_cases few : operators.length ≤ limit
  · rw [if_pos few, if_pos (Nat.succ_le_succ few)]
    rfl
  · rw [if_neg few, if_neg fun less => few (Nat.le_of_succ_le_succ less)]
    rfl

/-- The count stands for the room that is left. -/
theorem prefixed_eq_behind (stream : Stream state.unread) (few : state.nesting ≤ nestingLimit) :
    prefixed state =
      behind (nestingLimit - state.nesting) (frontOperators state.ahead) state := by
  induction size : state.remaining using Nat.strongRecOn generalizing state with
  | ind _ shorter =>
    rcases state.matchOperator_prefix with ⟨none, absent⟩ | ⟨operator, taken⟩
    · rw [prefixed_of_none none, frontOperators_of_none absent]
      exact (if_pos (Nat.zero_le _)).symm
    · have fewer : state.consume.remaining < _ := size ▸ matchOperator_remaining taken
      have front := frontOperators_of_some stream taken
      have depth : state.consume.nesting = state.nesting := consume_nesting state
      rw [front]
      by_cases deep : nestingLimit ≤ state.consume.nesting
      · have full : nestingLimit - state.nesting = 0 := by omega
        rw [prefixed_of_deep taken deep, full, behind, List.length_cons, if_neg (by omega)]
        rfl
      · let inner := state.consume.nest (state.consume.nesting + 1)
        have room : nestingLimit - state.nesting = nestingLimit - inner.nesting + 1 := by
          change _ = nestingLimit - (state.consume.nesting + 1) + 1
          omega
        have read : prefixed inner =
            behind (nestingLimit - inner.nesting) (frontOperators state.consume.ahead) inner :=
          shorter _ fewer (proper_pull state stream).stream (Nat.lt_of_not_le deep) rfl
        rw [prefixed_of_some taken deep, room, behind_cons, read, behind_nest]
        refine Prod.ext rfl ?_
        -- The count is back where it was before the operator.
        change (behind _ _ state.consume).2.nest (state.consume.nesting + 1 - 1) = _
        rw [Nat.add_sub_cancel, ← behind_nesting]
        rfl

end Rule

/-! ## The count on the course of a parse -/

namespace Job

/-- Whether the job can be a part of reading an operand. -/
def readsOperand : Job → Bool
  | consume | read [] | enter | leave | literal | number => true
  | _ => false

/-- While an operator is waiting for its operand, nothing else is read. -/
def MayPrecede (first later : Job) : Prop := later = leave → first.readsOperand

/-- What a step does to the count: it raises it and leaves the job that lowers it again, it is that
job, or it keeps the count. -/
inductive Effect (before : ParseState) : Job → List Job → ParseState → Prop where
  | raised (shallow : before.nesting < Rule.nestingLimit) :
      Effect before enter [read [], leave] (before.nest (before.nesting + 1))
  | lowered : Effect before leave [] (before.nest (before.nesting - 1))
  | kept {job : Job} {jobs : List Job} {after : ParseState} (other : job ≠ leave)
      (none : leave ∉ jobs) (inside : job.readsOperand → ∀ more ∈ jobs, more.readsOperand)
      (nesting : after.nesting = before.nesting)
      (stream : Stream before.unread → Stream after.unread) : Effect before job jobs after

variable {state : ParseState} {job : Job}

theorem Effect.split {jobs : List Job} (apart : job ≠ leave ∧ leave ∉ jobs)
    (inside : job.readsOperand → ∀ more ∈ jobs, more.readsOperand) :
    Effect state job jobs state :=
  .kept apart.1 apart.2 inside rfl id

theorem Effect.complained (other : job ≠ leave) (diagnostic : Diagnostic) (token : Token) :
    Effect state job [] (state.complain diagnostic token) := by
  refine .kept other List.not_mem_nil (by simp) (complain_nesting ..) ?_
  rw [complain_unread]
  exact id

theorem stream_takeToken (stream : Stream state.unread) : Stream state.takeToken.2.unread := by
  unfold takeToken
  split
  next nothing => exact absurd nothing stream.ne_nil
  next token rest unread =>
    rw [unread] at stream
    dsimp only
    split
    next isError =>
      cases stream with
      | ends isEnd => exact absurd isError (Token.not_isError_of_isEnd isEnd)
      | goesOn _ _ more => exact more
    next =>
      dsimp only
      split
      · exact stream
      next notEnd =>
        cases stream with
        | ends isEnd => contradiction
        | goesOn _ _ more => exact more

theorem effect_takeToken (state : ParseState) :
    Effect state consume state.takeToken.1 state.takeToken.2 := by
  refine .kept (by simp) ?_ ?_ ?_ stream_takeToken
  all_goals
    unfold takeToken
    split
    · simp
    · dsimp only
      split <;> simp [readsOperand, withUnread]

theorem effect_step (state : ParseState) (job : Job) :
    Effect state job (job.step state).1 (job.step state).2 := by
  cases job with
  | consume => exact effect_takeToken state
  | statements =>
    rw [step]
    split <;> exact .split (by simp) (by simp [readsOperand])
  | statement =>
    rw [step]
    split <;> exact .split (by simp) (by simp [readsOperand])
  | settle =>
    rw [step]
    split
    · exact .kept (by simp) (by simp) (by simp [readsOperand]) rfl id
    · exact .split (by simp) (by simp)
  | skip =>
    rw [step]
    split_ifs <;> exact .split (by simp) (by simp [readsOperand])
  | expect kind diagnostic =>
    rw [step]
    exact .split (by simp) (by simp [readsOperand])
  | check kind diagnostic =>
    rw [step]
    split
    · exact .split (by simp) (by simp)
    · exact .complained (by simp) _ _
  | read levels =>
    cases levels with
    | nil =>
      rw [step]
      split <;> exact .split (by simp) (by simp [readsOperand])
    | cons level tighter =>
      rw [step]
      exact .split (by simp) (by simp [readsOperand])
  | chain level tighter =>
    rw [step]
    split <;> exact .split (by simp) (by simp [readsOperand])
  | enter =>
    rw [step]
    split
    · exact .complained (by simp) _ _
    next shallow => exact .raised (Nat.lt_of_not_le shallow)
  | leave => exact .lowered
  | literal =>
    rw [step]
    split
    case h_6 => exact .complained (by simp) _ _
    all_goals exact .split (by simp) (by simp [readsOperand])
  | number =>
    rw [step]
    split
    · exact .split (by simp) (by simp)
    · exact .complained (by simp) _ _

section Kept

variable {jobs rest : List Job} {after : ParseState} (effect : Effect state job jobs after)

include effect

theorem Effect.waiting (waiting : state.nesting = (job :: rest).count leave) :
    after.nesting = (jobs ++ rest).count leave := by
  cases effect with
  | raised =>
    have behind : state.nesting = rest.count leave := by simpa using waiting
    change state.nesting + 1 = _
    simp [behind]
  | lowered =>
    have behind : state.nesting = rest.count leave + 1 := by simpa using waiting
    change state.nesting - 1 = _
    simp [behind]
  | kept other none _ nesting =>
    rw [List.count_append, List.count_eq_zero.mpr none, Nat.zero_add, nesting, waiting,
      List.count_cons_of_ne other]

theorem Effect.few (few : state.nesting ≤ Rule.nestingLimit) :
    after.nesting ≤ Rule.nestingLimit := by
  cases effect with
  | raised shallow => exact shallow
  | lowered => exact Nat.le_trans (Nat.sub_le _ _) few
  | kept _ _ _ nesting => exact nesting ▸ few

theorem Effect.ordered (ordered : (job :: rest).Pairwise MayPrecede) :
    (jobs ++ rest).Pairwise MayPrecede := by
  obtain ⟨first, behind⟩ := List.pairwise_cons.mp ordered
  cases effect with
  | raised => simpa [MayPrecede, readsOperand] using behind
  | lowered => exact behind
  | kept _ none inside =>
    refine List.pairwise_append.mpr ⟨?_, behind, ?_⟩
    · exact List.pairwise_of_forall_mem_list fun _ _ later among same =>
        absurd (same ▸ among) none
    · exact fun more among later far same => inside (first later far same) more among

theorem Effect.onward (stream : Stream state.unread) : Stream after.unread := by
  cases effect with
  | raised => exact stream
  | lowered => exact stream
  | kept _ _ _ _ onward => exact onward stream

end Kept

end Job

namespace Moment

/-- What every step of a parse keeps. -/
structure Counted (moment : Moment) : Prop where
  /-- The count is that of the operators waiting for their operands. -/
  waiting : moment.state.nesting = moment.jobs.count .leave
  few : moment.state.nesting ≤ Rule.nestingLimit
  ordered : moment.jobs.Pairwise Job.MayPrecede
  stream : Stream moment.state.unread

theorem counted_start (source : String) : (start source).Counted where
  waiting := rfl
  few := Nat.zero_le _
  ordered := by simp [start, Job.MayPrecede]
  stream := stream_tokenize source

theorem Counted.next {moment after : Moment} (counted : moment.Counted)
    (next : Next moment after) : after.Counted := by
  obtain ⟨job, rest, state⟩ := next
  have effect := Job.effect_step state job
  exact ⟨effect.waiting counted.waiting, effect.few counted.few, effect.ordered counted.ordered,
    effect.onward counted.stream⟩

theorem Counted.reaches {moment after : Moment} (counted : moment.Counted)
    (reaches : Reaches moment after) : after.Counted := by
  induction reaches with
  | refl => exact counted
  | tail _ next ih => exact ih.next next

/-- In front of a job that is no part of an operand no operator is waiting. -/
theorem Counted.nesting_eq_zero {rest : List Job} {job : Job} {state : ParseState}
    (front : List Job) (counted : Counted ⟨front ++ job :: rest, state⟩)
    (outside : ¬ job.readsOperand) (none : .leave ∉ front) : state.nesting = 0 := by
  have behind := (List.pairwise_cons.mp (List.pairwise_append.mp counted.ordered).2.1).1
  rw [counted.waiting, List.count_eq_zero]
  intro among
  rcases List.mem_append.mp among with before | after
  · exact none before
  · rcases List.mem_cons.mp after with rfl | later
    · exact outside rfl
    · exact outside (behind _ later rfl)

/-- How the count of operators stands at a moment of a parse. -/
structure Balanced (moment : Moment) : Prop where
  /-- The count is that of the operators waiting for their operands. -/
  waiting : moment.state.nesting = moment.jobs.count .leave
  few : moment.state.nesting ≤ 200
  /-- It is not lowered below 0. -/
  lowers : ∀ rest, moment.jobs = .leave :: rest → 0 < moment.state.nesting
  /-- When an operand is read, whatever came of it, the count is the one with which that began. -/
  returns : ∀ rest, moment.jobs = .read [] :: rest →
    Reaches moment ⟨rest, (Rule.prefixed moment.state).2⟩ ∧
      ∀ after, Reaches moment ⟨rest, after⟩ → after.nesting = moment.state.nesting
  statement : ∀ rest, moment.jobs = .statement :: rest →
    Reaches moment ⟨rest, moment.state.statement.2⟩ ∧ moment.state.nesting = 0
  operand : ∀ levels level tighter rest,
    moment.jobs = .read levels :: .chain level tighter :: rest →
      Reaches moment
          ⟨.chain level tighter :: rest, ((Rule.ofLevels levels).run moment.state).2⟩ ∧
        moment.state.nesting = 0
  /-- Whatever was read before, 200 operators may stand in front of an operand. -/
  limit : ∀ level tighter rest, moment.jobs = .read [] :: .chain level tighter :: rest →
    Rule.prefixed moment.state =
      Rule.behind 200 (frontOperators moment.state.ahead) moment.state

theorem Counted.balanced {moment : Moment} (counted : moment.Counted) : moment.Balanced := by
  obtain ⟨jobs, state⟩ := moment
  have flat (levels : List Level) (level : Level) (tighter : List Level) (rest : List Job)
      (begins : jobs = .read levels :: .chain level tighter :: rest) : state.nesting = 0 := by
    subst begins
    have outside : ¬ (Job.chain level tighter).readsOperand := by simp [Job.readsOperand]
    exact Counted.nesting_eq_zero [.read levels] counted outside (by simp)
  refine ⟨counted.waiting, counted.few, ?lowers, ?returns, ?statement, ?operand, ?limit⟩
  case lowers =>
    rintro rest rfl
    have waiting : state.nesting = rest.count .leave + 1 := by simpa using counted.waiting
    exact waiting ▸ Nat.succ_pos _
  case returns =>
    rintro rest rfl
    refine ⟨does_operand state rest, fun after reaches => ?_⟩
    have here : state.nesting = rest.count .leave := by simpa using counted.waiting
    exact (counted.reaches reaches).waiting.trans here.symm
  case statement =>
    rintro rest rfl
    have outside : ¬ Job.statement.readsOperand := by simp [Job.readsOperand]
    exact ⟨does_statement state rest, Counted.nesting_eq_zero [] counted outside (by simp)⟩
  case operand =>
    rintro levels level tighter rest rfl
    exact ⟨does_read state levels _, flat levels level tighter rest rfl⟩
  case limit =>
    intro level tighter rest begins
    have read := Rule.prefixed_eq_behind counted.stream counted.few
    rwa [flat [] level tighter rest begins] at read

end Moment

/-- The course of a parse leads through the states in which its statements begin to the one in which
it ends, and the count of operators is balanced all the way. So the limit is on the operators in
front of one operand, and what is wrong with an operand or a statement leaves no operators counted
for a later one. -/
theorem nesting_balanced (source : String) :
    (∀ head ∈ (ofSource source).heads,
      ∃ rest, Reaches (start source) ⟨.statement :: rest, head⟩) ∧
    (∃ last, Reaches (start source) ⟨[], last⟩ ∧ (parse source).issues = last.issues.reverse ∧
      (parse source).steps = last.steps.reverse) ∧
    ∀ moment, Reaches (start source) moment → moment.Balanced := by
  refine ⟨fun head among => ⟨_, reaches_head source head among⟩, reaches_end source, ?_⟩
  intro moment reaches
  exact ((counted_start source).reaches reaches).balanced

end ScriptFront
