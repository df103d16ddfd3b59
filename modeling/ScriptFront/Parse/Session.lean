import ScriptFront.Parse.Program

/-!
# Sessions

In a session one reporter is told about single issues and about whole sources, in any order. A parse
fails as soon as the reporter knows of an error, also of one from an earlier step.
-/
namespace ScriptFront

inductive SessionStep where
  | report (issue : Issue)
  | parse (source : String)
  deriving DecidableEq, Repr

namespace Reporter

variable {σ : Type} [Reporter σ]

/-- One step, with the verdict of a parse. -/
def take (reporter : σ) : SessionStep → Option Verdict × σ
  | .report issue => (none, record reporter issue)
  | .parse source => (some (parse reporter source).1, (parse reporter source).2)

/-- What every step answers, and what the reporter knows after it. -/
def session (reporter : σ) : List SessionStep → List (Option Verdict × σ)
  | [] => []
  | step :: steps => take reporter step :: session (take reporter step).2 steps

end Reporter

end ScriptFront
