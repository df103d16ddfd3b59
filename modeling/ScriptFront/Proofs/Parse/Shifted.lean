import ScriptFront.Proofs.Parse.Moved
import ScriptFront.Proofs.Token.Joined

/-!
# Parses of text that stands further on

Behind other text the tokens of a source are the same, but for where they stand. A parse that has
come to them gives the trees of a parse of the source alone, and reports what that one reports,
about tokens that stand further on and on top of the issues from before (`Shifted.run`).
-/
namespace ScriptFront

open ParseState

/-- The issue in a text with so many characters and lines more before it. -/
def Issue.shift (characters lines : Nat) (issue : Issue) : Issue :=
  { issue with token := issue.token.shift characters lines }

def Displacement.shift (characters lines : Nat) : Displacement :=
  ⟨Token.shift characters lines, fun _ => rfl⟩

theorem withoutErrors_shift (characters lines : Nat) (tokens : List Token) :
    withoutErrors (tokens.map (Token.shift characters lines)) =
      (withoutErrors tokens).map (Token.shift characters lines) :=
  withoutErrors_move (.shift characters lines) tokens

/-- What the one parse has reported, the other has reported of tokens that stand further on, on top
of earlier issues. -/
abbrev Echoes (characters lines : Nat) (earlier : List Issue) (s t : ParseState) : Prop :=
  Retold (.shift characters lines) earlier s t

/-- The two parses are also in front of the same tokens. -/
abbrev Shifted (characters lines : Nat) (earlier : List Issue) (s t : ParseState) : Prop :=
  Moved (.shift characters lines) earlier s t

section

variable {characters lines : Nat} {earlier : List Issue} {s t : ParseState}

theorem Echoes.pull (echoes : Echoes characters lines earlier s t) {tokens : List Token}
    (stream : Stream tokens) :
    Shifted characters lines earlier (s.pull tokens)
      (t.pull (tokens.map (Token.shift characters lines))) :=
  Retold.pull echoes stream

namespace Shifted

variable (shifted : Shifted characters lines earlier s t)

include shifted

theorem ahead : t.ahead = s.ahead.map (Token.shift characters lines) := Moved.ahead shifted

theorem issues : t.issues = s.issues.map (Issue.shift characters lines) ++ earlier :=
  Retold.issues shifted.toRetold

/-- From the same tokens, further on, the same statements are read. -/
theorem run : s.trees = t.trees ∧ Shifted characters lines earlier s.finish t.finish :=
  Moved.run shifted

end Shifted

end

end ScriptFront
