import ScriptFront.Token.Kind

/-!
# Operators

An operator is written as a punctuation mark and named in printed trees. Binary operators stand on
four levels, from the loosest to the tightest; those of one level associate to the left. `!` and `-`
can also be put in front of an operand.

A parse goes by two tables of tokens, of a level (`Level.operators`) and in front of an operand
(`prefixOperators`), and by the operator that a token stands for (`Operator.ofKind?`). They agree
with what is said of each operator: with its level, with whether it can stand in front, and with its
mark.
-/
namespace ScriptFront

inductive Operator where
  | bang | minus | plus | slash | star | bangEqual | equalEqual
  | greater | greaterEqual | less | lessEqual
  deriving DecidableEq, Repr

/-- How tightly a binary operator binds. -/
inductive Level where
  | equality | comparison | term | factor
  deriving DecidableEq, Repr

namespace Level

/-- From the loosest to the tightest. -/
def all : List Level := [equality, comparison, term, factor]

/-- The place among the levels; tighter levels come later. -/
def tightness (level : Level) : Nat := all.idxOf level

/-- The tokens that are operators of the level. -/
def operators : Level → List Kind
  | equality => [.mark .exclamationEquals, .mark .equalsEquals]
  | comparison =>
    [.mark .greaterThan, .mark .greaterThanEquals, .mark .lessThan, .mark .lessThanEquals]
  | term => [.mark .minus, .mark .plus]
  | factor => [.mark .slash, .mark .asterisk]

end Level

/-- The tokens that are operators in front of an operand. -/
def prefixOperators : List Kind := [.mark .exclamation, .mark .minus]

namespace Operator

def all : List Operator :=
  [bang, minus, plus, slash, star, bangEqual, equalEqual, greater, greaterEqual, less, lessEqual]

def name : Operator → String
  | bang => "bang"
  | minus => "minus"
  | plus => "plus"
  | slash => "slash"
  | star => "star"
  | bangEqual => "bang_equal"
  | equalEqual => "equal_equal"
  | greater => "greater"
  | greaterEqual => "greater_equal"
  | less => "less"
  | lessEqual => "less_equal"

def mark : Operator → Mark
  | bang => .exclamation
  | minus => .minus
  | plus => .plus
  | slash => .slash
  | star => .asterisk
  | bangEqual => .exclamationEquals
  | equalEqual => .equalsEquals
  | greater => .greaterThan
  | greaterEqual => .greaterThanEquals
  | less => .lessThan
  | lessEqual => .lessThanEquals

def kind (operator : Operator) : Kind := .mark operator.mark

def text (operator : Operator) : String := operator.mark.text

/-- The level of a binary operator. `!` is none. -/
def level? : Operator → Option Level
  | bang => none
  | bangEqual | equalEqual => some .equality
  | greater | greaterEqual | less | lessEqual => some .comparison
  | minus | plus => some .term
  | slash | star => some .factor

/-- Whether the operator can stand in front of an operand. -/
def isUnary : Operator → Bool
  | bang | minus => true
  | _ => false

/-- The operator that a token of this kind stands for. -/
def ofKind? : Kind → Option Operator
  | .mark .exclamation => some bang
  | .mark .minus => some minus
  | .mark .plus => some plus
  | .mark .slash => some slash
  | .mark .asterisk => some star
  | .mark .exclamationEquals => some bangEqual
  | .mark .equalsEquals => some equalEqual
  | .mark .greaterThan => some greater
  | .mark .greaterThanEquals => some greaterEqual
  | .mark .lessThan => some less
  | .mark .lessThanEquals => some lessEqual
  | _ => none

def ofName? (name : String) : Option Operator :=
  all.find? (·.name == name)

theorem ofKind?_kind (operator : Operator) : ofKind? operator.kind = some operator := by
  cases operator <;> rfl

theorem ofName?_name (operator : Operator) : ofName? operator.name = some operator := by
  cases operator <;> rfl

theorem kind_of_ofKind? {kind : Kind} {operator : Operator} (found : ofKind? kind = some operator) :
    operator.kind = kind := by
  unfold ofKind? at found
  split at found
  case h_12 => contradiction
  all_goals exact Option.some.inj found ▸ rfl

theorem ofKind?_eq_some_iff {kind : Kind} {operator : Operator} :
    ofKind? kind = some operator ↔ kind = operator.kind :=
  ⟨fun found => (kind_of_ofKind? found).symm, fun same => same ▸ ofKind?_kind operator⟩

theorem prefixOperators_known : ∀ kind ∈ prefixOperators, (ofKind? kind).isSome := by decide

theorem operators_known (level : Level) : ∀ kind ∈ level.operators, (ofKind? kind).isSome := by
  cases level <;> decide

theorem kind_mem_prefixOperators_iff {operator : Operator} :
    operator.kind ∈ prefixOperators ↔ operator.isUnary := by
  cases operator <;> decide

theorem kind_mem_operators_iff {operator : Operator} {level : Level} :
    operator.kind ∈ level.operators ↔ operator.level? = some level := by
  cases operator <;> cases level <;> decide

end Operator

end ScriptFront
