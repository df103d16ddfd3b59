import ScriptFront.Proofs.Json.Unique
import ScriptFront.Proofs.Json.Written
import ScriptFront.Proofs.Parse.Normal
import ScriptFront.Syntax.Encoded

/-!
# Trees in JSON lose nothing

A tree can be told from its JSON text in either layout (`encoded_lossless`). A JSON text says one
thing only, both layouts say the same, and from what they say the tree is put together again. The
one number without a text of its own is infinity, which `null` stands for; other numbers that are
not finite do not come from a parse.
-/
namespace ScriptFront

open Json (Datum)

theorem Binary64.eq_infinity {value : Binary64} (notNaN : ¬ value.isNaN)
    (notNegative : ¬ value.isNegative) (infinite : ¬ value.isFinite) : value = .infinity := by
  have code := isInfinite_iff.mp (isInfinite_of_not_isFinite notNaN infinite)
  rw [← magnitude_of_notNegative notNegative, magnitude, code, infinity]

namespace Expression

/-- The tree that a JSON value stands for. -/
def ofDatum? : Datum → Option Expression
  | .object [("type", .string "infix"),
      ("value", .object [("left", left), ("operator", .string name), ("right", right)])] => do
    return binary (← ofDatum? left) (← Operator.ofName? name) (← ofDatum? right)
  | .object [("type", .string "prefix"),
      ("value", .object [("operator", .string name), ("right", operand)])] => do
    return unary (← Operator.ofName? name) (← ofDatum? operand)
  | .object [("type", .string "bool_literal"), ("value", .bool value)] => some (bool value)
  | .object [("type", .string "null_literal")] => some null
  | .object [("type", .string "number_literal"), ("value", .number value)] => some (number value)
  | .object [("type", .string "number_literal"), ("value", .null)] => some (number .infinity)
  | .object [("type", .string "string_literal"), ("value", .string value)] => some (string value)
  | _ => none

/-- Whether every number is finite or infinity. -/
def Exchangeable : Expression → Prop
  | binary left _ right => left.Exchangeable ∧ right.Exchangeable
  | unary _ operand => operand.Exchangeable
  | number value => value.isFinite ∨ value = .infinity
  | bool _ | null | string _ => True

theorem Normal.exchangeable {expression : Expression} (normal : expression.Normal) :
    expression.Exchangeable := by
  induction normal with
  | binary _ _ _ _ _ left right => exact ⟨left, right⟩
  | unary _ _ _ _ operand => exact operand
  | @number value isNumber notNegative =>
    by_cases finite : value.isFinite
    · exact .inl finite
    · exact .inr (Binary64.eq_infinity isNumber notNegative finite)
  | bool | null | string => trivial

theorem ofDatum?_datum {expression : Expression} (exchangeable : expression.Exchangeable) :
    ofDatum? expression.toJson.datum = some expression := by
  induction expression with
  | binary left operator right ihLeft ihRight =>
    simp [toJson, Json.datum, Json.memberData, ofDatum?, ihLeft exchangeable.1,
      ihRight exchangeable.2, Operator.ofName?_name]
  | unary operator operand ih =>
    simp [toJson, Json.datum, Json.memberData, ofDatum?, ih exchangeable,
      Operator.ofName?_name]
  | number value =>
    rcases exchangeable with finite | rfl
    · simp [toJson, Json.datum, Json.memberData, finite, ofDatum?]
    · have infinite : Binary64.infinity.isFinite = false := by decide
      simp [toJson, Json.datum, Json.memberData, infinite, ofDatum?]
  | bool | null | string => simp [toJson, Json.datum, Json.memberData, ofDatum?]

end Expression

namespace Statement

def ofDatum? : Datum → Option Statement
  | .object [("type", .string "print"), ("expression", expression)] =>
    (Expression.ofDatum? expression).map print
  | .object [("type", .string "expression"), ("expression", expression)] =>
    (Expression.ofDatum? expression).map evaluate
  | _ => none

theorem ofDatum?_datum {statement : Statement} (exchangeable : statement.expression.Exchangeable) :
    ofDatum? statement.toJson.datum = some statement := by
  cases statement with
  | print expression | evaluate expression =>
    have inner : Expression.ofDatum? expression.toJson.datum = some expression :=
      Expression.ofDatum?_datum exchangeable
    simp [toJson, Json.datum, Json.memberData, ofDatum?, inner]

end Statement

namespace Program

def ofDatum? : Datum → Option Program
  | .object [("statements", .array items)] => (items.mapM Statement.ofDatum?).map Program.mk
  | _ => none

def Exchangeable (program : Program) : Prop :=
  ∀ statement ∈ program.statements, statement.expression.Exchangeable

theorem exchangeable_parseSource (source : String) :
    (parseSource source).1.program.Exchangeable := by
  intro statement among
  obtain ⟨state, closed, rfl⟩ := ParseState.exists_closed_statement among
  exact (ParseState.statement_normal closed).exchangeable

theorem ofDatum?_datum {program : Program} (exchangeable : program.Exchangeable) :
    ofDatum? program.toJson.datum = some program := by
  have items : ((Json.itemData (program.statements.map Statement.toJson)).mapM Statement.ofDatum?) =
      some program.statements := by
    obtain ⟨statements⟩ := program
    dsimp only [Exchangeable] at exchangeable ⊢
    induction statements with
    | nil => rfl
    | cons statement statements ih =>
      obtain ⟨first, rest⟩ := List.forall_mem_cons.mp exchangeable
      simp [Json.itemData, Statement.ofDatum?_datum first, ih rest]
  simp [toJson, Json.datum, Json.memberData, ofDatum?, items]

end Program

/-- What a text of a parsed program says, in one layout or the other. -/
theorem written_iff (source : String) {text : String}
    (layout : text = (parseSource source).1.program.toJson.compact ∨
      text = (parseSource source).1.program.toJson.indented) (datum : Datum) :
    datum.WrittenAs text ↔ datum = (parseSource source).1.program.toJson.datum := by
  have written : (parseSource source).1.program.toJson.datum.WrittenAs text := by
    rcases layout with rfl | rfl
    · exact Json.writtenAs _ .compact
    · exact Json.writtenAs _ .indented
  exact ⟨fun other => Datum.unique other written, fun same => same ▸ written⟩

theorem eq_of_written {source source' text : String}
    (layout : text = (parseSource source).1.program.toJson.compact ∨
      text = (parseSource source).1.program.toJson.indented)
    (layout' : text = (parseSource source').1.program.toJson.compact ∨
      text = (parseSource source').1.program.toJson.indented) :
    (parseSource source).1.program = (parseSource source').1.program := by
  have same := (written_iff source layout _).mp ((written_iff source' layout' _).mpr rfl)
  have read := Program.ofDatum?_datum (Program.exchangeable_parseSource source')
  rw [same, Program.ofDatum?_datum (Program.exchangeable_parseSource source)] at read
  exact Option.some.inj read

/-- The texts of a parsed program say one thing, from which the program can be put together. So
texts of different programs differ. -/
theorem encoded_lossless :
    (∀ source,
      let program := (parseSource source).1.program
      ∃ value, Program.ofDatum? value = some program ∧
        ∀ text ∈ [program.toJson.compact, program.toJson.indented],
          ∀ datum : Datum, datum.WrittenAs text ↔ datum = value) ∧
    (∀ source source',
      let program := (parseSource source).1.program
      let program' := (parseSource source').1.program
      program.toJson.compact = program'.toJson.compact ∨
        program.toJson.indented = program'.toJson.indented → program = program') ∧
    (∀ source, (parseSource source).1.program.Exchangeable) ∧
    (Json.real .infinity).compact = "null" := by
  refine ⟨fun source => ?_, fun source source' => ?_, Program.exchangeable_parseSource, by decide⟩
  · refine ⟨_, Program.ofDatum?_datum (Program.exchangeable_parseSource source), ?_⟩
    intro text among
    exact written_iff source (by simpa using among)
  · rintro program program' (compact | indented)
    · exact eq_of_written (.inl rfl) (.inl compact)
    · exact eq_of_written (.inr rfl) (.inr indented)

theorem encoded_lossless_escaped :
    let source := "\"\t\\\" + 0.1;"
    let source' := "\"\t\\\"  +  0.10 ;"
    (parseSource source).1.program.toJson.compact = (parseSource source').1.program.toJson.compact ∧
      (parseSource source).1.program = (parseSource source').1.program := by
  intro source source'
  have same : (parseSource source).1.program.toJson.compact =
      (parseSource source').1.program.toJson.compact := by decide +kernel
  exact ⟨same, encoded_lossless.2.1 source source' (.inl same)⟩

end ScriptFront
