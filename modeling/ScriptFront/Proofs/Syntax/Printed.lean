import Mathlib.Data.Set.Function
import ScriptFront.Proofs.Number.Text
import ScriptFront.Proofs.Parse.Normal
import ScriptFront.Proofs.Text.Stretch
import ScriptFront.Syntax.Printed

/-!
# Printed trees are unambiguous

Nothing is escaped in a printed tree, and a string may hold blanks, parentheses and ends of lines.
A tree can be recovered from its text all the same (`printed_unambiguous`): the first character of
an expression tells a number from the other literals and from an operator in parentheses, and where
the expression ends is settled by its own text and one character more (`Expression.printed_split`).
-/
namespace ScriptFront

namespace Expression

/-- What the text of a tree can tell apart. -/
def Printable : Expression → Prop
  | binary left _ right => left.Printable ∧ right.Printable
  | unary _ operand => operand.Printable
  | bool _ | null => True
  | number value => ¬ value.isNaN
  | string value => '"' ∉ value.toList

/-- The first character of a tree that is no number. -/
def lead? : Expression → Option Char
  | binary .. | unary .. => some '('
  | bool value => some (if value then 't' else 'f')
  | null => some 'n'
  | number _ => none
  | string _ => some '"'

end Expression

def Program.Printable (program : Program) : Prop :=
  ∀ statement ∈ program.statements, statement.expression.Printable

/-- The characters that trees other than numbers begin with. -/
def isLead (c : Char) : Bool := ['(', 't', 'f', 'n', '"'].contains c

/-- What can be part of a number; what comes behind one in a printed tree cannot. -/
def isNumberPart (c : Char) : Bool := c.isDigit || ['-', '.', 'i', 'n', 'f'].contains c

theorem halts_blank {rest : List Char} : Halts isNumberPart (' ' :: rest) := by
  simp [isNumberPart]

theorem halts_closing {rest : List Char} : Halts isNumberPart (')' :: rest) := by
  simp [isNumberPart]

namespace Operator

variable {operator operator' : Operator}

theorem name_noBlank (operator : Operator) : ' ' ∉ operator.name.toList := by
  cases operator <;> decide

/-- The name in front of a blank tells the operator. -/
theorem name_split {after after' : List Char}
    (same : operator.name.toList ++ ' ' :: after = operator'.name.toList ++ ' ' :: after') :
    operator = operator' ∧ after = after' :=
  ScriptFront.name_split ofName?_name name_noBlank same

end Operator

theorem Binary64.isNumberPart_plainText {value : Binary64} (notNaN : ¬ value.isNaN) :
    ∀ c ∈ value.plainText, isNumberPart c := by
  intro c among
  simpa [isNumberPart] using (chars_plainText notNaN).2 c among

namespace Expression

variable {expression expression' : Expression}

/-- The first character of a text shows the kind of the tree. -/
theorem lead?_of_text (printable : expression.Printable) (after : List Char) :
    (expression.printedBefore after).head?.filter isLead = expression.lead? := by
  cases expression with
  | binary | unary | null | string => rfl
  | bool value => cases value <;> rfl
  | number value =>
    obtain ⟨⟨first, rest, text, begins⟩, -⟩ := Binary64.chars_plainText printable
    have noLead : isLead first = false := by
      by_contra lead
      simp only [isLead, List.contains_eq_mem, List.mem_cons, List.not_mem_nil, or_false,
        Bool.not_eq_false, decide_eq_true_eq] at lead
      rcases lead with rfl | rfl | rfl | rfl | rfl <;> simp at begins
    rw [printedBefore, text, List.cons_append, List.head?_cons, Option.filter_some, noLead]
    rfl

theorem lead?_congr (printable : expression.Printable) (printable' : expression'.Printable)
    {after after' : List Char}
    (same : expression.printedBefore after = expression'.printedBefore after') :
    expression.lead? = expression'.lead? := by
  rw [← lead?_of_text printable after, same, lead?_of_text printable']

/-- Behind a printed expression a text is in no doubt about where the expression ended. -/
theorem printed_split (printable : expression.Printable) (printable' : expression'.Printable)
    {after after' : List Char} (halts : Halts isNumberPart after)
    (halts' : Halts isNumberPart after')
    (same : expression.printedBefore after = expression'.printedBefore after') :
    expression = expression' ∧ after = after' := by
  induction expression generalizing expression' after after' with
  | binary left operator right ihLeft ihRight =>
    have lead := lead?_congr printable printable' same
    cases expression' with
    | binary left' operator' right' =>
      obtain ⟨rfl, inner⟩ := Operator.name_split (List.cons.inj same).2
      obtain ⟨rfl, between⟩ := ihLeft printable.1 printable'.1 halts_blank halts_blank inner
      obtain ⟨rfl, behind⟩ := ihRight printable.2 printable'.2 halts_closing halts_closing
        (List.cons.inj between).2
      exact ⟨rfl, (List.cons.inj behind).2⟩
    | unary operator' operand' =>
      -- A blank comes behind the first of two operands, a parenthesis behind an only one.
      obtain ⟨rfl, inner⟩ := Operator.name_split (List.cons.inj same).2
      have inside : operand'.Printable := printable'
      obtain ⟨-, behind⟩ := ihLeft printable.1 inside halts_blank halts_closing inner
      simp at behind
    | bool value => cases value <;> simp [lead?] at lead
    | _ => simp [lead?] at lead
  | unary operator operand ih =>
    have lead := lead?_congr printable printable' same
    cases expression' with
    | binary left' operator' right' =>
      obtain ⟨rfl, inner⟩ := Operator.name_split (List.cons.inj same).2
      obtain ⟨-, behind⟩ := ih printable printable'.1 halts_closing halts_blank inner
      simp at behind
    | unary operator' operand' =>
      obtain ⟨rfl, inner⟩ := Operator.name_split (List.cons.inj same).2
      have inside : operand'.Printable := printable'
      obtain ⟨rfl, behind⟩ := ih printable inside halts_closing halts_closing inner
      exact ⟨rfl, (List.cons.inj behind).2⟩
    | bool value => cases value <;> simp [lead?] at lead
    | _ => simp [lead?] at lead
  | bool value =>
    have lead := lead?_congr printable printable' same
    cases expression' with
    | bool value' =>
      obtain rfl : value = value' := by
        cases value <;> cases value' <;> simp [lead?] at lead ⊢
      exact ⟨rfl, List.append_cancel_left same⟩
    | _ => cases value <;> simp [lead?] at lead
  | null =>
    have lead := lead?_congr printable printable' same
    cases expression' with
    | null => exact ⟨rfl, List.append_cancel_left same⟩
    | bool value' => cases value' <;> simp [lead?] at lead
    | _ => simp [lead?] at lead
  | number value =>
    have lead := lead?_congr printable printable' same
    cases expression' with
    | number value' =>
      obtain ⟨text, behind⟩ := split_of_stretch (Binary64.isNumberPart_plainText printable)
        (Binary64.isNumberPart_plainText printable') halts halts' same
      rw [Binary64.eq_of_plainText printable printable' text]
      exact ⟨rfl, behind⟩
    | _ => simp [lead?] at lead
  | string value =>
    have lead := lead?_congr printable printable' same
    cases expression' with
    | string value' =>
      have noQuote : '"' ∉ value.toList := printable
      have noQuote' : '"' ∉ value'.toList := printable'
      obtain ⟨text, behind⟩ := split_at_stop noQuote noQuote' (List.cons.inj same).2
      rw [String.toList_inj.mp text]
      exact ⟨rfl, behind⟩
    | bool value' => cases value' <;> simp [lead?] at lead
    | _ => simp [lead?] at lead

theorem Normal.printable (normal : expression.Normal) : expression.Printable := by
  induction normal with
  | binary _ _ _ _ _ left right => exact ⟨left, right⟩
  | unary _ _ _ _ operand => exact operand
  | bool | null => trivial
  | number isNumber _ => exact isNumber
  | string noQuote => exact noQuote

end Expression

namespace Statement

variable {statement statement' : Statement}

theorem head_noBlank : ' ' ∉ statement.head.toList := by
  cases statement <;> simp [head]

theorem eq_of_head (head : statement.head = statement'.head)
    (expression : statement.expression = statement'.expression) : statement = statement' := by
  cases statement <;> cases statement' <;> simp_all [Statement.head, Statement.expression]

theorem printed_split (printable : statement.expression.Printable)
    (printable' : statement'.expression.Printable) {after after' : List Char}
    (same : statement.printedBefore after = statement'.printedBefore after') :
    statement = statement' ∧ after = after' := by
  obtain ⟨head, inner⟩ := split_at_stop head_noBlank head_noBlank (List.cons.inj same).2
  obtain ⟨expression, behind⟩ := Expression.printed_split printable printable' halts_closing
    halts_closing inner
  exact ⟨eq_of_head (String.toList_inj.mp head) expression, (List.cons.inj behind).2⟩

end Statement

theorem Program.printable_parseSource (source : String) :
    (parseSource source).1.program.Printable := by
  intro statement among
  obtain ⟨state, closed, rfl⟩ := ParseState.exists_closed_statement among
  exact (ParseState.statement_normal closed).printable

/-- No two statements end the line of the first with the same text, so a text of lines that were
printed one after the other is cut into statements in one way. -/
theorem statements_of_printed {statements statements' : List Statement}
    (printable : ∀ statement ∈ statements, statement.expression.Printable)
    (printable' : ∀ statement ∈ statements', statement.expression.Printable)
    (same : statements.foldr (fun statement after => statement.printedBefore ('\n' :: after)) [] =
      statements'.foldr (fun statement after => statement.printedBefore ('\n' :: after)) []) :
    statements = statements' := by
  induction statements generalizing statements' with
  | nil =>
    cases statements' with
    | nil => rfl
    | cons => simp [Statement.printedBefore] at same
  | cons statement statements ih =>
    cases statements' with
    | nil => simp [Statement.printedBefore] at same
    | cons statement' statements' =>
      obtain ⟨inHead, inRest⟩ := List.forall_mem_cons.mp printable
      obtain ⟨inHead', inRest'⟩ := List.forall_mem_cons.mp printable'
      obtain ⟨rfl, behind⟩ := Statement.printed_split inHead inHead' same
      rw [ih inRest inRest' (List.cons.inj behind).2]

/-- Different trees have different texts, and what a parse gives is among the trees of which this
holds. -/
theorem printed_unambiguous :
    Set.InjOn Program.printed {program | program.Printable} ∧
      Set.InjOn Statement.printed {statement | statement.expression.Printable} ∧
      Set.InjOn Expression.printed {expression | expression.Printable} ∧
      ∀ source, (parseSource source).1.program.Printable := by
  refine ⟨?_, ?_, ?_, Program.printable_parseSource⟩
  · intro program printable program' printable' same
    cases program
    cases program'
    rw [Program.mk.injEq]
    exact statements_of_printed printable printable' (String.ofList_inj.mp same)
  · intro statement printable statement' printable' same
    exact (Statement.printed_split printable printable' (String.ofList_inj.mp same)).1
  · intro expression printable expression' printable' same
    exact (Expression.printed_split printable printable' halts_nil halts_nil
      (String.ofList_inj.mp same)).1

theorem printed_unambiguous_imitated :
    let program : Program := ⟨[.print (.binary (.string "2)\n(print") .minus (.number .zero))]⟩
    let imitation : Program := ⟨[.print (.unary .minus (.string "2)\n(print 0"))]⟩
    program.Printable ∧ imitation.Printable ∧ program.printed ≠ imitation.printed := by
  intro program imitation
  have isNumber : ¬ Binary64.zero.isNaN := by decide
  have noQuote : '"' ∉ "2)\n(print".toList := by decide
  have noQuote' : '"' ∉ "2)\n(print 0".toList := by decide
  have printable : program.Printable := List.forall_mem_singleton.mpr ⟨noQuote, isNumber⟩
  have printable' : imitation.Printable := List.forall_mem_singleton.mpr noQuote'
  exact ⟨printable, printable', fun same =>
    absurd (printed_unambiguous.1 printable printable' same) (by decide)⟩

end ScriptFront
