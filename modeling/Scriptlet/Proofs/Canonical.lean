/-
# Canonical trees

A canonical tree puts operators where their levels put them. What binds more tightly stands deeper,
and operations of one level chain to the left; only a group or a call may put a looser operator
under a tighter one. Declarations and assignments stand directly in a statement, and every node
that gives the place of a lexeme gives the same.

Canonical is meant relative to a table of operators, and every operator is registered in it.
-/

import Scriptlet.OperatorTable
import Scriptlet.Proofs.Reading

namespace Scriptlet

namespace OperatorTable

theorem takesPrecedence_eq {table : OperatorTable} {symbol other : String} {tight loose : Level}
    (hsymbol : table.level? symbol = some tight) (hother : table.level? other = some loose) :
    table.takesPrecedence symbol other = .ok (decide (loose < tight)) := by
  simp only [takesPrecedence, level, hsymbol, hother]
  rfl

end OperatorTable

namespace Node

/-- The level of an operation. -/
def level? (operators : OperatorTable) : Node → Option Level
  | operator symbol .. => operators.level? symbol
  | _ => none

variable (operators : OperatorTable)

/-- Expressions with all operators where their levels put them. -/
inductive IsExpression : Node → Prop
  | identifier {target} : IsExpression (.identifier target)
  | string {value position} : IsExpression (.string value position)
  | number {value position} : IsExpression (.number value position)
  | boolean {value position} : IsExpression (.boolean value position)
  /-- A call stands where its name stands. -/
  | call {name arguments position}
      (harguments : ∀ argument ∈ arguments, IsExpression argument) :
      IsExpression (.call ⟨name, position⟩ arguments position)
  | group {inner position} (hinner : IsExpression inner) : IsExpression (.group inner position)
  /-- An operation to the left binds at least as tightly, one to the right more tightly. -/
  | operator {symbol level left right position} (hsymbol : operators.level? symbol = some level)
      (hleft : IsExpression left) (hright : IsExpression right)
      (hloose : ∀ other ∈ left.level? operators, level ≤ other)
      (htight : ∀ other ∈ right.level? operators, level < other) :
      IsExpression (.operator symbol left right position)

/-- The symbol of an operation. -/
def symbol? : Node → Option String
  | operator symbol .. => some symbol
  | _ => none

/-- Whether the operands of a node are where the precedence of operators puts them: an operation to
the right binds more tightly, one to the left at least as tightly. -/
def RespectsPrecedence : Node → Prop
  | operator symbol left right _ =>
    (∀ inner ∈ right.symbol?, operators.takesPrecedence inner symbol = .ok true) ∧
      ∀ inner ∈ left.symbol?, operators.takesPrecedence symbol inner = .ok false
  | _ => True

/-- What a statement may hold. -/
inductive IsLine : Node → Prop
  | expression {node} (h : IsExpression operators node) : IsLine node
  | assignment {target value position} (hvalue : IsExpression operators value) :
      IsLine (.assignment target [value] position)
  | declaration {target valueType value position} (hvalue : IsExpression operators value) :
      IsLine (.declaration target valueType value position)

variable {operators}

/-- Every node inside an expression is an expression. -/
theorem IsExpression.of_mem_preorder {node : Node} (h : IsExpression operators node)
    {depth : Nat} {entry : Nat × Node} (hentry : entry ∈ node.preorder depth) :
    IsExpression operators entry.2 := by
  have inside : ∀ {nodes : List Node} {depth : Nat},
      (∀ node ∈ nodes, ∀ {depth : Nat}, entry ∈ node.preorder depth →
        IsExpression operators entry.2) →
      entry ∈ preorderAll depth nodes → IsExpression operators entry.2 := by
    intro nodes depth hnodes hmem
    induction nodes with
    | nil => simp [preorderAll] at hmem
    | cons first rest ih =>
        rw [preorderAll, List.mem_append] at hmem
        rcases hmem with hmem | hmem
        · exact hnodes first List.mem_cons_self hmem
        · exact ih (fun node hnode => hnodes node (List.mem_cons_of_mem _ hnode)) hmem
  induction h generalizing depth with
  | identifier | string | number | boolean =>
      rw [preorder, List.mem_singleton] at hentry
      subst hentry
      constructor
  | call harguments ih =>
      rw [preorder, List.mem_cons] at hentry
      rcases hentry with rfl | hentry
      · exact .call harguments
      · exact inside (fun argument hargument => ih argument hargument) hentry
  | group hinner ih =>
      rw [preorder, List.mem_cons] at hentry
      rcases hentry with rfl | hentry
      · exact .group hinner
      · exact ih hentry
  | operator hsymbol hleft hright hloose htight ihleft ihright =>
      rw [preorder, List.mem_cons, List.mem_append] at hentry
      rcases hentry with rfl | hentry | hentry
      · exact .operator hsymbol hleft hright hloose htight
      · exact ihleft hentry
      · exact ihright hentry

/-- Below the top of a line there are expressions only. -/
theorem IsLine.of_mem_preorder {node : Node} (h : IsLine operators node) {depth : Nat}
    {entry : Nat × Node} (hentry : entry ∈ node.preorder depth) :
    entry = (depth, node) ∨ IsExpression operators entry.2 := by
  cases h with
  | expression h => exact .inr (h.of_mem_preorder hentry)
  | assignment hvalue =>
      rw [preorder, List.mem_cons, preorderAll, preorderAll, List.append_nil] at hentry
      exact hentry.imp_right hvalue.of_mem_preorder
  | declaration hvalue =>
      rw [preorder, List.mem_cons] at hentry
      exact hentry.imp_right hvalue.of_mem_preorder

/-- An operation at the right takes precedence over the operation it is in, and one at the left is
not preceded by it. -/
theorem IsExpression.respectsPrecedence {node : Node} (h : node.IsExpression operators) :
    node.RespectsPrecedence operators := by
  cases h with
  | @operator symbol level left right position hsymbol hleft hright hloose htight =>
      constructor
      · intro inner hinner
        cases hright with
        | operator hright' =>
            obtain rfl := Option.some_inj.1 hinner
            rw [OperatorTable.takesPrecedence_eq hright' hsymbol, decide_eq_true (htight _ hright')]
        | _ => cases hinner
      · intro inner hinner
        cases hleft with
        | operator hleft' =>
            obtain rfl := Option.some_inj.1 hinner
            rw [OperatorTable.takesPrecedence_eq hsymbol hleft',
              decide_eq_false (Fin.not_lt.2 (hloose _ hleft'))]
        | _ => cases hinner
  | _ => trivial

theorem IsLine.respectsPrecedence {node : Node} (h : node.IsLine operators) :
    node.RespectsPrecedence operators := by
  cases h with
  | expression h => exact h.respectsPrecedence
  | assignment | declaration => trivial

end Node

/-- A statement that holds one canonical line and stands where the line starts. -/
def Statement.IsCanonical (operators : OperatorTable) (statement : Statement) : Prop :=
  ∃ child, statement.children = [child] ∧ child.IsLine operators ∧
    statement.position = child.start

/-- A statement that holds one tree, in which every node respects precedence. Declarations and
assignments stand only at its top, and an assignment has one child. -/
def Statement.IsOrderly (operators : OperatorTable) (statement : Statement) : Prop :=
  ∃ child, statement.children = [child] ∧
    ∀ entry ∈ child.preorder 0,
      entry.2.RespectsPrecedence operators ∧
      (∀ target valueType value position,
        entry.2 = .declaration target valueType value position → entry = (0, child)) ∧
      (∀ target children position,
        entry.2 = .assignment target children position → entry = (0, child) ∧ children.length = 1)

theorem Statement.IsCanonical.isOrderly {operators : OperatorTable} {statement : Statement}
    (h : statement.IsCanonical operators) : statement.IsOrderly operators := by
  obtain ⟨child, hchildren, hline, -⟩ := h
  refine ⟨child, hchildren, fun entry hentry => ?_⟩
  rcases hline.of_mem_preorder hentry with rfl | hexpression
  · refine ⟨hline.respectsPrecedence, fun _ _ _ _ _ => rfl, ?_⟩
    intro target children position heq
    obtain rfl : child = .assignment target children position := heq
    cases hline with
    | expression h => cases h
    | assignment => exact ⟨rfl, rfl⟩
  · refine ⟨hexpression.respectsPrecedence, ?_, ?_⟩
    · intro target valueType value position heq
      rw [heq] at hexpression
      cases hexpression
    · intro target children position heq
      rw [heq] at hexpression
      cases hexpression

/-- A program of canonical statements. -/
def Program.IsCanonical (operators : OperatorTable) (program : Program) : Prop :=
  ∀ statement ∈ program.statements, statement.IsCanonical operators

theorem Program.isCanonical_concat {operators : OperatorTable} {earlier : List Statement}
    {last : Statement} :
    Program.IsCanonical operators ⟨earlier ++ [last]⟩ ↔
      Program.IsCanonical operators ⟨earlier⟩ ∧ last.IsCanonical operators := by
  simp [Program.IsCanonical, or_imp, forall_and]

/-- A program of orderly statements. -/
def Program.IsOrderly (operators : OperatorTable) (program : Program) : Prop :=
  ∀ statement ∈ program.statements, statement.IsOrderly operators

theorem Program.IsCanonical.isOrderly {operators : OperatorTable} {program : Program}
    (h : program.IsCanonical operators) : program.IsOrderly operators :=
  fun statement hstatement => (h statement hstatement).isOrderly

end Scriptlet
