/-
# The first incomplete node

Turning a draft into a program succeeds if and only if every node is complete. If some are not, one
of them decides the error: the first in the order in which nodes are built, children before their
parent and the earlier before the later, statement by statement. Which nodes are complete is told
from their form and the number of their children alone, without building anything.
-/

import Scriptlet.Proofs.Building

namespace Scriptlet

/-- A result that fails with the error that is given, or succeeds if none is given. -/
inductive Settles {ε α : Type} : Option ε → Except ε α → Prop
  | fails (e : ε) : Settles (some e) (.error e)
  | succeeds (value : α) : Settles none (.ok value)

namespace Settles

variable {ε α β : Type} {fault later : Option ε} {result : Except ε α}

/-- Of two computations in a row the first decides the error if it fails. -/
theorem bind {next : α → Except ε β} (h : Settles fault result)
    (hnext : ∀ value, result = .ok value → Settles later (next value)) :
    Settles (fault.or later) (result.bind next) := by
  cases h with
  | fails e => exact .fails e
  | succeeds value =>
      rw [Option.none_or]
      exact hnext value rfl

theorem map (h : Settles fault result) (f : α → β) : Settles fault (result.map f) := by
  cases h with
  | fails e => exact .fails e
  | succeeds value => exact .succeeds (f value)

/-- Of computations over a list the first that fails decides the error. -/
theorem mapM {γ : Type} {faultOf : γ → Option ε} {f : γ → Except ε α}
    (h : ∀ x, Settles (faultOf x) (f x)) (list : List γ) :
    Settles (list.findSome? faultOf) (list.mapM f) := by
  induction list with
  | nil => exact .succeeds []
  | cons x rest ih =>
      have hcons : (x :: rest).findSome? faultOf = (faultOf x).or (rest.findSome? faultOf) := by
        rw [List.findSome?_cons]
        cases faultOf x <;> rfl
      -- The rest counts only if the first succeeds.
      rw [hcons, List.mapM_cons]
      exact (h x).bind fun value _ => ih.map (value :: ·)

end Settles

namespace Branch

mutual

/-- All nodes of a branch in the order in which they are built: children before their parent. -/
def postorder : Branch → List Branch
  | ⟨serial, form, position, children⟩ =>
    postorderAll children ++ [⟨serial, form, position, children⟩]

/-- All nodes of branches that are kept latest first, in the order in which they are built. -/
def postorderAll : List Branch → List Branch
  | [] => []
  | branch :: rest => postorderAll rest ++ postorder branch

end

theorem postorderAll_cons (branch : Branch) (rest : List Branch) :
    postorderAll (branch :: rest) = postorderAll rest ++ branch.postorder := by
  rw [postorderAll]

/-- What is wrong with a node that is not complete, apart from the nodes below it. -/
def fault? (branch : Branch) : Option ParseError :=
  let incomplete (construct : String) : Option ParseError :=
    some (.malformedNode construct branch.position)
  match branch.form with
  | .statement => incomplete "statement"
  | .operator .. => if branch.children.length = 2 then none else incomplete "operator"
  | .declaration target valueType =>
    if branch.children.length = 1 ∧ target.isSome ∧ valueType.isSome then none
    else incomplete "declaration"
  | .assignment target =>
    if branch.children.length ≠ 0 ∧ target.isSome then none else incomplete "assignment"
  | .group => if branch.children.length = 1 then none else incomplete "group"
  | _ => none

/-- The number of the children and the fields decide whether a node can be built from them. -/
theorem settles_build (branch : Branch) {nodes : List Node}
    (hlength : nodes.length = branch.children.length) :
    Settles branch.fault? (branch.build nodes) := by
  unfold fault? build
  rw [← hlength]
  cases branch.form with
  | statement => exact .fails _
  | operator symbol level =>
      rcases nodes with - | ⟨left, - | ⟨right, - | ⟨more, rest⟩⟩⟩ <;>
        simp <;> constructor
  | declaration target valueType =>
      rcases nodes with - | ⟨value, - | ⟨more, rest⟩⟩ <;> cases target <;> cases valueType <;>
        simp <;> constructor
  | assignment target =>
      rcases nodes with - | ⟨value, rest⟩ <;> cases target <;> simp <;> constructor
  | group =>
      rcases nodes with - | ⟨inner, - | ⟨more, rest⟩⟩ <;> simp <;> constructor
  | _ => exact .succeeds _

mutual

/-- Of the nodes of a branch the first that is not complete decides the error. -/
theorem settles_toNode : ∀ branch : Branch,
    Settles (branch.postorder.findSome? fault?) branch.toNode
  | ⟨serial, form, position, children⟩ => by
      rw [postorder, List.findSome?_append, toNode_eq]
      have hself : [(⟨serial, form, position, children⟩ : Branch)].findSome? fault? =
          fault? ⟨serial, form, position, children⟩ := by
        rw [List.findSome?_singleton]
      rw [hself]
      exact (settles_toNodes children).bind fun nodes hnodes =>
        settles_build _ (length_of_toNodes hnodes)

/-- Of the nodes of branches the first that is not complete decides the error. -/
theorem settles_toNodes : ∀ branches : List Branch,
    Settles ((postorderAll branches).findSome? fault?) (toNodes branches)
  | [] => .succeeds []
  | branch :: rest => by
      rw [postorderAll_cons, List.findSome?_append, toNodes_cons]
      exact (settles_toNodes rest).bind fun earlier _ => (settles_toNode branch).map _

end

/-- The nodes of branches are built in the order in which the branches were put in. -/
theorem toNodes_eq_mapM (branches : List Branch) :
    toNodes branches = branches.reverse.mapM toNode := by
  induction branches with
  | nil => rfl
  | cons branch rest ih =>
      rw [toNodes_cons, ih, List.reverse_cons, List.mapM_append]
      cases rest.reverse.mapM toNode with
      | error e => rfl
      | ok earlier => cases hnode : branch.toNode <;> simp [hnode] <;> rfl

end Branch

/-- Turning a draft into a program converts each statement by recursion, every node after its
children and these in the order in which they were put in. If some node is not complete it fails
with the error of the first such node, children before their parent, in the first statement that
has one; and it succeeds otherwise. -/
theorem Draft.toProgram_by_recursion (draft : Draft) :
    (∀ branch : Branch, branch.toNode = do
      let children ← branch.children.reverse.mapM Branch.toNode
      branch.build children) ∧
    draft.toProgram = (do
      let statements ← draft.statements.mapM fun statement => do
        let children ← statement.children.reverse.mapM Branch.toNode
        return { children, position := statement.position }
      return ⟨statements⟩) ∧
    Settles (draft.statements.findSome? fun statement =>
      (Branch.postorderAll statement.children).findSome? Branch.fault?) draft.toProgram := by
  have hrecursion : draft.toProgram = (do
      let statements ← draft.statements.mapM fun statement => do
        let children ← statement.children.reverse.mapM Branch.toNode
        return { children, position := statement.position }
      return ⟨statements⟩) := by
    simp only [toProgram, buildAll_eq_toNodes, Branch.toNodes_eq_mapM]
  refine ⟨fun branch => ?_, hrecursion, ?_⟩
  · rw [Branch.toNode_eq, Branch.toNodes_eq_mapM]
    rfl
  · rw [hrecursion]
    have hstatement : ∀ statement : Branch,
        Settles ((Branch.postorderAll statement.children).findSome? Branch.fault?)
          (do
            let children ← statement.children.reverse.mapM Branch.toNode
            return { children, position := statement.position } :
            Except ParseError Statement) := by
      intro statement
      have hchildren := Branch.settles_toNodes statement.children
      rw [Branch.toNodes_eq_mapM] at hchildren
      exact hchildren.map fun children => (⟨children, statement.position⟩ : Statement)
    exact (Settles.mapM hstatement draft.statements).map Program.mk

end Scriptlet
