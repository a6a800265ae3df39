/-
# Building by recursion

Drafts are turned into programs from a list of tasks. This module gives the same by recursion on
the branch, children before their parent and the earlier before the later, and proves that working
off the tasks comes to nothing else: the same node, or the same first error. What is said about the
node of a branch is then said by recursion on the branch.
-/

import Mathlib.Data.List.Forall2
import Scriptlet.Syntax.Build

namespace Scriptlet

namespace Branch

mutual

/-- The node of a branch, built after the nodes of its children. -/
def toNode : Branch → Except ParseError Node
  | ⟨serial, form, position, children⟩ => do
    let nodes ← toNodes children
    build ⟨serial, form, position, children⟩ nodes

/-- The nodes of branches that are kept latest first, in order. -/
def toNodes : List Branch → Except ParseError (List Node)
  | [] => .ok []
  | branch :: rest => do
    let earlier ← toNodes rest
    let node ← toNode branch
    return earlier ++ [node]

end

@[simp]
theorem toNodes_nil : toNodes [] = .ok [] := rfl

theorem toNodes_cons (branch : Branch) (rest : List Branch) :
    toNodes (branch :: rest) =
      (toNodes rest).bind fun earlier => (toNode branch).map fun node => earlier ++ [node] := by
  rw [toNodes]
  cases toNodes rest with
  | error e => rfl
  | ok earlier => cases toNode branch <;> rfl

theorem toNode_eq (branch : Branch) :
    branch.toNode = (toNodes branch.children).bind branch.build := by
  obtain ⟨serial, form, position, children⟩ := branch
  rw [toNode]
  rfl

theorem toNode_of_toNodes {branch : Branch} {nodes : List Node}
    (h : toNodes branch.children = .ok nodes) : branch.toNode = branch.build nodes := by
  rw [toNode_eq, h]
  rfl

theorem toNodes_cons_of_ok {branch : Branch} {rest : List Branch} {node : Node}
    {earlier : List Node} (hrest : toNodes rest = .ok earlier) (hnode : branch.toNode = .ok node) :
    toNodes (branch :: rest) = .ok (earlier ++ [node]) := by
  rw [toNodes_cons, hrest, hnode]
  rfl

theorem length_of_toNodes {branches : List Branch} {nodes : List Node}
    (h : toNodes branches = .ok nodes) : nodes.length = branches.length := by
  induction branches generalizing nodes with
  | nil =>
      cases h
      rfl
  | cons branch rest ih =>
      rw [toNodes_cons] at h
      cases hrest : toNodes rest with
      | error e =>
          rw [hrest] at h
          contradiction
      | ok earlier =>
          rw [hrest] at h
          cases hnode : toNode branch with
          | error e =>
              rw [hnode] at h
              contradiction
          | ok node =>
              rw [hnode] at h
              cases h
              simp [ih hrest]

end Branch

namespace BuildTask

open Branch

/-- Building a branch whose children lie in front takes them off and puts its node there. -/
theorem run_top (branch : Branch) (tasks : List BuildTask) {nodes : List Node}
    (hlength : nodes.length = branch.children.length) (built : List Node) :
    run (.top branch :: tasks) (nodes.reverse ++ built) =
      (branch.build nodes).bind fun node => run tasks (node :: built) := by
  have htake : (nodes.reverse ++ built).take branch.children.length = nodes.reverse := by
    rw [← hlength, ← List.length_reverse, List.take_left]
  have hdrop : (nodes.reverse ++ built).drop branch.children.length = built := by
    rw [← hlength, ← List.length_reverse, List.drop_left]
  rw [run, htake, hdrop, List.reverse_reverse]
  cases branch.build nodes <;> rfl

mutual

/-- Working off a branch puts its node in front of those built so far. -/
theorem run_all : ∀ (branch : Branch) (tasks : List BuildTask) (built : List Node),
    run (.all branch :: tasks) built =
      branch.toNode.bind fun node => run tasks (node :: built)
  | ⟨serial, form, position, children⟩, tasks, built => by
      rw [run, run_schedule children, toNode_eq]
      cases hnodes : toNodes children with
      | error e => rfl
      | ok nodes => exact run_top _ tasks (length_of_toNodes hnodes) built

/-- Working off branches puts their nodes in front of those built so far, the latest first. -/
theorem run_schedule : ∀ (branches : List Branch) (tasks : List BuildTask) (built : List Node),
    run (schedule branches tasks) built =
      (toNodes branches).bind fun nodes => run tasks (nodes.reverse ++ built)
  | [], tasks, built => by
      simp [schedule, Except.bind]
  | branch :: rest, tasks, built => by
      have hschedule : schedule (branch :: rest) tasks = schedule rest (.all branch :: tasks) := rfl
      rw [hschedule, run_schedule rest, toNodes_cons]
      cases toNodes rest with
      | error e => rfl
      | ok earlier =>
          show run (.all branch :: tasks) (earlier.reverse ++ built) = _
          rw [run_all branch]
          cases branch.toNode with
          | error e => rfl
          | ok node => simp [Except.bind, Except.map]

end

end BuildTask

/-- Working off the tasks of branches builds what recursion builds. -/
theorem buildAll_eq_toNodes (branches : List Branch) :
    buildAll branches = Branch.toNodes branches := by
  rw [buildAll, BuildTask.run_schedule]
  cases Branch.toNodes branches with
  | error e => rfl
  | ok nodes => simp [Except.bind, Except.map, BuildTask.run]

namespace Branch

/-- A branch that stands for a statement of a program. -/
structure Represents (branch : Branch) (statement : Statement) : Prop where
  children : toNodes branch.children = .ok statement.children
  position : branch.position = statement.position

theorem Represents.build {branch : Branch} {statement : Statement}
    (h : branch.Represents statement) :
    (do return { children := ← buildAll branch.children, position := branch.position } :
      Except ParseError Statement) = .ok statement := by
  rw [buildAll_eq_toNodes, h.children, h.position]
  rfl

end Branch

/-- A draft without open nodes stands for the statements that its branches stand for. -/
theorem Draft.toProgram_of_represents {draft : Draft} {statements : List Statement}
    (hstack : draft.stack = [])
    (h : List.Forall₂ Branch.Represents draft.closed.reverse statements) :
    draft.toProgram = .ok ⟨statements⟩ := by
  have hmap : ∀ {branches : List Branch} {statements : List Statement},
      List.Forall₂ Branch.Represents branches statements →
      branches.mapM (fun branch => do
        return { children := ← buildAll branch.children, position := branch.position }) =
        Except.ok (ε := ParseError) statements := by
    intro branches statements h
    induction h with
    | nil => rfl
    | cons hfirst _ ih =>
        rw [List.mapM_cons, hfirst.build, ih]
        rfl
  have hstatements : draft.statements = draft.closed.reverse := by
    simp [Draft.statements, hstack, Draft.closeUp]
  rw [Draft.toProgram, hstatements, hmap h]
  rfl

end Scriptlet
