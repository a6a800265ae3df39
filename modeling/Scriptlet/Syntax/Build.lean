/-
# From drafts to programs

A draft is turned into a program at any point, as if all that is open were closed. Every node has
to be complete: an operator needs two operands, a declaration its two names and a value, an
assignment its name and a value, and a group one node inside. The nodes are built bottom up from
a list of tasks, children before their parent and the earlier before the later, so the first
incomplete node in that order decides the error.
-/

import Scriptlet.Syntax.Draft

namespace Scriptlet

namespace Branch

mutual

/-- The number of nodes of a branch. -/
def size : Branch → Nat
  | ⟨_, _, _, children⟩ => 1 + sizeAll children

/-- The number of nodes of all branches in a list. -/
def sizeAll : List Branch → Nat
  | [] => 0
  | branch :: rest => size branch + sizeAll rest

end

/-- The node of a branch whose children have been built, in order. -/
def build (branch : Branch) (children : List Node) : Except ParseError Node :=
  let incomplete (construct : String) : Except ParseError Node :=
    .error (.malformedNode construct branch.position)
  match branch.form with
  | .statement => incomplete "statement"
  | .identifier name => .ok (.identifier ⟨name, branch.position⟩)
  | .string value => .ok (.string value branch.position)
  | .number value => .ok (.number value branch.position)
  | .boolean value => .ok (.boolean value branch.position)
  | .call name => .ok (.call ⟨name, branch.position⟩ children branch.position)
  | .operator symbol _ =>
    match children with
    | [left, right] => .ok (.operator symbol left right branch.position)
    | _ => incomplete "operator"
  | .declaration identifier valueType =>
    match children, identifier, valueType with
    | [value], some identifier, some valueType =>
      .ok (.declaration identifier.identifier valueType.identifier value branch.position)
    | _, _, _ => incomplete "declaration"
  | .assignment identifier =>
    match children, identifier with
    | _ :: _, some identifier =>
      .ok (.assignment identifier.identifier children branch.position)
    | _, _ => incomplete "assignment"
  | .group =>
    match children with
    | [inner] => .ok (.group inner branch.position)
    | _ => incomplete "group"

end Branch

/-- What is still to be done to build nodes bottom up. -/
inductive BuildTask
  /-- Build a branch with all that is below it. -/
  | all (branch : Branch)
  /-- Build a branch whose children have been built. -/
  | top (branch : Branch)

namespace BuildTask

/-- Bounds the number of steps that a task takes. -/
def weight : BuildTask → Nat
  | all branch => 2 * branch.size
  | top _ => 1

/-- Bounds the number of steps that a list of tasks takes. -/
def weightAll : List BuildTask → Nat
  | [] => 0
  | task :: tasks => task.weight + weightAll tasks

/-- The tasks for branches that are kept latest first, before other tasks. -/
def schedule (branches : List Branch) (tasks : List BuildTask) : List BuildTask :=
  branches.foldl (fun tasks branch => all branch :: tasks) tasks

theorem weightAll_schedule (branches : List Branch) (tasks : List BuildTask) :
    weightAll (schedule branches tasks) = 2 * Branch.sizeAll branches + weightAll tasks := by
  induction branches generalizing tasks with
  | nil => simp [schedule, Branch.sizeAll]
  | cons branch rest ih =>
    have step : schedule (branch :: rest) tasks = schedule rest (all branch :: tasks) := rfl
    rw [step, ih]
    simp only [weightAll, weight, Branch.sizeAll]
    omega

theorem size_eq (branch : Branch) : branch.size = 1 + Branch.sizeAll branch.children := by
  cases branch
  rfl

/-- Works tasks off. The nodes built so far are kept latest first; a branch finds its children at
the front. -/
def run : List BuildTask → List Node → Except ParseError (List Node)
  | [], built => .ok built
  | all branch :: tasks, built => run (schedule branch.children (top branch :: tasks)) built
  | top branch :: tasks, built =>
    let count := branch.children.length
    match branch.build (built.take count).reverse with
    | .error e => .error e
    | .ok node => run tasks (node :: built.drop count)
termination_by tasks => weightAll tasks
decreasing_by
  · rw [weightAll_schedule]
    simp only [weightAll, weight, size_eq branch]
    omega
  · simp [weightAll, weight]

end BuildTask

/-- Builds branches that are kept latest first; the nodes come in order. -/
def buildAll (branches : List Branch) : Except ParseError (List Node) :=
  (BuildTask.run (BuildTask.schedule branches []) []).map List.reverse

namespace Draft

/-- Closes a stack up to one branch. -/
def closeUp : List Branch → Option Branch
  | [] => none
  | node :: outer => some (outer.foldl (fun inner parent => parent.enclose inner) node)

/-- The statements of a draft in order, the one that is open as if it were closed. -/
def statements (draft : Draft) : List Branch :=
  draft.closed.reverse ++ (closeUp draft.stack).toList

/-- The program that a draft stands for, if every node is complete. -/
def toProgram (draft : Draft) : Except ParseError Program := do
  let statements ← draft.statements.mapM fun branch => do
    return { children := ← buildAll branch.children, position := branch.position }
  return ⟨statements⟩

end Draft

end Scriptlet
