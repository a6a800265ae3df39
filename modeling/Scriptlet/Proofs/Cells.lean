/-
# Nodes by themselves

A draft keeps its nodes in trees, and what changes in one node changes every tree around it. Here a
node is taken by itself: what it is, and which nodes are right below it as its children or as names
in its fields. The nodes of a draft are those of its statements, the open one as if it were closed,
so closing changes none of them.

No node is below two others, or twice below one. So each node has at most one parent, and a node is
the same in two drafts just if both have it with the same fields and the same children.
-/

import Scriptlet.Proofs.Closers

namespace Scriptlet

open scoped List

/-- A node by itself. The children are kept latest first. -/
structure Cell where
  serial : Nat
  form : Form
  position : Position
  children : List Nat

namespace Cell

/-- What stays with the node. -/
def imprint (cell : Cell) : Imprint := ⟨cell.serial, cell.form.bare, cell.position⟩

/-- The nodes right below a node. -/
def below (cell : Cell) : List Nat := cell.children ++ cell.form.slots.map Slot.serial

end Cell

/-- The node that has become a name in a field. -/
def Slot.cell (slot : Slot) : Cell :=
  ⟨slot.serial, .identifier slot.identifier.name, slot.identifier.position, []⟩

namespace Branch

/-- The node at the top of a branch. -/
def cell (branch : Branch) : Cell :=
  ⟨branch.serial, branch.form, branch.position, branch.children.map serial⟩

/-- The nodes at the top of a branch and in its fields. -/
def ownCells (branch : Branch) : List Cell := branch.cell :: branch.form.slots.map Slot.cell

/-- All nodes of a branch. -/
def cells (branch : Branch) : List Cell := branch.nodes.flatMap ownCells

/-- All nodes of a branch but the one at the top. -/
def lowerCells (branch : Branch) : List Cell :=
  branch.form.slots.map Slot.cell ++ (nodesAll branch.children).flatMap ownCells

variable {branch parent child : Branch}

theorem cells_eq (branch : Branch) : branch.cells = branch.cell :: branch.lowerCells := by
  rw [cells, nodes_eq, List.flatMap_cons]
  rfl

theorem cells_of_children_eq_nil (h : branch.children = []) : branch.cells = branch.ownCells := by
  rw [cells_eq, lowerCells, h]
  exact congrArg (branch.cell :: ·) (List.append_nil _)

theorem cells_enclose (parent child : Branch) : (parent.enclose child).cells =
    (parent.enclose child).cell :: (parent.lowerCells ++ child.cells) := by
  rw [cells, nodes_enclose, List.flatMap_cons, List.flatMap_append, ownCells, List.cons_append,
    ← List.append_assoc]
  rfl

theorem map_imprint_cells (branch : Branch) :
    branch.cells.map Cell.imprint = branch.imprints := by
  rw [cells, imprints, List.map_flatMap]
  refine congrArg (List.flatMap · branch.nodes) (funext fun node => ?_)
  rw [ownCells, own, List.map_cons, List.map_map]
  rfl

/-- Below a name in a field there is nothing. -/
theorem below_of_slots (slots : List Slot) : (slots.map Slot.cell).flatMap Cell.below = [] := by
  rw [List.flatMap_map, List.flatMap_eq_nil_iff]
  exact fun _ _ => rfl

/-- If the nodes of the children are the children and what is right below them, the nodes of the
branch are the one at the top and what is right below one of them. -/
theorem perm_serials_of_children {branch : Branch}
    (h : ((nodesAll branch.children).flatMap ownCells).map Cell.serial ~
      branch.children.map serial ++
        ((nodesAll branch.children).flatMap ownCells).flatMap Cell.below) :
    branch.cells.map Cell.serial ~ branch.serial :: branch.cells.flatMap Cell.below := by
  have hslots : (branch.form.slots.map Slot.cell).map Cell.serial =
      branch.form.slots.map Slot.serial := by
    rw [List.map_map]
    rfl
  rw [cells_eq, lowerCells]
  simp only [List.map_cons, List.map_append, List.flatMap_cons, List.flatMap_append,
    below_of_slots, List.nil_append, hslots]
  refine .cons _ ((h.append_left _).trans ?_)
  rw [Cell.below, cell, List.append_assoc]
  exact List.perm_append_comm_assoc _ _ _

mutual

/-- Every node of a branch is right below one other, except for the one at the top. -/
theorem perm_serials : (branch : Branch) →
    branch.cells.map Cell.serial ~ branch.serial :: branch.cells.flatMap Cell.below
  | ⟨_, _, _, children⟩ => perm_serials_of_children (perm_serialsAll children)

theorem perm_serialsAll : (branches : List Branch) →
    ((nodesAll branches).flatMap ownCells).map Cell.serial ~
      branches.map serial ++ ((nodesAll branches).flatMap ownCells).flatMap Cell.below
  | [] => .refl _
  | branch :: rest => by
      have hrest := perm_serialsAll rest
      have hbranch := perm_serials branch
      rw [nodesAll_cons, List.flatMap_append, List.map_append, List.flatMap_append, List.map_cons,
        List.cons_append, ← List.append_assoc]
      exact (hrest.append hbranch).trans List.perm_middle

end

end Branch

/-! ## Stacks -/

open Branch

/-- The nodes that stand around an open node. -/
def cellsAround (inner : Nat) : List Branch → List Cell
  | [] => []
  | parent :: outer =>
    { parent.cell with children := inner :: parent.children.map serial } ::
      (parent.lowerCells ++ cellsAround parent.serial outer)

/-- The nodes of a stack, each open node with the one that is open inside. -/
def stackCells : List Branch → List Cell
  | [] => []
  | node :: outer => node.cells ++ cellsAround node.serial outer

/-- The nodes of a stack are those that it has once it is closed up. -/
theorem perm_cells_closeUp (stack : List Branch) :
    (Draft.closeUp stack).toList.flatMap cells ~ stackCells stack := by
  rcases stack with - | ⟨node, outer⟩
  · exact .refl _
  · induction outer generalizing node with
    | nil => exact .refl _
    | cons parent outer ih =>
        have hclosed : (parent.enclose node).cells ++ cellsAround parent.serial outer ~
            stackCells (node :: parent :: outer) := by
          rw [cells_enclose, stackCells, cellsAround, List.cons_append, List.append_assoc]
          exact ((List.perm_append_comm_assoc _ _ _).cons _).trans List.perm_middle.symm
        exact (ih (parent.enclose node)).trans hclosed

theorem Closes.perm_stackCells {first second : List Branch} (h : Closes first second) :
    stackCells first ~ stackCells second := by
  have hsecond := perm_cells_closeUp second
  rw [h.closeUp_eq] at hsecond
  exact (perm_cells_closeUp first).symm.trans hsecond

/-! ## Open nodes -/

/-- The nodes that are open around a node, each with the one that is open inside as its latest
child. -/
def openAround (inner : Nat) : List Branch → List Cell
  | [] => []
  | parent :: outer =>
    { parent.cell with children := inner :: parent.children.map Branch.serial } ::
      openAround parent.serial outer

/-- The open nodes of a stack by themselves. -/
def openCells : List Branch → List Cell
  | [] => []
  | node :: outer => node.cell :: openAround node.serial outer

/-- What does not depend on the children of a node is told by the stack. -/
theorem map_openCells {α : Type} {f : Cell → α}
    (hf : ∀ (cell : Cell) (children : List Nat), f { cell with children := children } = f cell)
    (stack : List Branch) : (openCells stack).map f = stack.map fun node => f node.cell := by
  have haround : ∀ (inner : Nat) (outer : List Branch),
      (openAround inner outer).map f = outer.map fun node => f node.cell := by
    intro inner outer
    induction outer generalizing inner with
    | nil => rfl
    | cons parent outer ih =>
        rw [openAround, List.map_cons, List.map_cons, hf, ih parent.serial]
  cases stack with
  | nil => rfl
  | cons node outer => rw [openCells, List.map_cons, List.map_cons, haround]

theorem map_imprint_openCells (stack : List Branch) :
    (openCells stack).map Cell.imprint = stack.map Branch.imprint :=
  map_openCells (fun _ _ => rfl) stack

/-- Each open node is the last child of the one outside of it. -/
theorem isChain_openCells (stack : List Branch) : (openCells stack).IsChain fun inner outer =>
    outer.children.head? = some inner.serial := by
  have haround : ∀ (cell : Cell) (outer : List Branch),
      (cell :: openAround cell.serial outer).IsChain fun inner outer =>
        outer.children.head? = some inner.serial := by
    intro cell outer
    induction outer generalizing cell with
    | nil => exact .singleton _
    | cons parent outer ih => exact .cons_cons rfl (ih _)
  cases stack with
  | nil => exact .nil
  | cons node outer => exact haround node.cell outer

theorem openAround_subset (inner : Nat) (outer : List Branch) :
    openAround inner outer ⊆ cellsAround inner outer := by
  induction outer generalizing inner with
  | nil => exact List.nil_subset _
  | cons parent outer ih =>
      apply List.cons_subset_cons
      exact List.subset_append_of_subset_right _ (ih parent.serial)

/-! ## Drafts -/

namespace Draft

/-- The nodes of a draft. -/
def cells (draft : Draft) : List Cell := draft.statements.flatMap Branch.cells

/-- Whether a node is right below another. -/
def IsParent (draft : Draft) (parent node : Nat) : Prop :=
  ∃ cell ∈ draft.cells, cell.serial = parent ∧ node ∈ cell.below

/-- No node comes twice, by itself or below another, and all have been created. -/
structure IsForest (draft : Draft) : Prop where
  serials : (draft.cells.map Cell.serial).Nodup
  below : (draft.cells.flatMap Cell.below).Nodup
  created : ∀ cell ∈ draft.cells, cell.serial < draft.created

theorem perm_cells (draft : Draft) :
    draft.cells ~ draft.closed.flatMap Branch.cells ++ stackCells draft.stack := by
  rw [cells, statements, List.flatMap_append]
  exact ((List.reverse_perm _).flatMap_right _).append (perm_cells_closeUp _)

/-- The open nodes by themselves are the open nodes. -/
theorem map_imprint_openCells (draft : Draft) :
    (openCells draft.stack).map Cell.imprint = draft.opened :=
  Scriptlet.map_imprint_openCells draft.stack

/-- The open nodes are nodes of the draft. -/
theorem openCells_subset_cells (draft : Draft) : openCells draft.stack ⊆ draft.cells := by
  have hstack : openCells draft.stack ⊆ stackCells draft.stack := by
    cases draft.stack with
    | nil => exact List.nil_subset _
    | cons node outer =>
        rw [openCells, stackCells, Branch.cells_eq, List.cons_append]
        apply List.cons_subset_cons
        exact List.subset_append_of_subset_right _ (openAround_subset _ _)
  intro cell hcell
  rw [draft.perm_cells.mem_iff]
  exact List.mem_append_right _ (hstack hcell)

theorem cells_eq_of_statements_eq {draft left : Draft}
    (h : left.statements = draft.statements) : left.cells = draft.cells := by
  rw [cells, h, cells]

variable {draft : Draft} {cell other : Cell} {parent node : Nat}

/-- The nodes of a draft are told apart by their serials. -/
theorem IsForest.eq_of_serial_eq (h : draft.IsForest) (hcell : cell ∈ draft.cells)
    (hother : other ∈ draft.cells) (hserial : cell.serial = other.serial) : cell = other :=
  List.inj_on_of_nodup_map h.serials hcell hother hserial

/-- A node is below one other at most. -/
theorem IsForest.eq_of_below (h : draft.IsForest) (hcell : cell ∈ draft.cells)
    (hother : other ∈ draft.cells) (hnode : node ∈ cell.below) (hnode' : node ∈ other.below) :
    cell = other := by
  have hapart := (List.nodup_flatMap.1 h.below).2
  have hsymm : Std.Symm (Function.onFun List.Disjoint Cell.below) :=
    ⟨fun _ _ hdisjoint _ hone hother => hdisjoint hother hone⟩
  by_contra hne
  exact hapart.forall hcell hother hne hnode hnode'

theorem IsForest.isParent_iff (h : draft.IsForest) (hcell : cell ∈ draft.cells)
    (hnode : node ∈ cell.below) : draft.IsParent parent node ↔ parent = cell.serial := by
  constructor
  · rintro ⟨other, hother, rfl, hnode'⟩
    rw [h.eq_of_below hcell hother hnode hnode']
  · rintro rfl
    exact ⟨cell, hcell, rfl, hnode⟩

/-- A node has one parent at most. -/
theorem IsForest.eq_of_isParent (h : draft.IsForest) {outer : Nat}
    (hparent : draft.IsParent parent node) (houter : draft.IsParent outer node) :
    parent = outer := by
  obtain ⟨cell, hcell, rfl, hnode⟩ := hparent
  exact ((h.isParent_iff hcell hnode).1 houter).symm

/-- The nodes are those that are met by following children and fields. -/
theorem map_imprint_cells (draft : Draft) : draft.cells.map Cell.imprint = draft.imprints := by
  rw [cells, imprints, List.map_flatMap]
  exact congrArg (List.flatMap · draft.statements) (funext Branch.map_imprint_cells)

theorem map_serial_cells (draft : Draft) :
    draft.cells.map Cell.serial = draft.imprints.map Imprint.serial := by
  rw [← map_imprint_cells, List.map_map]
  rfl

/-- Every node is a statement or right below another node. -/
theorem perm_serials (draft : Draft) :
    draft.cells.map Cell.serial ~
      draft.statements.map Branch.serial ++ draft.cells.flatMap Cell.below := by
  rw [cells]
  induction draft.statements with
  | nil => exact .refl _
  | cons statement rest ih =>
      rw [List.flatMap_cons, List.map_append, List.flatMap_append, List.map_cons, List.cons_append]
      refine (statement.perm_serials.append ih).trans ?_
      rw [List.cons_append]
      exact (List.perm_append_comm_assoc _ _ _).cons _

/-- Whatever is done with a draft, its nodes are a forest. -/
theorem isForest_after (operators : OperatorTable) (calls : List Call) :
    ((empty operators).after calls).IsForest := by
  have hserials := nodup_serials_after operators calls
  obtain ⟨gained, hgained⟩ := (isSound_empty operators).exists_gains_after calls
  generalize (empty operators).after calls = draft at hserials hgained ⊢
  rw [← map_serial_cells] at hserials
  constructor
  case serials => exact hserials
  case below => exact (draft.perm_serials.nodup_iff.1 hserials).of_append_right
  case created =>
    intro cell hcell
    have hserial : cell.serial ∈ draft.imprints.map Imprint.serial := by
      rw [← map_serial_cells]
      exact List.mem_map_of_mem hcell
    obtain ⟨imprint, himprint, hserial⟩ := List.mem_map.1 hserial
    rw [← hserial]
    exact (hgained.fresh imprint (hgained.imprints.mem_iff.1 himprint)).2

end Draft

end Scriptlet
