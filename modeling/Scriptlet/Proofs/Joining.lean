/-
# How drafts advance

Each operation of the grammar is one of the ways for a draft to advance. Closing lets all nodes be.
A node that takes nothing over is put in at the innermost open node, whatever has been done with the
draft before. An operator or an assignment passes outward over open nodes; if these are operators
only, it advances the draft too.
-/

import Scriptlet.Proofs.Advances

namespace Scriptlet

open scoped List

namespace Branch

variable {parent child grown : Branch}

theorem cells_of_toSlot? (hsound : child.IsSound) {slot : Slot} (h : child.toSlot? = some slot) :
    child.cells = [slot.cell] ∧ slot.serial = child.serial := by
  obtain ⟨serial, form, position, children⟩ := child
  cases form with
  | identifier name =>
      cases h
      rw [cells_of_children_eq_nil ((isSound_iff.1 hsound).1 (.inl rfl)), ownCells, cell,
        (isSound_iff.1 hsound).1 (.inl rfl)]
      exact ⟨rfl, rfl⟩
  | _ => cases h

/-- A new node has nothing below it. -/
theorem lowerCells_of_new (hchildren : parent.children = [])
    (hform : parent.form.bare = parent.form) :
    parent.lowerCells = [] := by
  rw [lowerCells, ← hform, Form.slots_bare, hchildren]
  rfl

/-- A node that takes a child in has the nodes of both. -/
theorem Takes.perm_cells (h : parent.Takes child grown) (hchild : child.IsSound) :
    grown.cells ~ grown.cell :: (parent.lowerCells ++ child.cells) := by
  cases h with
  | child => rw [cells_enclose]
  | @slot slot form _ hslot _ hslots =>
      rw [(cells_of_toSlot? hchild hslot).1, cells_eq]
      refine .cons _ (((hslots.map Slot.cell).append_right _).trans ?_)
      rw [List.map_cons, List.cons_append]
      exact (List.perm_append_singleton _ _).symm

theorem Takes.serial_eq (h : parent.Takes child grown) : grown.serial = parent.serial := by
  cases h <;> rfl

theorem Takes.imprint_eq (h : parent.Takes child grown) : grown.imprint = parent.imprint := by
  cases h with
  | child => rfl
  | slot _ _ hbare => rw [imprint, imprint, hbare]

theorem Takes.receives (h : parent.Takes child grown) (hchild : child.IsSound) :
    parent.cell.Receives child.cell grown.cell := by
  cases h with
  | child => exact .child
  | slot _ hslot hbare hslots =>
      refine .slot hbare ?_
      have hserial := hslots.map Slot.serial
      rwa [List.map_cons, (cells_of_toSlot? hchild hslot).2] at hserial

end Branch

open Branch

/-- Only operators and assignments take anything over. -/
theorem Creation.level?_of_form {creation : Creation} {draft : Draft} {lexeme : Lexeme}
    {form : Form}
    (hform : creation.form draft lexeme = .ok form) (hoperator : creation ≠ .operator)
    (hassignment : creation ≠ .assignment) :
    form.level? = none ∧ ∀ slot, form ≠ .assignment slot := by
  cases creation with
  | operator | assignment => contradiction
  | identifier | number =>
      simp only [Creation.form] at hform
      split at hform <;> cases hform <;> exact ⟨rfl, by simp⟩
  | _ =>
      cases hform
      exact ⟨rfl, by simp⟩

theorem perm_middle_two {α : Type} (front rest : List α) (first second : α) :
    front ++ first :: second :: rest ~ first :: second :: (front ++ rest) :=
  List.perm_middle.trans (List.perm_middle.cons _)

namespace Draft

variable {draft left : Draft} {parent : Branch} {outer : List Branch} {position : Position}
  {lexeme : Lexeme}

/-! ## Closing -/

theorem IsSound.advances_close (h : draft.IsSound) (closer : Closer) (hcloser : closer ≠ .node) :
    draft.Advances (closer.action draft).2 := by
  have hshuts := shuts_closer closer draft
  obtain ⟨passed, hopened, hpassed⟩ := h.exists_passed hcloser
  exact .rests hshuts.statements_eq (Nat.le_of_eq hshuts.created_eq.symm) hopened hpassed

/-! ## Putting a node in -/

/-- A draft in which a node has found its place. -/
theorem perm_cells_seated (draft : Draft) (position : Position) (stack : List Branch) :
    let left := { openStatement position { draft with created := draft.created + 1 } with
      stack := stack }
    left.cells ~ draft.closed.flatMap Branch.cells ++ stackCells stack ∧
      left.current = draft.current ∧ draft.created < left.created := by
  obtain ⟨operators, current, lookahead, created, closed, - | ⟨top, outer⟩⟩ := draft
  · exact ⟨Draft.perm_cells _, rfl, Nat.lt_add_of_pos_right Nat.two_pos⟩
  · exact ⟨Draft.perm_cells _, rfl, Nat.lt_succ_self _⟩

/-- The innermost open node, or the statement that is opened for a new node. -/
theorem finds_of_ground (hground : draft.ground position = parent :: outer) :
    draft.Finds parent.cell
      (draft.closed.flatMap Branch.cells ++ (parent.lowerCells ++ cellsAround parent.serial outer))
      (outer.map Branch.imprint) := by
  cases hstack : draft.stack with
  | nil =>
      rw [ground_of_nil hstack] at hground
      cases hground
      refine .statement (opened_eq_nil_iff.2 hstack) rfl rfl (Nat.lt_succ_self _) ?_
      have hcells := draft.perm_cells
      rwa [hstack] at hcells
  | cons top rest =>
      rw [ground_of_cons hstack] at hground
      cases hground
      refine .innermost (by rw [opened, hstack]; rfl) ?_
      have hcells := draft.perm_cells
      rw [hstack, stackCells, cells_eq, List.cons_append] at hcells
      exact hcells.trans List.perm_middle

/-- A new node is taken in by the node that it finds, and is open itself unless it is a leaf. -/
theorem advances_hang {new grown : Branch} (hground : draft.ground position = parent :: outer)
    (hserial : new.serial = draft.created) (hchildren : new.children = [])
    (hform : new.form.bare = new.form) (htakes : parent.Takes new grown) :
    draft.Advances { openStatement position { draft with created := draft.created + 1 } with
      stack := if new.form.isLeaf then grown :: outer else new :: parent :: outer } := by
  have hsound : new.IsSound := isSound_of_children_eq_nil hchildren
  have hnew : new.cells = [new.cell] := by
    rw [cells_eq, lowerCells_of_new hchildren hform]
  have hfinds := finds_of_ground hground
  generalize hrest : parent.lowerCells ++ cellsAround parent.serial outer = rest at hfinds
  cases hleaf : new.form.isLeaf with
  | true =>
      obtain ⟨hcells, -, hcreated⟩ := draft.perm_cells_seated position (grown :: outer)
      have hgrown : stackCells (grown :: outer) ~ grown.cell :: new.cell :: rest := by
        rw [stackCells, htakes.serial_eq, ← hrest, ← List.cons_append]
        refine ((htakes.perm_cells hsound).append_right _).trans (.cons _ ?_)
        rw [hnew]
        exact (List.perm_append_singleton _ _).append_right _
      rw [if_pos rfl]
      refine .joins hfinds (htakes.receives hsound) ?_ hserial hcreated (.inl ?_)
      · exact hcells.trans ((hgrown.append_left _).trans (perm_middle_two _ _ _ _))
      · exact congrArg (· :: outer.map imprint) htakes.imprint_eq
  | false =>
      obtain ⟨hcells, -, hcreated⟩ := draft.perm_cells_seated position (new :: parent :: outer)
      rw [if_neg Bool.false_ne_true]
      have hreceives : parent.cell.Receives new.cell _ := .child
      refine .joins hfinds hreceives (hcells.trans ?_) hserial hcreated (.inr ⟨rfl, rfl⟩)
      rw [stackCells, hnew, cellsAround, hrest]
      exact (List.Perm.swap _ _ _).append_left _ |>.trans (perm_middle_two _ _ _ _)

/-- An operator or an assignment that has passed over operators takes a node over. -/
theorem IsSound.advances_takeOver (h : draft.IsSound) {new last grown : Branch}
    {passed : List Imprint} (hcurrent : draft.current = some lexeme)
    (hcloses : Closes draft.stack (parent.enclose last :: outer))
    (hopened : draft.opened = passed ++ (parent :: outer).map Branch.imprint)
    (hpassed : ∀ node ∈ passed, node.form.isBracket = false)
    (holder : parent.form.level? ≠ none → parent.children ≠ [])
    (hserial : new.serial = draft.created) (hchildren : new.children = [])
    (hform : new.form.bare = new.form) (htakes : new.Takes last grown)
    (htaken : grown.cell.TakesOver lexeme last.serial) :
    draft.Advances { openStatement position { draft with created := draft.created + 1 } with
      stack := grown :: parent :: outer } := by
  have hstacked : Stacked draft.stack := h.stack.resolve_left fun hnil => by
    rw [hnil] at hcloses
    cases hcloses
  obtain ⟨-, hlast, -⟩ := (hcloses.stacked hstacked).of_enclose
  obtain ⟨hcells, hleft, hcreated⟩ := draft.perm_cells_seated position (grown :: parent :: outer)
  have hgrown : grown.cells ~ grown.cell :: last.cells := by
    have htaken := htakes.perm_cells hlast
    rwa [lowerCells_of_new hchildren hform, List.nil_append] at htaken
  generalize hrest : parent.lowerCells ++ (last.cells ++ cellsAround parent.serial outer) = rest
  have hbefore : stackCells draft.stack ~ (parent.enclose last).cell :: rest := by
    refine hcloses.perm_stackCells.trans (.of_eq ?_)
    rw [stackCells, cells_enclose, List.cons_append, List.append_assoc, ← hrest]
    rfl
  have hafter : stackCells (grown :: parent :: outer) ~
      { parent.cell with children := grown.serial :: parent.children.map serial } ::
        grown.cell :: rest := by
    rw [stackCells, cellsAround, ← hrest]
    refine (hgrown.append_right _).trans ?_
    rw [List.cons_append]
    refine (List.perm_middle.cons _).trans ((List.Perm.swap _ _ _).trans (.cons _ (.cons _ ?_)))
    exact List.perm_append_comm_assoc _ _ _
  refine .takesOver (hleft.trans hcurrent) htaken hopened hpassed
    (draft.perm_cells.trans ((hbefore.append_left _).trans List.perm_middle)) rfl ?_
    (hcells.trans ((hafter.append_left _).trans (perm_middle_two _ _ _ _)))
    (htakes.serial_eq.trans hserial) hcreated rfl
  exact fun hlevel hnil => holder hlevel (List.map_eq_nil_iff.1 hnil)

/-! ## The operations of the grammar -/

/-- A creation that fails lets all nodes be. -/
theorem advances_of_created {created : Nat} (hcreated : draft.created ≤ created) :
    draft.Advances { draft with created := created } :=
  .rests rfl hcreated (List.nil_append _).symm (by simp)

theorem place_eq_hang {new : Branch}
    (hnone : takeOver? new.form none (openStatement new.position draft).stack = none) :
    place new draft = hang new (openStatement new.position draft) := by
  rw [place, regroup?, hnone]
  split <;> rfl

/-- Creating anything but an operator or an assignment advances a draft. -/
theorem IsSound.advances_create (h : draft.IsSound) (creation : Creation)
    (hoperator : creation ≠ .operator) (hassignment : creation ≠ .assignment) :
    draft.Advances (creation.action draft).2 := by
  rcases h.create_cases creation with
    ⟨e, created, -, hcreated, hdenied⟩ | ⟨lexeme, form, stack, hcreates, hcreated⟩
  · rw [hdenied]
    exact advances_of_created hcreated
  · obtain ⟨parent, outer, hground⟩ :=
      List.exists_cons_of_ne_nil (h.stacked_ground lexeme.position).ne_nil
    have hform := Creation.level?_of_form hcreates.chooses hoperator hassignment
    have hhang : creation.action draft = hang ⟨draft.created, form, lexeme.position, []⟩
        (openStatement lexeme.position { draft with created := draft.created + 1 }) := by
      rw [creation.action_eq, create_eq_place hcreates.current hcreates.chooses]
      exact place_eq_hang (takeOver?_eq_none hform.1 hform.2 _)
    rcases hang_cases hground ⟨draft.created, form, lexeme.position, []⟩ with
      ⟨-, -, hdenied⟩ | ⟨grown, htakes, hplaced⟩
    · cases hcreated.symm.trans (hhang.trans hdenied)
    · rw [hhang, hplaced]
      exact advances_hang hground rfl rfl (Creation.of_form hcreates.chooses).2 htakes

end Draft

end Scriptlet
