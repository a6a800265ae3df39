/-
# Drafts are forests

The nodes of a draft lead down to their children and to the names in their fields. Whatever is done
with a draft, these ways down form a forest whose trees are the statements: no node has two parents,
none leads back to itself, and each is reached from exactly one statement. The open nodes are a way
down from the last statement, by last children.

That every node is reached goes by the trees that a draft keeps its nodes in. The rest follows from
the parents being unique: a node from which a way leads back to itself has all its ancestors on that
way, the statement among them, and a statement has no parent.
-/

import Mathlib.Data.List.Chain
import Mathlib.Logic.Relation
import Scriptlet.Proofs.Cells

namespace Scriptlet

open Branch Relation

namespace Draft

variable {draft : Draft} {statement other : Branch} {parent node : Nat}

/-! ## Ways down -/

mutual

/-- The nodes of a branch are reached from the one at the top. -/
theorem reaches_of_subset : (branch : Branch) → branch.cells ⊆ draft.cells →
    ∀ cell ∈ branch.cells, ReflTransGen draft.IsParent branch.serial cell.serial
  | ⟨serial, form, position, children⟩ => by
      intro hsubset cell hcell
      have hbelow : ∀ node ∈ (Branch.mk serial form position children).cell.below,
          draft.IsParent serial node := fun node hnode =>
        ⟨_, hsubset (cells_eq _ ▸ List.mem_cons_self), rfl, hnode⟩
      rw [cells_eq, lowerCells, List.cons_subset, List.append_subset] at hsubset
      rw [cells_eq, lowerCells, List.mem_cons, List.mem_append] at hcell
      rcases hcell with rfl | hslot | hcell
      · exact .refl
      · obtain ⟨slot, hfield, rfl⟩ := List.mem_map.1 hslot
        exact .single (hbelow _ (List.mem_append_right _ (List.mem_map_of_mem hfield)))
      · obtain ⟨child, hchild, hreaches⟩ := reachesAll_of_subset children hsubset.2.2 cell hcell
        exact .head (hbelow _ (List.mem_append_left _ (List.mem_map_of_mem hchild))) hreaches

theorem reachesAll_of_subset : (branches : List Branch) →
    (nodesAll branches).flatMap ownCells ⊆ draft.cells →
    ∀ cell ∈ (nodesAll branches).flatMap ownCells,
      ∃ child ∈ branches, ReflTransGen draft.IsParent child.serial cell.serial
  | [] => by simp [nodesAll]
  | branch :: rest => by
      intro hsubset cell hcell
      rw [nodesAll_cons, List.flatMap_append, List.append_subset] at hsubset
      rw [nodesAll_cons, List.flatMap_append, List.mem_append] at hcell
      rcases hcell with hcell | hcell
      · obtain ⟨child, hchild, hreaches⟩ := reachesAll_of_subset rest hsubset.1 cell hcell
        exact ⟨child, List.mem_cons_of_mem _ hchild, hreaches⟩
      · exact ⟨branch, List.mem_cons_self, reaches_of_subset branch hsubset.2 cell hcell⟩

end

/-- Every node is reached from a statement. -/
theorem exists_reaches {cell : Cell} (hcell : cell ∈ draft.cells) :
    ∃ statement ∈ draft.statements,
      ReflTransGen draft.IsParent statement.serial cell.serial := by
  obtain ⟨statement, hstatement, hmem⟩ := List.mem_flatMap.1 hcell
  refine ⟨statement, hstatement, reaches_of_subset statement ?_ cell hmem⟩
  exact fun _ hcell => List.mem_flatMap.2 ⟨statement, hstatement, hcell⟩

namespace IsForest

/-- Statements have serials of their own, and are below no other node. -/
theorem nodup_statements (h : draft.IsForest) :
    (draft.statements.map Branch.serial ++ draft.cells.flatMap Cell.below).Nodup :=
  draft.perm_serials.nodup_iff.1 h.serials

theorem not_isParent_statement (h : draft.IsForest) (hstatement : statement ∈ draft.statements) :
    ¬ draft.IsParent parent statement.serial := by
  rintro ⟨cell, hcell, -, hbelow⟩
  exact List.disjoint_of_nodup_append h.nodup_statements (List.mem_map_of_mem hstatement)
    (List.mem_flatMap.2 ⟨cell, hcell, hbelow⟩)

/-- A way back to a node passes through its parent, and so through all nodes that lead to it. -/
theorem transGen_of_reaches (h : draft.IsForest) {start : Nat}
    (hreaches : ReflTransGen draft.IsParent start node)
    (hcycle : TransGen draft.IsParent node node) : TransGen draft.IsParent start start := by
  induction hreaches with
  | refl => exact hcycle
  | tail _ hparent ih =>
      obtain ⟨last, hway, hlast⟩ := TransGen.tail'_iff.1 hcycle
      obtain rfl := h.eq_of_isParent hlast hparent
      exact ih (.head' hparent hway)

/-- No node leads back to itself. -/
theorem not_transGen (h : draft.IsForest) (node : Nat) : ¬ TransGen draft.IsParent node node := by
  intro hcycle
  obtain ⟨_, ⟨cell, hcell, rfl, -⟩, -⟩ := TransGen.head'_iff.1 hcycle
  obtain ⟨statement, hstatement, hreaches⟩ := exists_reaches hcell
  obtain ⟨parent, -, hparent⟩ :=
    TransGen.tail'_iff.1 (h.transGen_of_reaches hreaches hcycle)
  exact h.not_isParent_statement hstatement hparent

/-- A node is reached from one statement only. -/
theorem eq_of_reaches (h : draft.IsForest) (hstatement : statement ∈ draft.statements)
    (hother : other ∈ draft.statements)
    (hreaches : ReflTransGen draft.IsParent statement.serial node)
    (hreaches' : ReflTransGen draft.IsParent other.serial node) : statement = other := by
  have hunique : Relator.RightUnique (Function.swap draft.IsParent) := fun _ _ _ hone hother =>
    h.eq_of_isParent hone hother
  have hroot : ∀ {one other : Branch}, other ∈ draft.statements →
      ReflTransGen draft.IsParent one.serial other.serial → other.serial = one.serial := by
    intro one other hother hway
    rcases hway.cases_tail with heq | ⟨parent, -, hparent⟩
    · exact heq
    · exact absurd hparent (h.not_isParent_statement hother)
  refine List.inj_on_of_nodup_map h.nodup_statements.of_append_left hstatement hother ?_
  rcases ReflTransGen.total_of_right_unique hunique (reflTransGen_swap.2 hreaches)
    (reflTransGen_swap.2 hreaches') with hway | hway
  · exact hroot hstatement (reflTransGen_swap.1 hway)
  · exact (hroot hother (reflTransGen_swap.1 hway)).symm

end IsForest

/-! ## Whole drafts -/

/-- How the nodes of a draft hang together. -/
structure IsRooted (draft : Draft) : Prop where
  /-- The nodes are those that are met by following children and fields from the statements. -/
  imprints : draft.cells.map Cell.imprint = draft.imprints
  /-- No node comes twice, and none is below two others or twice below one. -/
  forest : draft.IsForest
  /-- No node leads back to itself. -/
  acyclic (node : Nat) : ¬ TransGen draft.IsParent node node
  /-- Each node is reached from exactly one statement. -/
  reached {cell} (hcell : cell ∈ draft.cells) :
    ∃! statement, statement ∈ draft.statements ∧
      ReflTransGen draft.IsParent statement.serial cell.serial
  /-- A node with an open field has no children. -/
  childless {cell} (hcell : cell ∈ draft.cells) (hfield : cell.form.hasOpenField = true) :
    cell.children = []
  /-- Each open node is the last child of the one outside of it. -/
  path : draft.opened.IsChain fun inner outer =>
    ∃ cell ∈ draft.cells, cell.imprint = outer ∧ cell.children.head? = some inner.serial
  /-- The outermost open node is the last statement, and no other open node is a statement. -/
  bottom : draft.opened = [] ∨ ∃ above bottom statement, draft.opened = above ++ [bottom] ∧
    bottom.form = .statement ∧ (∀ node ∈ above, node.form ≠ .statement) ∧
    draft.statements.getLast? = some statement ∧ statement.imprint = bottom

theorem isChain_opened (draft : Draft) : draft.opened.IsChain fun inner outer =>
    ∃ cell ∈ draft.cells, cell.imprint = outer ∧ cell.children.head? = some inner.serial := by
  rw [← map_imprint_openCells, List.isChain_map]
  refine (isChain_openCells draft.stack).imp_of_mem_imp fun inner outer _ houter hlast => ?_
  exact ⟨outer, draft.openCells_subset_cells houter, rfl, hlast⟩

namespace IsSound

theorem children_eq_nil (h : draft.IsSound) {cell : Cell} (hcell : cell ∈ draft.cells)
    (hfield : cell.form.hasOpenField = true) : cell.children = [] := by
  obtain ⟨statement, hstatement, hmem⟩ := List.mem_flatMap.1 hcell
  obtain ⟨top, htop, hown⟩ := List.mem_flatMap.1 hmem
  rcases List.mem_cons.1 hown with rfl | hslot
  · have hchildren := (h.statements hstatement).isSound top htop (.inr hfield)
    rw [Branch.cell, hchildren]
    rfl
  · obtain ⟨slot, -, rfl⟩ := List.mem_map.1 hslot
    rfl

theorem exists_bottom (h : draft.IsSound) :
    draft.opened = [] ∨ ∃ above bottom statement, draft.opened = above ++ [bottom] ∧
      bottom.form = .statement ∧ (∀ node ∈ above, node.form ≠ .statement) ∧
      draft.statements.getLast? = some statement ∧ statement.imprint = bottom := by
  rcases h.exists_spine with
    hnil | ⟨⟨above, bottom, hstack, hform, habove⟩, statement, hlast, hspine⟩
  · exact .inl (opened_eq_nil_iff.2 hnil)
  refine .inr ⟨above.map imprint, bottom.imprint, statement, ?_, ?_, ?_, hlast, ?_⟩
  · rw [opened, hstack, List.map_append]
    rfl
  · exact Form.bare_eq_statement_iff.2 hform
  · rintro _ hnode
    obtain ⟨node, hmem, rfl⟩ := List.mem_map.1 hnode
    exact fun hbare => habove node hmem (Form.bare_eq_statement_iff.1 hbare)
  · obtain ⟨below, hbelow⟩ := statement.exists_spine_eq
    rw [hstack, List.map_append, List.reverse_append, hbelow] at hspine
    exact (List.cons_prefix_cons.1 hspine).1.symm

end IsSound

/-- Whatever is done with a draft, its nodes hang together. -/
theorem isRooted_after (operators : OperatorTable) (calls : List Call) :
    ((empty operators).after calls).IsRooted := by
  have hforest := isForest_after operators calls
  have hsound := (isSound_empty operators).after calls
  generalize (empty operators).after calls = draft at hforest hsound ⊢
  constructor
  case imprints => exact draft.map_imprint_cells
  case forest => exact hforest
  case acyclic => exact hforest.not_transGen
  case reached =>
    intro cell hcell
    obtain ⟨statement, hstatement, hreaches⟩ := exists_reaches hcell
    refine ⟨statement, ⟨hstatement, hreaches⟩, ?_⟩
    rintro other ⟨hother, hreaches'⟩
    exact hforest.eq_of_reaches hother hstatement hreaches' hreaches
  case childless => exact hsound.children_eq_nil
  case path => exact draft.isChain_opened
  case bottom => exact hsound.exists_bottom

/-- Whatever is done with a draft, its statements are a forest that keeps every node: no node is met
twice by following children and fields; the node of a creation that succeeded is met in exactly one
statement, and that of a creation that failed in none; a node with an open field has no children;
and the open nodes are met one after the other by going from the last statement, which is the only
statement among them, to last children. By their serials the nodes hang together in the same
way. -/
theorem forest_after (operators : OperatorTable) (calls : List Call) :
    let draft := (empty operators).after calls
    (draft.imprints.map Imprint.serial).Nodup ∧
    (∀ before creation rest, calls = before ++ .create creation :: rest →
      let earlier := (empty operators).after before
      match creation.action earlier with
      | (.ok (), _) => ∃ lexeme form, earlier.current = some lexeme ∧
        creation.form earlier lexeme = .ok form ∧
        ∃! statement, statement ∈ draft.statements ∧
          ⟨earlier.created, form, lexeme.position⟩ ∈ statement.imprints
      | (.error _, left) => ∀ imprint ∈ draft.imprints,
        imprint.serial < earlier.created ∨ left.created ≤ imprint.serial) ∧
    (∀ statement ∈ draft.statements, statement.form = .statement ∧
      ∀ node ∈ statement.nodes, node.form.hasOpenField = true → node.children = []) ∧
    (draft.stack = [] ∨
      (∃ above bottom, draft.stack = above ++ [bottom] ∧ bottom.form = .statement ∧
        ∀ node ∈ above, node.form ≠ .statement) ∧
      ∃ statement, draft.statements.getLast? = some statement ∧
        (draft.stack.map Branch.imprint).reverse <+: statement.spine) ∧
    draft.IsRooted := by
  intro draft
  have hsound : draft.IsSound := (isSound_empty operators).after calls
  have hnodup := nodup_serials_after operators calls
  refine ⟨hnodup, ?_, ?_, hsound.exists_spine, isRooted_after operators calls⟩
  · rintro before creation rest rfl earlier
    have hdraft : (creation.action earlier).2.after rest = draft :=
      (after_append (empty operators) before (.create creation :: rest)).symm
    rcases haction : creation.action earlier with ⟨e | ⟨⟩, left⟩
    · rw [haction] at hdraft
      intro imprint hmem
      rw [← hdraft] at hmem
      exact serial_of_create_eq_error haction rest hmem
    · rw [haction] at hdraft
      have hearlier : earlier.IsSound := (isSound_empty operators).after before
      obtain ⟨lexeme, form, hcurrent, hform, hmem⟩ :=
        hearlier.mem_imprints_of_create_eq_ok haction rest
      rw [hdraft] at hmem
      exact ⟨lexeme, form, hcurrent, hform, existsUnique_statement hnodup hmem⟩
  · intro statement hstatement
    have hstacked := hsound.statements hstatement
    refine ⟨by cases hstacked; assumption, fun node hnode hfield => ?_⟩
    exact hstacked.isSound node hnode (.inr hfield)

end Draft

end Scriptlet
