/-
# Stacks of open nodes

A draft can be worked on in any order: lexemes are fed, nodes are created and closed, and a failure
ends nothing. Whatever is done, the open nodes stand on a statement, the only one among them, and a
node with a field that is still open has no children. So a node that has something open inside takes
any child. This is kept by every operation, since each of them only closes open nodes into the ones
around them, moves the last child of an open node, or puts a new node in.
-/

import Scriptlet.Proofs.Growth

namespace Scriptlet

namespace Form

/-- Whether a name is still to be put into a field. -/
def hasOpenField : Form → Bool
  | declaration none _ | declaration _ none | assignment none => true
  | _ => false

/-- The names in the fields of a node. -/
def slots : Form → List Slot
  | declaration target valueType => target.toList ++ valueType.toList
  | assignment target => target.toList
  | _ => []

/-- What a node was created as, before names were put into its fields. -/
def bare : Form → Form
  | declaration .. => declaration none none
  | assignment _ => assignment none
  | form => form

@[simp]
theorem isLeaf_bare (form : Form) : form.bare.isLeaf = form.isLeaf := by
  cases form <;> rfl

@[simp]
theorem slots_bare (form : Form) : form.bare.slots = [] := by
  cases form <;> rfl

@[simp]
theorem bare_eq_statement_iff {form : Form} : form.bare = statement ↔ form = statement := by
  cases form <;> simp [bare]

end Form

namespace Branch

mutual

/-- All nodes of a branch, each before those below it, and the earlier before the later. -/
def nodes : Branch → List Branch
  | ⟨serial, form, position, children⟩ => ⟨serial, form, position, children⟩ :: nodesAll children

/-- All nodes of branches that are kept latest first. -/
def nodesAll : List Branch → List Branch
  | [] => []
  | branch :: rest => nodesAll rest ++ nodes branch

end

@[simp]
theorem nodesAll_nil : nodesAll [] = [] := rfl

theorem nodesAll_cons (branch : Branch) (rest : List Branch) :
    nodesAll (branch :: rest) = nodesAll rest ++ branch.nodes := by
  rw [nodesAll]

theorem nodes_eq (branch : Branch) : branch.nodes = branch :: nodesAll branch.children := by
  obtain ⟨serial, form, position, children⟩ := branch
  rw [nodes]

theorem nodes_enclose (parent child : Branch) :
    (parent.enclose child).nodes =
      parent.enclose child :: (nodesAll parent.children ++ child.nodes) := by
  rw [nodes_eq, enclose, nodesAll_cons]

/-- Whether a node has children only if it may have some. -/
def Fits (branch : Branch) : Prop :=
  branch.form.isLeaf = true ∨ branch.form.hasOpenField = true → branch.children = []

/-- Whether every node of a branch fits. -/
def IsSound (branch : Branch) : Prop :=
  ∀ node ∈ branch.nodes, node.Fits

theorem isSound_iff {branch : Branch} :
    branch.IsSound ↔ branch.Fits ∧ ∀ node ∈ nodesAll branch.children, node.Fits := by
  rw [IsSound, nodes_eq, List.forall_mem_cons]

/-- A new node fits. -/
theorem isSound_of_children_eq_nil {branch : Branch} (h : branch.children = []) :
    branch.IsSound := by
  rw [isSound_iff, h]
  exact ⟨fun _ => h, by simp⟩

/-- A node that may have children may take one more. -/
theorem IsSound.enclose {parent child : Branch} (hparent : parent.IsSound) (hchild : child.IsSound)
    (hleaf : parent.form.isLeaf = false) (hfield : parent.form.hasOpenField = false) :
    (parent.enclose child).IsSound := by
  rw [isSound_iff] at hparent ⊢
  refine ⟨fun h => ?_, fun node hnode => ?_⟩
  · simp [Branch.enclose, hleaf, hfield] at h
  · rw [Branch.enclose, nodesAll_cons, List.mem_append] at hnode
    exact hnode.elim (hparent.2 node) (hchild node)

/-- What a node with children gives away leaves it and the rest of them as they were. -/
theorem IsSound.of_enclose {parent child : Branch} (h : (parent.enclose child).IsSound) :
    parent.IsSound ∧ child.IsSound ∧ parent.form.hasOpenField = false := by
  rw [isSound_iff, Branch.enclose, nodesAll_cons] at h
  obtain ⟨hfits, hbelow⟩ := h
  have hform : ¬ (parent.form.isLeaf = true ∨ parent.form.hasOpenField = true) :=
    fun hform => List.cons_ne_nil _ _ (hfits hform)
  refine ⟨isSound_iff.2 ⟨fun hparent => absurd hparent hform, fun node hnode => ?_⟩,
    fun node hnode => ?_, ?_⟩
  · exact hbelow node (List.mem_append_left _ hnode)
  · exact hbelow node (List.mem_append_right _ hnode)
  · simpa using fun hfield => hform (.inr hfield)

/-! ## Taking children in -/

theorem takesAll_of_not_hasOpenField {parent : Branch} (h : parent.form.hasOpenField = false) :
    parent.TakesAll := by
  intro child
  obtain ⟨serial, form, position, children⟩ := parent
  cases form with
  | declaration identifier valueType =>
      cases identifier <;> cases valueType <;> simp_all [Form.hasOpenField, attach?]
  | assignment identifier => cases identifier <;> simp_all [Form.hasOpenField, attach?]
  | _ => rfl

/-- What comes of a child that is taken in: a name in an open field, or one more child. -/
inductive Takes (parent child : Branch) : Branch → Prop
  | slot {slot form} (hfield : parent.form.hasOpenField = true) (hslot : child.toSlot? = some slot)
      (hbare : form.bare = parent.form.bare)
      (hslots : form.slots.Perm (slot :: parent.form.slots)) :
      Takes parent child { parent with form := form }
  | child (hfield : parent.form.hasOpenField = false) : Takes parent child (parent.enclose child)

theorem takes_of_attach? {parent child grown : Branch} (h : parent.attach? child = some grown) :
    Takes parent child grown := by
  cases hfield : parent.form.hasOpenField with
  | false =>
      rw [takesAll_of_not_hasOpenField hfield, Option.some_inj] at h
      exact h ▸ .child hfield
  | true =>
      obtain ⟨serial, form, position, children⟩ := parent
      cases form with
      | declaration identifier valueType =>
          cases identifier with
          | none =>
              obtain ⟨slot, hslot, rfl⟩ := Option.map_eq_some_iff.1 h
              exact .slot hfield hslot rfl (.refl _)
          | some identifier =>
              cases valueType with
              | none =>
                  obtain ⟨slot, hslot, rfl⟩ := Option.map_eq_some_iff.1 h
                  exact .slot hfield hslot rfl (.swap _ _ _)
              | some => cases hfield
      | assignment identifier =>
          cases identifier with
          | none =>
              obtain ⟨slot, hslot, rfl⟩ := Option.map_eq_some_iff.1 h
              exact .slot hfield hslot rfl (.refl _)
          | some => cases hfield
      | _ => cases hfield

/-- A name is a leaf, and only a name fits into a field. -/
theorem toSlot?_eq_none {branch : Branch} (h : branch.form.isLeaf = false) :
    branch.toSlot? = none := by
  cases hform : branch.form <;> simp_all [toSlot?, Form.isLeaf]

/-- Only an open field turns a child down, and only one that is no name. -/
theorem attach?_eq_none_iff {parent child : Branch} :
    parent.attach? child = none ↔ parent.form.hasOpenField = true ∧ child.toSlot? = none := by
  cases hfield : parent.form.hasOpenField with
  | false => simp [takesAll_of_not_hasOpenField hfield child]
  | true =>
      obtain ⟨serial, form, position, children⟩ := parent
      cases form with
      | declaration identifier valueType =>
          cases identifier <;> cases valueType <;> simp_all [Form.hasOpenField, attach?]
      | assignment identifier => cases identifier <;> simp_all [Form.hasOpenField, attach?]
      | _ => cases hfield

theorem Takes.bare {parent child grown : Branch} (h : Takes parent child grown) :
    grown.form.bare = parent.form.bare := by
  cases h with
  | slot _ _ hbare _ => exact hbare
  | child => rfl

theorem Takes.isSound {parent child grown : Branch} (h : Takes parent child grown)
    (hparent : parent.IsSound) (hchild : child.IsSound) (hleaf : parent.form.isLeaf = false) :
    grown.IsSound := by
  cases h with
  | slot hfield _ _ _ => exact isSound_of_children_eq_nil ((isSound_iff.1 hparent).1 (.inr hfield))
  | child hfield => exact hparent.enclose hchild hleaf hfield

/-- A node that is no name is taken in as one more child. -/
theorem Takes.hasOpenField_eq_false {parent child grown : Branch} (h : Takes parent child grown)
    (hslot : child.toSlot? = none) : parent.form.hasOpenField = false := by
  cases h with
  | slot _ hsome => cases hslot.symm.trans hsome
  | child hfield => exact hfield

end Branch

/-! ## Stacks -/

open Branch

/-- Open nodes, innermost first, that stand on a statement. What has something open inside has no
open field. -/
inductive Stacked : List Branch → Prop
  | ground {statement} (hform : statement.form = .statement) (hsound : statement.IsSound) :
      Stacked [statement]
  | push {node parent outer} (houter : Stacked (parent :: outer))
      (hparent : parent.form.hasOpenField = false) (hleaf : node.form.isLeaf = false)
      (hform : node.form ≠ .statement) (hsound : node.IsSound) :
      Stacked (node :: parent :: outer)

namespace Stacked

variable {node parent child : Branch} {outer stack : List Branch}

theorem ne_nil (h : Stacked stack) : stack ≠ [] := by
  cases h <;> exact List.cons_ne_nil _ _

theorem isSound (h : Stacked (node :: outer)) : node.IsSound := by
  cases h <;> assumption

theorem isLeaf_eq_false (h : Stacked (node :: outer)) : node.form.isLeaf = false := by
  cases h with
  | ground hform => rw [hform]; rfl
  | push _ _ hleaf => exact hleaf

/-- The innermost node may become any sound node that was created as the same. -/
theorem replace (h : Stacked (node :: outer)) {other : Branch}
    (hbare : other.form.bare = node.form.bare) (hsound : other.IsSound) :
    Stacked (other :: outer) := by
  cases h with
  | ground hform =>
      refine .ground (Form.bare_eq_statement_iff.1 ?_) hsound
      rw [hbare, hform]
      rfl
  | push houter hparent hleaf hform =>
      refine .push houter hparent ?_ ?_ hsound
      · rwa [← Form.isLeaf_bare, hbare, Form.isLeaf_bare]
      · rwa [ne_eq, ← Form.bare_eq_statement_iff, hbare, Form.bare_eq_statement_iff]

/-- The innermost node may be closed. -/
theorem close (h : Stacked (node :: parent :: outer)) : Stacked (parent.enclose node :: outer) := by
  obtain - | ⟨houter, hparent, -, -, hsound⟩ := h
  exact houter.replace rfl (houter.isSound.enclose hsound houter.isLeaf_eq_false hparent)

/-- The last child may be taken away from the innermost node. -/
theorem of_enclose (h : Stacked (parent.enclose child :: outer)) :
    Stacked (parent :: outer) ∧ child.IsSound ∧ parent.form.hasOpenField = false := by
  obtain ⟨hparent, hchild, hfield⟩ := h.isSound.of_enclose
  exact ⟨h.replace rfl hparent, hchild, hfield⟩

end Stacked

/-- Closing open nodes into the ones around them, innermost first. -/
inductive Closes : List Branch → List Branch → Prop
  | refl {stack} : Closes stack stack
  | close {node parent outer stack} (h : Closes (parent.enclose node :: outer) stack) :
      Closes (node :: parent :: outer) stack

theorem Closes.trans {first second third : List Branch} (hfirst : Closes first second)
    (hsecond : Closes second third) : Closes first third := by
  induction hfirst with
  | refl => exact hsecond
  | close _ ih => exact .close (ih hsecond)

theorem Closes.stacked {first second : List Branch} (h : Closes first second)
    (hfirst : Stacked first) : Stacked second := by
  induction h with
  | refl => exact hfirst
  | close _ ih => exact ih hfirst.close

/-- What is closed up does not depend on which nodes have been closed. -/
theorem Closes.closeUp_eq {first second : List Branch} (h : Closes first second) :
    Draft.closeUp second = Draft.closeUp first := by
  induction h with
  | refl => rfl
  | close _ ih => exact ih

/-- What a new node takes over is the last child of an open node, once the nodes inside it are
closed. The induction goes outward along the stack. -/
theorem exists_closes_of_takeOver? {new : Form} {stack left : List Branch} {last : Branch}
    (h : takeOver? new none stack = some (last, left)) :
    ∃ parent outer, left = parent :: outer ∧ Closes stack (parent.enclose last :: outer) := by
  rcases stack with - | ⟨node, outer⟩
  · cases h
  · induction outer generalizing node with
    | nil =>
        obtain ⟨serial, form, position, - | ⟨child, older⟩⟩ := node
        · cases h
        · simp only [takeOver?] at h
          split at h <;> cases h
          exact ⟨_, _, rfl, .refl⟩
    | cons parent outer ih =>
        obtain ⟨serial, form, position, - | ⟨child, older⟩⟩ := node
        · cases h
        · simp only [takeOver?.eq_def new none] at h
          split at h
          · cases h
            exact ⟨_, _, rfl, .refl⟩
          · rw [← takeOver?_enclose] at h
            obtain ⟨found, rest, hleft, hcloses⟩ := ih _ h
            exact ⟨found, rest, hleft, .close hcloses⟩
          · cases h

/-- Every stack can be closed down to its statement. -/
theorem Stacked.exists_closes {stack : List Branch} (h : Stacked stack) :
    ∃ statement, Closes stack [statement] ∧ Draft.closeUp stack = some statement := by
  rcases stack with - | ⟨node, outer⟩
  · cases h
  · induction outer generalizing node with
    | nil => exact ⟨node, .refl, rfl⟩
    | cons parent outer ih =>
        obtain ⟨statement, hcloses, hup⟩ := ih _ h.close
        exact ⟨statement, .close hcloses, hup⟩

/-! ## Putting a node in -/

namespace Draft

/-- What comes of a new node and a stack when the node takes over what it may: nothing, or the last
child of an open node once the nodes inside it are closed. -/
inductive Regroups (new : Branch) (stack : List Branch) : Branch → List Branch → Prop
  | stays : Regroups new stack new stack
  | takes {parent last grown outer} (hcloses : Closes stack (parent.enclose last :: outer))
      (htakes : new.Takes last grown) : Regroups new stack grown (parent :: outer)

theorem regroups_of_regroup? {new grown : Branch} {stack left : List Branch}
    (h : regroup? new stack = some (grown, left)) : Regroups new stack grown left := by
  rw [regroup?] at h
  split at h
  · cases h
    exact .stays
  · next htake =>
      obtain ⟨grown, hgrown, heq⟩ := Option.map_eq_some_iff.1 h
      cases heq
      obtain ⟨parent, outer, rfl, hcloses⟩ := exists_closes_of_takeOver? htake
      exact .takes hcloses (takes_of_attach? hgrown)

/-- The stack that a new node leaves: the node is taken in by the innermost open node, or is open
itself and may have taken something over. -/
inductive Places (new : Branch) : List Branch → List Branch → Prop
  | leaf {parent grown outer} (hleaf : new.form.isLeaf = true) (htakes : parent.Takes new grown) :
      Places new (parent :: outer) (grown :: outer)
  | opened {ground grown parent outer} (hleaf : new.form.isLeaf = false)
      (hregroups : Regroups new ground grown (parent :: outer))
      (hparent : parent.form.hasOpenField = false) : Places new ground (grown :: parent :: outer)

variable {new grown : Branch} {ground stack : List Branch}

theorem Regroups.bare (h : Regroups new ground grown stack) :
    grown.form.bare = new.form.bare := by
  cases h with
  | stays => rfl
  | takes _ htakes => exact htakes.bare

theorem Regroups.stacked (h : Regroups new ground grown stack) (hground : Stacked ground)
    (hnew : new.IsSound) (hleaf : new.form.isLeaf = false) : Stacked stack ∧ grown.IsSound := by
  cases h with
  | stays => exact ⟨hground, hnew⟩
  | takes hcloses htakes =>
      obtain ⟨hstack, hlast, -⟩ := (hcloses.stacked hground).of_enclose
      exact ⟨hstack, htakes.isSound hnew hlast hleaf⟩

theorem Places.stacked (h : Places new ground stack) (hground : Stacked ground)
    (hnew : new.IsSound) (hform : new.form ≠ .statement) : Stacked stack := by
  cases h with
  | leaf hleaf htakes =>
      exact hground.replace htakes.bare
        (htakes.isSound hground.isSound hnew hground.isLeaf_eq_false)
  | opened hleaf hregroups hparent =>
      obtain ⟨hstack, hgrown⟩ := hregroups.stacked hground hnew hleaf
      refine .push hstack hparent ?_ ?_ hgrown
      · rwa [← Form.isLeaf_bare, hregroups.bare, Form.isLeaf_bare]
      · rwa [ne_eq, ← Form.bare_eq_statement_iff, hregroups.bare, Form.bare_eq_statement_iff]

/-- Putting a node below the innermost open node fails in one case only, and changes nothing then:
that node has an open field, and the new node is no name. -/
theorem hang_cases {draft : Draft} {parent : Branch} {outer : List Branch}
    (hstack : draft.stack = parent :: outer) (new : Branch) :
    (parent.form.hasOpenField = true ∧ new.toSlot? = none ∧
      hang new draft = (.error draft.unexpected, draft)) ∨
    ∃ grown, parent.Takes new grown ∧ hang new draft = (.ok (),
      { draft with stack :=
          if new.form.isLeaf then grown :: outer else new :: parent :: outer }) := by
  cases hattach : parent.attach? new with
  | none =>
      obtain ⟨hfield, hslot⟩ := attach?_eq_none_iff.1 hattach
      refine .inl ⟨hfield, hslot, ?_⟩
      simp only [hang, hstack, hattach]
  | some grown =>
      refine .inr ⟨grown, takes_of_attach? hattach, ?_⟩
      simp only [hang, hstack, hattach]
      split <;> rfl

end Draft

end Scriptlet
