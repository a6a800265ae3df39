/-
# What becomes of nodes

Nodes are created one after the other, and their serials tell them apart. A node is moved about
while a draft grows: it becomes a child of another node, or a name in a field. Its serial, what it
was created as and where it stands stay with it. This module keeps account of these for all nodes of
the statements. Every creation that succeeds puts its node in, once, with the statement that is
opened for it if there was none; nothing else puts a node in, and no node is lost.
-/

import Mathlib.Data.List.Nodup
import Mathlib.Data.List.Pairwise
import Scriptlet.Proofs.Operations

namespace Scriptlet

/-- What stays with a node whatever becomes of it: its serial, what it was created as, and where. -/
structure Imprint where
  serial : Nat
  form : Form
  position : Position
  deriving DecidableEq

/-- The imprint of a node that has become a name in a field. -/
def Slot.imprint (slot : Slot) : Imprint :=
  ⟨slot.serial, .identifier slot.identifier.name, slot.identifier.position⟩

namespace Branch

/-- The imprint of a node. -/
def imprint (branch : Branch) : Imprint := ⟨branch.serial, branch.form.bare, branch.position⟩

/-- The imprints of a node and of the names in its fields. -/
def own (branch : Branch) : List Imprint :=
  branch.imprint :: branch.form.slots.map Slot.imprint

/-- The imprints that are met by following children and fields from a node. -/
def imprints (branch : Branch) : List Imprint := branch.nodes.flatMap own

/-- The imprints that are met by going from a node to its last child, again and again. -/
def spine : Branch → List Imprint
  | ⟨serial, form, position, []⟩ => [⟨serial, form.bare, position⟩]
  | ⟨serial, form, position, last :: _⟩ => ⟨serial, form.bare, position⟩ :: spine last

theorem imprints_eq (branch : Branch) :
    branch.imprints = branch.own ++ (nodesAll branch.children).flatMap own := by
  rw [imprints, nodes_eq, List.flatMap_cons]

@[simp]
theorem imprints_enclose (parent child : Branch) :
    (parent.enclose child).imprints = parent.imprints ++ child.imprints := by
  rw [imprints, nodes_enclose, List.flatMap_cons, List.flatMap_append, ← List.append_assoc,
    imprints_eq parent]
  rfl

theorem imprints_of_children_eq_nil {branch : Branch} (h : branch.children = []) :
    branch.imprints = branch.own := by
  rw [imprints_eq, h]
  exact List.append_nil _

theorem spine_enclose (parent child : Branch) :
    (parent.enclose child).spine = parent.imprint :: child.spine := by
  rw [enclose, spine]
  rfl

theorem exists_spine_eq (branch : Branch) : ∃ below, branch.spine = branch.imprint :: below := by
  obtain ⟨serial, form, position, - | ⟨last, older⟩⟩ := branch
  · exact ⟨_, rfl⟩
  · exact ⟨_, rfl⟩

theorem imprints_of_toSlot? {branch : Branch} (hsound : branch.IsSound) {slot : Slot}
    (h : branch.toSlot? = some slot) : branch.imprints = [slot.imprint] := by
  obtain ⟨serial, form, position, children⟩ := branch
  cases form with
  | identifier name =>
      cases h
      rw [imprints_of_children_eq_nil ((isSound_iff.1 hsound).1 (.inl rfl))]
      rfl
  | _ => cases h

/-- A node that takes a child in has the imprints of both. -/
theorem Takes.perm_imprints {parent child grown : Branch} (h : parent.Takes child grown)
    (hchild : child.IsSound) : grown.imprints.Perm (parent.imprints ++ child.imprints) := by
  cases h with
  | child => rw [imprints_enclose]
  | @slot slot form _ hslot hbare hslots =>
      have hown : (own { parent with form := form }).Perm (slot.imprint :: parent.own) := by
        rw [own, own, imprint, imprint, hbare]
        exact ((hslots.map Slot.imprint).cons _).trans (.swap _ _ _)
      rw [imprints_of_toSlot? hchild hslot, imprints_eq, imprints_eq]
      exact (hown.append_right _).trans (List.perm_append_singleton _ _).symm

end Branch

open Branch
open scoped List

/-! ## Stacks -/

theorem Closes.perm_imprints {first second : List Branch} (h : Closes first second) :
    (second.flatMap imprints).Perm (first.flatMap imprints) := by
  induction h with
  | refl => exact .refl _
  | @close node parent outer stack _ ih =>
      refine ih.trans ?_
      rw [List.flatMap_cons, List.flatMap_cons, List.flatMap_cons, imprints_enclose,
        ← List.append_assoc]
      exact List.perm_append_comm.append_right _

namespace Draft

/-- Closing up loses no node. -/
theorem perm_closeUp (stack : List Branch) :
    ((closeUp stack).toList.flatMap imprints).Perm (stack.flatMap imprints) := by
  rcases stack with - | ⟨node, outer⟩
  · exact .refl _
  · induction outer generalizing node with
    | nil => exact .refl _
    | cons parent outer ih =>
        exact (ih (parent.enclose node)).trans (Closes.close .refl).perm_imprints

variable {new grown : Branch} {ground stack : List Branch}

theorem Regroups.perm_imprints (h : Regroups new ground grown stack) (hground : Stacked ground) :
    (grown.imprints ++ stack.flatMap imprints).Perm (new.imprints ++ ground.flatMap imprints) := by
  cases h with
  | stays => exact .refl _
  | @takes parent last _ outer hcloses htakes =>
      obtain ⟨-, hlast, -⟩ := (hcloses.stacked hground).of_enclose
      have hgrown := htakes.perm_imprints hlast
      have hstack := hcloses.perm_imprints
      rw [List.flatMap_cons, imprints_enclose, List.append_assoc] at hstack
      rw [List.flatMap_cons]
      calc grown.imprints ++ (parent.imprints ++ outer.flatMap imprints)
        _ ~ new.imprints ++ (last.imprints ++ (parent.imprints ++ outer.flatMap imprints)) := by
            rw [← List.append_assoc new.imprints]
            exact hgrown.append_right _
        _ ~ new.imprints ++ (parent.imprints ++ (last.imprints ++ outer.flatMap imprints)) :=
            (List.perm_append_comm_assoc _ _ _).append_left _
        _ ~ new.imprints ++ ground.flatMap imprints := hstack.append_left _

/-- Putting a node in adds its imprint and no other. -/
theorem Places.perm_imprints (h : Places new ground stack) (hground : Stacked ground)
    (hnew : new.IsSound) :
    (stack.flatMap imprints).Perm (new.imprints ++ ground.flatMap imprints) := by
  cases h with
  | @leaf parent grown outer hleaf htakes =>
      rw [List.flatMap_cons, List.flatMap_cons, ← List.append_assoc]
      exact ((htakes.perm_imprints hnew).trans List.perm_append_comm).append_right _
  | opened hleaf hregroups hparent =>
      rw [List.flatMap_cons]
      exact hregroups.perm_imprints hground

/-! ## The account -/

/-- The imprints that are met by following children and fields from the statements. -/
def imprints (draft : Draft) : List Imprint := draft.statements.flatMap Branch.imprints

variable {draft left : Draft}

theorem perm_imprints (draft : Draft) : draft.imprints.Perm
    (draft.closed.flatMap Branch.imprints ++ draft.stack.flatMap Branch.imprints) := by
  rw [imprints, statements, List.flatMap_append]
  exact ((List.reverse_perm _).flatMap_right _).append (perm_closeUp _)

/-- One draft has come from another, and some nodes have been put in meanwhile, with serials of
their own. -/
structure Gains (draft left : Draft) (gained : List Imprint) : Prop where
  imprints : left.imprints.Perm (draft.imprints ++ gained)
  created : draft.created ≤ left.created
  fresh : ∀ imprint ∈ gained, draft.created ≤ imprint.serial ∧ imprint.serial < left.created
  nodup : (gained.map Imprint.serial).Nodup

theorem gains_nil (hstatements : left.statements = draft.statements)
    (hcreated : draft.created ≤ left.created) : Gains draft left [] := by
  refine ⟨?_, hcreated, by simp, List.nodup_nil⟩
  rw [imprints, hstatements, List.append_nil]
  exact .refl _

theorem Gains.trans {first second third : Draft} {earlier later : List Imprint}
    (hfirst : Gains first second earlier) (hsecond : Gains second third later) :
    Gains first third (earlier ++ later) := by
  constructor
  case imprints =>
    rw [← List.append_assoc]
    exact hsecond.imprints.trans (hfirst.imprints.append_right _)
  case created => exact Nat.le_trans hfirst.created hsecond.created
  case fresh =>
    intro imprint hmem
    rcases List.mem_append.1 hmem with h | h
    · have hfresh := hfirst.fresh imprint h
      exact ⟨hfresh.1, Nat.lt_of_lt_of_le hfresh.2 hsecond.created⟩
    · have hfresh := hsecond.fresh imprint h
      exact ⟨Nat.le_trans hfirst.created hfresh.1, hfresh.2⟩
  case nodup =>
    rw [List.map_append]
    -- The count between the two is above the earlier serials and not above the later ones.
    refine hfirst.nodup.append hsecond.nodup ?_
    intro serial hearlier hlater
    obtain ⟨one, hone, rfl⟩ := List.mem_map.1 hearlier
    obtain ⟨other, hother, heq⟩ := List.mem_map.1 hlater
    have hlt := (hfirst.fresh one hone).2
    have hle := (hsecond.fresh other hother).1
    omega

/-- The statement that a node opens for itself if there is none. -/
def opening (draft : Draft) (position : Position) : List Imprint :=
  match draft.stack with
  | [] => [⟨draft.created + 1, .statement, position⟩]
  | _ :: _ => []

theorem flatMap_ground (draft : Draft) (position : Position) :
    (draft.ground position).flatMap Branch.imprints =
      draft.stack.flatMap Branch.imprints ++ draft.opening position := by
  cases hstack : draft.stack with
  | nil =>
      rw [ground_of_nil hstack, opening, hstack]
      rfl
  | cons top outer => rw [ground_of_cons hstack, opening, hstack, List.append_nil]

/-- A new node and the statement that it opens have the next serials. -/
theorem serials_opening (draft : Draft) (form : Form) (position : Position) :
    let gained := ⟨draft.created, form, position⟩ :: draft.opening position
    gained.map Imprint.serial = List.range' draft.created gained.length ∧
    openStatement position { draft with created := draft.created + 1 } =
      { draft with
        created := draft.created + gained.length
        stack := draft.ground position } := by
  intro gained
  obtain ⟨operators, current, lookahead, created, closed, - | ⟨top, outer⟩⟩ := draft <;>
    exact ⟨rfl, rfl⟩

/-- A creation that succeeds puts its node in, and the statement that it opens. -/
theorem IsSound.gains_create (h : draft.IsSound) {creation : Creation} {lexeme : Lexeme}
    {form : Form} (hcreates : Creates draft creation lexeme form stack) :
    Gains draft
      { openStatement lexeme.position { draft with created := draft.created + 1 } with
        stack := stack }
      (⟨draft.created, form, lexeme.position⟩ :: draft.opening lexeme.position) := by
  obtain ⟨hserials, hopen⟩ := draft.serials_opening form lexeme.position
  have hnew : Branch.imprints ⟨draft.created, form, lexeme.position, []⟩ =
      [⟨draft.created, form, lexeme.position⟩] := by
    have hbare := (Creation.of_form hcreates.chooses).2
    have hslots : form.slots = [] := hbare ▸ form.slots_bare
    simp only [imprints_of_children_eq_nil, own, Branch.imprint, hbare, hslots, List.map_nil]
  rw [hopen]
  constructor
  case imprints =>
    have hstack := hcreates.places.perm_imprints (h.stacked_ground _)
      (isSound_of_children_eq_nil rfl)
    rw [hnew, flatMap_ground, List.singleton_append] at hstack
    refine (perm_imprints _).trans ?_
    calc draft.closed.flatMap Branch.imprints ++ stack.flatMap Branch.imprints
      _ ~ draft.closed.flatMap Branch.imprints ++ (draft.stack.flatMap Branch.imprints ++
            ⟨draft.created, form, lexeme.position⟩ :: draft.opening lexeme.position) :=
          (hstack.trans List.perm_middle.symm).append_left _
      _ ~ draft.imprints ++
            ⟨draft.created, form, lexeme.position⟩ :: draft.opening lexeme.position := by
          rw [← List.append_assoc]
          exact draft.perm_imprints.symm.append_right _
  case created => exact Nat.le_add_right _ _
  case fresh =>
    intro imprint hmem
    have hserial := List.mem_map_of_mem (f := Imprint.serial) hmem
    rw [hserials, List.mem_range'_1] at hserial
    exact hserial
  case nodup =>
    rw [hserials]
    exact List.nodup_range'

/-- A call puts in the node that it creates with success and the statement for it, or nothing. -/
theorem IsSound.exists_gains_run (h : draft.IsSound) (call : Call) :
    ∃ gained, Gains draft (call.action draft).2 gained := by
  cases call with
  | feed lexeme lookahead => exact ⟨[], gains_nil rfl (Nat.le_refl _)⟩
  | close closer =>
      have hshuts := shuts_closer closer draft
      exact ⟨[], gains_nil hshuts.statements_eq (Nat.le_of_eq hshuts.created_eq.symm)⟩
  | create creation =>
      show ∃ gained, Gains draft (creation.action draft).2 gained
      rcases h.create_cases creation with
        ⟨e, created, -, hcreated, hdenied⟩ | ⟨lexeme, form, stack, hcreates, hcreated⟩
      · rw [hdenied]
        exact ⟨[], gains_nil rfl hcreated⟩
      · rw [hcreated]
        exact ⟨_, h.gains_create hcreates⟩

theorem IsSound.exists_gains_after (h : draft.IsSound) (calls : List Call) :
    ∃ gained, Gains draft (draft.after calls) gained := by
  induction calls generalizing draft with
  | nil => exact ⟨[], gains_nil rfl (Nat.le_refl _)⟩
  | cons call rest ih =>
      obtain ⟨first, hfirst⟩ := h.exists_gains_run call
      obtain ⟨later, hlater⟩ := ih (h.run call)
      exact ⟨first ++ later, hfirst.trans hlater⟩

/-! ## The open nodes -/

/-- From the statement that is open, the last children lead through the open nodes to the innermost
one. -/
theorem exists_spine_closeUp {node : Branch} {outer : List Branch} :
    ∃ statement, closeUp (node :: outer) = some statement ∧
      ((node :: outer).map Branch.imprint).reverse <+: statement.spine := by
  have hspine : ∃ statement, closeUp (node :: outer) = some statement ∧
      statement.spine = (outer.map Branch.imprint).reverse ++ node.spine := by
    induction outer generalizing node with
    | nil => exact ⟨node, rfl, rfl⟩
    | cons parent outer ih =>
        obtain ⟨statement, hup, hspine⟩ := @ih (parent.enclose node)
        refine ⟨statement, hup, ?_⟩
        rw [hspine, spine_enclose, List.map_cons, List.reverse_cons, List.append_assoc]
        rfl
  obtain ⟨statement, hup, hspine⟩ := hspine
  obtain ⟨below, hnode⟩ := node.exists_spine_eq
  refine ⟨statement, hup, below, ?_⟩
  rw [hspine, hnode, List.map_cons, List.reverse_cons, List.append_assoc]
  rfl

theorem exists_bottom (h : Stacked stack) : ∃ above bottom, stack = above ++ [bottom] ∧
    bottom.form = .statement ∧ ∀ node ∈ above, node.form ≠ .statement := by
  induction h with
  | @ground statement hform => exact ⟨[], statement, rfl, hform, by simp⟩
  | @push node parent outer _ _ _ hform _ ih =>
      obtain ⟨above, bottom, hstack, hbottom, habove⟩ := ih
      refine ⟨node :: above, bottom, by rw [hstack, List.cons_append], hbottom, ?_⟩
      exact List.forall_mem_cons.2 ⟨hform, habove⟩

/-- The statements of a sound draft are statements, and every node of them fits. -/
theorem IsSound.statements (h : draft.IsSound) {statement : Branch}
    (hstatement : statement ∈ draft.statements) : Stacked [statement] := by
  rw [Draft.statements, List.mem_append, List.mem_reverse, Option.mem_toList] at hstatement
  rcases hstatement with hclosed | hopen
  · exact h.closed statement hclosed
  · rcases h.stack with hnil | hstacked
    · rw [hnil] at hopen
      cases hopen
    · obtain ⟨bottom, hcloses, hup⟩ := hstacked.exists_closes
      cases hup.symm.trans hopen
      exact hcloses.stacked hstacked

/-- Where no serial comes twice, a node is in one statement only. -/
theorem existsUnique_statement (hnodup : (draft.imprints.map Imprint.serial).Nodup)
    {imprint : Imprint} (hmem : imprint ∈ draft.imprints) :
    ∃! statement, statement ∈ draft.statements ∧ imprint ∈ statement.imprints := by
  obtain ⟨statement, hstatement, himprint⟩ := List.mem_flatMap.1 hmem
  refine ⟨statement, ⟨hstatement, himprint⟩, ?_⟩
  rintro other ⟨hother, himprint'⟩
  have hapart : draft.statements.Pairwise fun one other =>
      List.Disjoint one.imprints other.imprints :=
    (List.nodup_flatMap.1 hnodup.of_map).2
  have hsymm : Std.Symm fun one other : Branch => List.Disjoint one.imprints other.imprints :=
    ⟨fun _ _ hdisjoint _ hone hother => hdisjoint hother hone⟩
  by_contra hne
  exact hapart.forall hother hstatement hne himprint' himprint

/-- From the last statement, which is the only statement among them, the last children lead through
all open nodes of a sound draft. -/
theorem IsSound.exists_spine (h : draft.IsSound) :
    draft.stack = [] ∨
      (∃ above bottom, draft.stack = above ++ [bottom] ∧ bottom.form = .statement ∧
        ∀ node ∈ above, node.form ≠ .statement) ∧
      ∃ statement, draft.statements.getLast? = some statement ∧
        (draft.stack.map Branch.imprint).reverse <+: statement.spine := by
  rcases h.stack with hnil | hstacked
  · exact .inl hnil
  · refine .inr ⟨exists_bottom hstacked, ?_⟩
    obtain ⟨top, outer, hstack⟩ := List.exists_cons_of_ne_nil hstacked.ne_nil
    obtain ⟨statement, hup, hprefix⟩ := @exists_spine_closeUp top outer
    refine ⟨statement, ?_, hstack ▸ hprefix⟩
    rw [Draft.statements, hstack, hup]
    exact List.getLast?_concat

/-! ## What is met after all calls -/

section

variable {operators : OperatorTable} {before : List Call} {creation : Creation}

theorem nodup_serials_after (operators : OperatorTable) (calls : List Call) :
    (((empty operators).after calls).imprints.map Imprint.serial).Nodup := by
  obtain ⟨gained, hgained⟩ := (isSound_empty operators).exists_gains_after calls
  exact (hgained.imprints.map Imprint.serial).nodup_iff.2 hgained.nodup

/-- The node of a creation that succeeds is met ever after. -/
theorem IsSound.mem_imprints_of_create_eq_ok (h : draft.IsSound)
    (hcreated : creation.action draft = (.ok (), left)) (rest : List Call) :
    ∃ lexeme form, draft.current = some lexeme ∧ creation.form draft lexeme = .ok form ∧
      ⟨draft.created, form, lexeme.position⟩ ∈ (left.after rest).imprints := by
  obtain ⟨later, hlater⟩ := (h.create creation).exists_gains_after rest
  rw [hcreated] at hlater
  rcases h.create_cases creation with
    ⟨e, created, -, -, hdenied⟩ | ⟨lexeme, form, stack, hcreates, hplaced⟩
  · cases hcreated.symm.trans hdenied
  · cases hcreated.symm.trans hplaced
    refine ⟨lexeme, form, hcreates.current, hcreates.chooses, ?_⟩
    rw [((h.gains_create hcreates).trans hlater).imprints.mem_iff]
    simp

/-- A node that a creation counts although it fails is never met: the nodes that are met have been
put in before, with smaller serials, or will be put in later, with serials from then on. -/
theorem serial_of_create_eq_error {e : ParseError}
    (hdenied : creation.action ((empty operators).after before) = (.error e, left))
    (rest : List Call) {imprint : Imprint} (hmem : imprint ∈ (left.after rest).imprints) :
    imprint.serial < ((empty operators).after before).created ∨ left.created ≤ imprint.serial := by
  have hbefore := (isSound_empty operators).after before
  obtain ⟨earlier, hearlier⟩ := (isSound_empty operators).exists_gains_after before
  generalize (empty operators).after before = draft at hdenied hbefore hearlier ⊢
  obtain ⟨later, hlater⟩ := (hbefore.create creation).exists_gains_after rest
  rw [hdenied] at hlater
  have hsame : left.imprints = draft.imprints := by
    rcases hbefore.create_cases creation with
      ⟨e, created, -, -, hfails⟩ | ⟨lexeme, form, stack, -, hplaced⟩
    · cases hdenied.symm.trans hfails
      rfl
    · cases hdenied.symm.trans hplaced
  rw [hlater.imprints.mem_iff, hsame, List.mem_append, hearlier.imprints.mem_iff] at hmem
  rcases hmem with hmem | hmem
  · rw [List.mem_append] at hmem
    exact .inl (hearlier.fresh imprint (hmem.resolve_left nofun)).2
  · exact .inr (hlater.fresh imprint hmem).1

end

end Draft

end Scriptlet
