/-
# What one step does to the nodes

A step of a parse either lets all nodes be, or puts one new node in. The new node joins an open one,
its host, which takes it in as its latest child or as a name; or it takes over the latest child of
the host, and stands in its place. A host that is not the innermost open node is found by passing
outward over operators only, so it is never outside of an open bracket.

What becomes of a node, of the open brackets and of the nodes outside of them is read off these few
ways for a draft to advance.
-/

import Scriptlet.Proofs.Cells

namespace Scriptlet

open scoped List

@[simp]
theorem Form.level?_bare (form : Form) : form.bare.level? = form.level? := by
  cases form <;> rfl

namespace Cell

/-- Taking a node in, as the latest child or as a name. -/
inductive Receives (host fresh : Cell) : Cell → Prop
  | child : Receives host fresh { host with children := fresh.serial :: host.children }
  | slot {form} (hbare : form.bare = host.form.bare)
      (hslots : form.slots.map Slot.serial ~ fresh.serial :: host.form.slots.map Slot.serial) :
      Receives host fresh { host with form := form }

/-- A node that stands for a lexeme and has taken over another: an operator its left operand, or an
assignment the name that is assigned to. -/
inductive TakesOver (lexeme : Lexeme) (node : Nat) : Cell → Prop
  | operand {serial level} (hkind : lexeme.kind = .operator) :
      TakesOver lexeme node ⟨serial, .operator lexeme.value level, lexeme.position, [node]⟩
  | target {serial identifier} (hkind : lexeme.kind = .equals) :
      TakesOver lexeme node ⟨serial, .assignment (some ⟨node, identifier⟩), lexeme.position, []⟩

/-- What is below the host stays there. -/
theorem Receives.mem_below {host fresh grown : Cell} (h : host.Receives fresh grown) :
    grown.serial = host.serial ∧ ∀ node ∈ host.below, node ∈ grown.below := by
  cases h with
  | child => exact ⟨rfl, fun node hnode => List.mem_cons_of_mem _ hnode⟩
  | slot _ hslots =>
      refine ⟨rfl, fun node hnode => ?_⟩
      rw [below, List.mem_append] at hnode ⊢
      exact hnode.imp_right fun hslot => hslots.mem_iff.2 (List.mem_cons_of_mem _ hslot)

/-- Whether a node is below another in a place that is not given away: as a name, or as the left
operand of an operator. -/
def Holds (cell : Cell) (node : Nat) : Prop :=
  node ∈ cell.form.slots.map Slot.serial ∨
    cell.form.level? ≠ none ∧ cell.children.getLast? = some node

theorem Receives.holds {host fresh grown : Cell} (h : host.Receives fresh grown) {node : Nat}
    (hholds : host.Holds node) : grown.Holds node := by
  cases h with
  | child =>
      refine hholds.imp_right fun ⟨hlevel, hlast⟩ => ⟨hlevel, ?_⟩
      rw [List.getLast?_cons, hlast]
      rfl
  | slot hbare hslots =>
      refine hholds.imp (fun hslot => hslots.mem_iff.2 (List.mem_cons_of_mem _ hslot)) ?_
      rintro ⟨hlevel, hlast⟩
      refine ⟨?_, hlast⟩
      rwa [← Form.level?_bare, hbare, Form.level?_bare]

theorem Holds.mem_below {cell : Cell} {node : Nat} (h : cell.Holds node) : node ∈ cell.below := by
  rcases h with hslot | ⟨-, hlast⟩
  · exact List.mem_append_right _ hslot
  · exact List.mem_append_left _ (List.mem_of_getLast? hlast)

/-- What has been taken over is not given away. -/
theorem TakesOver.holds {cell : Cell} {lexeme : Lexeme} {node : Nat}
    (h : cell.TakesOver lexeme node) : cell.Holds node := by
  cases h with
  | operand => exact .inr ⟨by simp, rfl⟩
  | target => exact .inl List.mem_cons_self

end Cell

namespace Draft

/-- The node that a new node finds open, with the other nodes and what is open outside: the
innermost open one, or a statement that is opened for it. -/
inductive Finds (draft : Draft) (host : Cell) (others : List Cell) (outer : List Imprint) : Prop
  | innermost (hopened : draft.opened = host.imprint :: outer)
      (hcells : draft.cells ~ host :: others)
  | statement (hopened : draft.opened = []) (houter : outer = []) (hform : host.form = .statement)
      (hserial : draft.created < host.serial) (hcells : draft.cells ~ others)

theorem Finds.mem_cases {draft : Draft} {host cell : Cell} {others : List Cell}
    {outer : List Imprint} (h : draft.Finds host others outer) (hcell : cell ∈ draft.cells) :
    cell = host ∨ cell ∈ others := by
  cases h with
  | innermost _ hcells => exact List.mem_cons.1 (hcells.mem_iff.1 hcell)
  | statement _ _ _ _ hcells => exact .inr (hcells.mem_iff.1 hcell)

/-- One step of a draft. -/
inductive Advances (draft left : Draft) : Prop
  /-- Open nodes are closed, and at most the outermost of them is a bracket. -/
  | rests {passed} (hstatements : left.statements = draft.statements)
      (hcreated : draft.created ≤ left.created) (hopened : draft.opened = passed ++ left.opened)
      (hpassed : ∀ node ∈ passed.dropLast, node.form.isBracket = false)
  /-- A new node joins the innermost open one. -/
  | joins {host fresh grown others outer} (hfinds : draft.Finds host others outer)
      (hreceives : host.Receives fresh grown) (hcells : left.cells ~ grown :: fresh :: others)
      (hserial : fresh.serial = draft.created) (hcreated : draft.created < left.created)
      (hopened : left.opened = host.imprint :: outer ∨
        grown = { host with children := fresh.serial :: host.children } ∧
          left.opened = fresh.imprint :: host.imprint :: outer)
  /-- A new node takes over the latest child of an open one. -/
  | takesOver {lexeme host fresh others passed outer last older}
      (hlexeme : left.current = some lexeme) (htakes : fresh.TakesOver lexeme last)
      (hopened : draft.opened = passed ++ host.imprint :: outer)
      (hpassed : ∀ node ∈ passed, node.form.isBracket = false)
      (hcells : draft.cells ~ host :: others) (hchildren : host.children = last :: older)
      (holder : host.form.level? ≠ none → older ≠ [])
      (hleft : left.cells ~ { host with children := fresh.serial :: older } :: fresh :: others)
      (hserial : fresh.serial = draft.created) (hcreated : draft.created < left.created)
      (hstack : left.opened = fresh.imprint :: host.imprint :: outer)

/-- Where no bracket has been passed, the innermost ones are still to come. -/
theorem exists_more_of_append_eq {passed rest inner outer : List Imprint} {bracket : Imprint}
    (h : passed ++ rest = inner ++ bracket :: outer)
    (hpassed : ∀ node ∈ passed, node.form.isBracket = false)
    (hbracket : bracket.form.isBracket = true) :
    ∃ more, rest = more ++ bracket :: outer ∧ inner = passed ++ more := by
  rcases List.append_eq_append_iff.1 h with ⟨more, rfl, rfl⟩ | ⟨more, rfl, hmore⟩
  · exact ⟨more, rfl, rfl⟩
  · rcases more with - | ⟨first, more⟩
    · exact ⟨[], hmore.symm, by simp⟩
    · obtain ⟨rfl, -⟩ := List.cons.inj hmore
      rw [hpassed bracket (by simp)] at hbracket
      cases hbracket

namespace Advances

variable {draft left : Draft} {cell : Cell} {node bracket : Imprint} {inner outer : List Imprint}

theorem created_le (h : draft.Advances left) : draft.created ≤ left.created := by
  cases h with
  | rests _ hcreated => exact hcreated
  | joins _ _ _ _ hcreated | takesOver _ _ _ _ _ _ _ _ _ hcreated => exact Nat.le_of_lt hcreated

/-- What is open has been open before or is new. -/
theorem mem_opened (h : draft.Advances left) (hnode : node ∈ left.opened) :
    node ∈ draft.opened ∨ draft.created ≤ node.serial := by
  cases h with
  | rests _ _ hopened => exact .inl (hopened ▸ List.mem_append_right _ hnode)
  | @joins host fresh grown others outer hfinds _ _ hserial _ hopened =>
      have hfresh : draft.created ≤ fresh.imprint.serial := Nat.le_of_eq hserial.symm
      have hhost : ∀ node ∈ host.imprint :: outer,
          node ∈ draft.opened ∨ draft.created ≤ node.serial := by
        intro node hnode
        cases hfinds with
        | innermost hbefore => exact .inl (hbefore ▸ hnode)
        | statement _ houter _ hlater =>
            rw [houter, List.mem_singleton] at hnode
            exact .inr (hnode ▸ Nat.le_of_lt hlater)
      rcases hopened with hopened | ⟨-, hopened⟩
      · exact hhost node (hopened ▸ hnode)
      · rw [hopened, List.mem_cons] at hnode
        rcases hnode with rfl | hnode
        · exact .inr hfresh
        · exact hhost node hnode
  | takesOver _ _ hopened _ _ _ _ _ hserial _ hstack =>
      rw [hstack, List.mem_cons] at hnode
      rcases hnode with rfl | hnode
      · exact .inr (Nat.le_of_eq hserial.symm)
      · exact .inl (hopened ▸ List.mem_append_right _ hnode)

/-- A node stays as it is unless it is open and no bracket is open inside. -/
theorem mem_cells (h : draft.Advances left) (hcell : cell ∈ draft.cells) :
    cell ∈ left.cells ∨ ∃ inner outer, draft.opened = inner ++ cell.imprint :: outer ∧
      ∀ node ∈ inner, node.form.isBracket = false := by
  cases h with
  | rests hstatements => exact .inl (cells_eq_of_statements_eq hstatements ▸ hcell)
  | @joins host fresh grown others outer hfinds _ hcells =>
      have hothers : cell ∈ others → cell ∈ left.cells := fun hother =>
        hcells.mem_iff.2 (List.mem_cons_of_mem _ (List.mem_cons_of_mem _ hother))
      cases hfinds with
      | innermost hopened hbefore =>
          rw [hbefore.mem_iff, List.mem_cons] at hcell
          rcases hcell with rfl | hother
          · exact .inr ⟨[], outer, hopened, by simp⟩
          · exact .inl (hothers hother)
      | statement _ _ _ _ hbefore => exact .inl (hothers (hbefore.mem_iff.1 hcell))
  | takesOver _ _ hopened hpassed hcells _ _ hleft =>
      rw [hcells.mem_iff, List.mem_cons] at hcell
      rcases hcell with rfl | hother
      · exact .inr ⟨_, _, hopened, hpassed⟩
      · exact .inl (hleft.mem_iff.2 (List.mem_cons_of_mem _ (List.mem_cons_of_mem _ hother)))

/-- An open bracket stays open with all that is open outside of it, or is closed alone. -/
theorem opened_of_bracket (h : draft.Advances left)
    (hopened : draft.opened = inner ++ bracket :: outer)
    (hbracket : bracket.form.isBracket = true) :
    left.opened = outer ∨ ∃ inner', left.opened = inner' ++ bracket :: outer ∧
      ∀ node ∈ inner', node ∈ inner ∨ draft.created ≤ node.serial := by
  cases h with
  | @rests passed _ _ hpasses hpassed =>
      rw [hopened] at hpasses
      rcases List.eq_nil_or_concat passed with rfl | ⟨others, last, rfl⟩
      · exact .inr ⟨inner, hpasses.symm, fun _ hnode => .inl hnode⟩
      · rw [List.concat_eq_append, List.append_assoc] at hpasses
        rw [List.concat_eq_append, List.dropLast_concat] at hpassed
        obtain ⟨more, hmore, rfl⟩ := exists_more_of_append_eq hpasses.symm hpassed hbracket
        -- The bracket is the last node that has been closed, or has not been closed.
        rcases more with - | ⟨first, more⟩
        · exact .inl (List.cons.inj hmore).2
        · refine .inr ⟨more, (List.cons.inj hmore).2, fun node hnode => .inl ?_⟩
          exact List.mem_append_right _ (List.mem_cons_of_mem _ hnode)
  | @joins host fresh grown others outside hfinds _ _ hserial _ hleft =>
      have hground : host.imprint :: outside = inner ++ bracket :: outer := by
        cases hfinds with
        | innermost hinnermost => rw [← hinnermost, hopened]
        | statement hnil =>
            rw [hnil] at hopened
            simp at hopened
      rcases hleft with hleft | ⟨-, hleft⟩
      · exact .inr ⟨inner, by rw [hleft, hground], fun _ hnode => .inl hnode⟩
      · refine .inr ⟨fresh.imprint :: inner, by rw [hleft, hground, List.cons_append], ?_⟩
        exact List.forall_mem_cons.2 ⟨.inr (Nat.le_of_eq hserial.symm), fun _ hnode => .inl hnode⟩
  | @takesOver _ _ fresh _ _ _ _ _ _ _ hpasses hpassed _ _ _ _ hserial _ hstack =>
      rw [hopened] at hpasses
      obtain ⟨more, hmore, rfl⟩ := exists_more_of_append_eq hpasses.symm hpassed hbracket
      refine .inr ⟨fresh.imprint :: more, by rw [hstack, hmore, List.cons_append], ?_⟩
      exact List.forall_mem_cons.2 ⟨.inr (Nat.le_of_eq hserial.symm),
        fun _ hnode => .inl (List.mem_append_right _ hnode)⟩

/-- A node that gets another parent is taken over by the new node. -/
theorem takesOver_of_isParent {parent node : Nat} (h : draft.Advances left)
    (hparent : draft.IsParent parent node) (hleft : ¬ left.IsParent parent node) :
    ∃ lexeme fresh, left.current = some lexeme ∧ fresh ∈ left.cells ∧
      fresh.serial = draft.created ∧ fresh.TakesOver lexeme node := by
  obtain ⟨cell, hcell, rfl, hnode⟩ := hparent
  have hnot : ∀ other ∈ left.cells, other.serial = cell.serial → node ∉ other.below :=
    fun other hother hserial hnode => hleft ⟨other, hother, hserial, hnode⟩
  cases h with
  | rests hstatements =>
      exact absurd hnode (hnot cell (cells_eq_of_statements_eq hstatements ▸ hcell) rfl)
  | joins hfinds hreceives hcells =>
      rcases hfinds.mem_cases hcell with rfl | hother
      · obtain ⟨hserial, hbelow⟩ := hreceives.mem_below
        exact absurd (hbelow node hnode) (hnot _ (by simp [hcells.mem_iff]) hserial)
      · exact absurd hnode (hnot cell (by simp [hcells.mem_iff, hother]) rfl)
  | @takesOver lexeme host fresh others _ _ last older hlexeme htakes _ _ hcells hchildren _ hafter
      hserial =>
      refine ⟨lexeme, fresh, hlexeme, by simp [hafter.mem_iff], hserial, ?_⟩
      rw [hcells.mem_iff, List.mem_cons] at hcell
      rcases hcell with rfl | hother
      · have hnode' := hnot { cell with children := fresh.serial :: older }
          (by simp [hafter.mem_iff]) rfl
        simp only [Cell.below, hchildren, List.cons_append, List.mem_cons, not_or] at hnode hnode'
        exact hnode.resolve_right hnode'.2 ▸ htakes
      · exact absurd hnode (hnot cell (by simp [hafter.mem_iff, hother]) rfl)

/-- A node that is held keeps its parent. -/
theorem exists_holds {node : Nat} (h : draft.Advances left) (hcell : cell ∈ draft.cells)
    (hholds : cell.Holds node) :
    ∃ other ∈ left.cells, other.serial = cell.serial ∧ other.Holds node := by
  cases h with
  | rests hstatements => exact ⟨cell, cells_eq_of_statements_eq hstatements ▸ hcell, rfl, hholds⟩
  | joins hfinds hreceives hcells =>
      rcases hfinds.mem_cases hcell with rfl | hother
      · exact ⟨_, by simp [hcells.mem_iff], hreceives.mem_below.1, hreceives.holds hholds⟩
      · exact ⟨cell, by simp [hcells.mem_iff, hother], rfl, hholds⟩
  | @takesOver _ host fresh others _ _ last older _ _ _ _ hcells hchildren holder hafter =>
      rw [hcells.mem_iff, List.mem_cons] at hcell
      rcases hcell with rfl | hother
      · refine ⟨{ cell with children := fresh.serial :: older }, by simp [hafter.mem_iff], rfl,
          hholds.imp_right fun ⟨hlevel, hlast⟩ => ⟨hlevel, ?_⟩⟩
        -- The left operand is not the latest child, which has been taken over.
        obtain ⟨first, more, rfl⟩ := List.exists_cons_of_ne_nil (holder hlevel)
        rwa [hchildren, List.getLast?_cons_cons] at hlast
      · exact ⟨cell, by simp [hafter.mem_iff, hother], rfl, hholds⟩

/-- A bracket is opened as the latest child of its parent, and no other node changes. -/
theorem of_bracket_opened (h : draft.Advances left) (hforest : draft.IsForest)
    (hbefore : bracket ∉ draft.opened) (hafter : bracket ∈ left.opened)
    (hbracket : bracket.form.isBracket = true) :
    ∃ parent outer, left.opened = bracket :: parent :: outer ∧ bracket ∉ parent :: outer ∧
      bracket.serial < left.created ∧
      (draft.opened = parent :: outer ∨ draft.opened = [] ∧ outer = []) ∧
      left.IsParent parent.serial bracket.serial ∧
      ∀ cell ∈ draft.cells, (if cell.serial = parent.serial then
        { cell with children := bracket.serial :: cell.children } else cell) ∈ left.cells := by
  cases h with
  | rests _ _ hopened => exact absurd (hopened ▸ List.mem_append_right _ hafter) hbefore
  | @joins host fresh grown others outer hfinds hreceives hcells hserial hcreated hopened =>
      have hhost : bracket ∉ host.imprint :: outer := by
        cases hfinds with
        | innermost hinnermost => exact hinnermost ▸ hbefore
        | statement _ houter hform =>
            rw [houter, List.mem_singleton]
            rintro rfl
            rw [Cell.imprint, hform] at hbracket
            cases hbracket
      rcases hopened with hopened | ⟨rfl, hopened⟩
      · exact absurd (hopened ▸ hafter) hhost
      rw [hopened, List.mem_cons] at hafter
      obtain rfl := hafter.resolve_right hhost
      have hparent : left.IsParent host.serial fresh.serial :=
        ⟨_, hcells.mem_iff.2 List.mem_cons_self, rfl, List.mem_cons_self⟩
      refine ⟨host.imprint, outer, hopened, hhost, hserial.trans_lt hcreated, ?_, hparent,
        fun cell hcell => ?_⟩
      · cases hfinds with
        | innermost hinnermost => exact .inl hinnermost
        | statement hnil houter => exact .inr ⟨hnil, houter⟩
      · rw [hcells.mem_iff]
        split
        · next heq =>
          cases hfinds with
          | innermost _ hbefore =>
              obtain rfl := hforest.eq_of_serial_eq hcell (by simp [hbefore.mem_iff]) heq
              exact List.mem_cons_self
          | statement _ _ _ hlater =>
              have hcreated := hforest.created cell hcell
              change cell.serial = host.serial at heq
              omega
        · next hne =>
          have hother := (hfinds.mem_cases hcell).resolve_left fun heq => hne (heq ▸ rfl)
          exact List.mem_cons_of_mem _ (List.mem_cons_of_mem _ hother)
  | @takesOver _ host fresh _ _ outer _ _ _ htakes hopened _ _ _ _ _ _ _ hstack =>
      rw [hstack, List.mem_cons] at hafter
      rcases hafter with rfl | hafter
      · cases htakes <;> cases hbracket
      · exact absurd (hopened ▸ List.mem_append_right _ hafter) hbefore

end Advances

end Draft

end Scriptlet
