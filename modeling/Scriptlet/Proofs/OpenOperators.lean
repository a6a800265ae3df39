/-
# Open operators

Between two open brackets the open operators bind the more tightly the further in they are. Each has
its left operand, and as its right one what is open inside of it or has just been completed; only
right after it has been read an operator is without one.

For that reason a new operator always finds its left operand. It passes outward over the operators
that bind at least as tightly as itself. The next open node is looser, ends in a complete operand,
and is no further out than the innermost bracket, since no bracket is passed on the way.
-/

import Mathlib.Data.List.Chain
import Scriptlet.Proofs.Lifetimes
import Scriptlet.Proofs.Routes

namespace Scriptlet

open Grammar Mark

/-! ## Closing open nodes -/

/-- Closing takes the innermost open nodes away and leaves the others as they are. -/
theorem Closes.openCells_suffix {first second : List Branch} (h : Closes first second) :
    openCells second <:+ openCells first := by
  induction h with
  | refl => exact List.suffix_refl _
  | close _ ih => exact ih.trans (List.suffix_cons _ _)

/-- What is open after closing has been open before. -/
theorem Closes.map_imprint_suffix {first second : List Branch} (h : Closes first second) :
    second.map Branch.imprint <:+ first.map Branch.imprint := by
  rw [← map_imprint_openCells, ← map_imprint_openCells]
  exact h.openCells_suffix.map Cell.imprint

/-! ## Operators in order -/

namespace Form

/-- Whether a node binds more tightly than another, which is so if the other is no operator. -/
def IsTighterThan (inner outer : Form) : Prop :=
  ∀ above ∈ outer.level?, ∃ level ∈ inner.level?, above < level

theorem IsTighterThan.trans {first second third : Form} (h : first.IsTighterThan second)
    (h' : second.IsTighterThan third) : first.IsTighterThan third := by
  intro above habove
  obtain ⟨middle, hmiddle, hlt⟩ := h' above habove
  obtain ⟨level, hlevel, hlt'⟩ := h middle hmiddle
  exact ⟨level, hlevel, Fin.lt_trans hlt hlt'⟩

/-- Whether a node may be open right inside of another: inside of an operator there is a bracket, or
an operator that binds more tightly. -/
def OpensIn (inner outer : Form) : Prop := inner.isBracket = true ∨ inner.IsTighterThan outer

instance : Trans IsTighterThan IsTighterThan IsTighterThan := ⟨IsTighterThan.trans⟩

/-- Where there is no bracket, operators bind the more tightly the further in they are, also those
that are not next to each other. -/
theorem pairwise_levels {forms : List Form} (h : forms.IsChain OpensIn)
    (hnone : ∀ form ∈ forms, form.isBracket = false) :
    (forms.filterMap level?).Pairwise (· > ·) := by
  have htight : forms.IsChain IsTighterThan := h.imp_of_mem_imp fun inner outer hinner _ hopens =>
    hopens.resolve_left (Bool.eq_false_iff.1 (hnone inner hinner))
  apply List.pairwise_filterMap.2
  apply htight.pairwise.imp
  intro inner outer hlt level hlevel above habove
  obtain ⟨other, hother, hlt⟩ := hlt above habove
  rw [hlevel, Option.mem_some_iff] at hother
  exact hother ▸ hlt

end Form

/-- Open nodes, innermost first, among which all operators are in order. -/
structure OperatorsInOrder (opened : List Cell) (awaiting : Prop) : Prop where
  /-- Where no bracket is open between them, operators bind the more tightly the further in they
  are. -/
  levels {inner between outer} (hopened : opened = inner ++ between ++ outer)
    (hbetween : ∀ cell ∈ between, cell.form.isBracket = false) :
    (between.filterMap fun cell => cell.form.level?).Pairwise (· > ·)
  /-- An operator that awaits its right operand is innermost, and has its left operand only. All
  others have both. -/
  awaits (h : awaiting) : ∃ top outer, opened = top :: outer ∧ top.form.level? ≠ none ∧
    top.children.length = 1 ∧
    ∀ cell ∈ outer, cell.form.level? ≠ none → cell.children.length = 2
  /-- If none awaits its right operand, all have both. -/
  complete (h : ¬ awaiting) :
    ∀ cell ∈ opened, cell.form.level? ≠ none → cell.children.length = 2

namespace OperatorsInOrder

variable {opened other : List Cell} {awaiting : Prop}

/-- Operators stay in order when the innermost nodes are closed. -/
theorem suffix (h : OperatorsInOrder opened awaiting) (hnone : ¬ awaiting)
    (hsuffix : other <:+ opened) : OperatorsInOrder other awaiting := by
  obtain ⟨closed, rfl⟩ := hsuffix
  constructor
  case levels =>
    rintro inner between outer rfl hbetween
    exact @h.levels (closed ++ inner) between outer (by simp) hbetween
  case awaits => exact fun hawaiting => absurd hawaiting hnone
  case complete => exact fun _ cell hcell => h.complete hnone cell (List.mem_append_right _ hcell)

end OperatorsInOrder

theorem levels_of_isChain {stack : List Branch} (h : (stack.map Branch.form).IsChain Form.OpensIn)
    {inner between outer : List Cell} (hopened : openCells stack = inner ++ between ++ outer)
    (hbetween : ∀ cell ∈ between, cell.form.isBracket = false) :
    (between.filterMap fun cell => cell.form.level?).Pairwise (· > ·) := by
  have hforms : (between.map Cell.form).IsChain Form.OpensIn := by
    have hsame : (openCells stack).map Cell.form = stack.map Branch.form :=
      map_openCells (fun _ _ => rfl) stack
    rw [← hsame, hopened, List.map_append, List.map_append] at h
    exact h.left_of_append.right_of_append
  have hlevels := Form.pairwise_levels hforms (List.forall_mem_map.2 hbetween)
  rwa [List.filterMap_map] at hlevels

/-- An operator around an open node has two children if it has one that is closed. -/
theorem length_children_openAround {outer : List Branch}
    (h : ∀ node ∈ outer, node.form.level? ≠ none → node.children.length = 1) (inner : Nat) :
    ∀ cell ∈ openAround inner outer, cell.form.level? ≠ none → cell.children.length = 2 := by
  induction outer generalizing inner with
  | nil => simp [openAround]
  | cons parent outer ih =>
      obtain ⟨hparent, houter⟩ := List.forall_mem_cons.1 h
      apply List.forall_mem_cons.2 ⟨fun hlevel => ?_, ih houter parent.serial⟩
      show (inner :: parent.children.map Branch.serial).length = 2
      rw [List.length_cons, List.length_map, hparent hlevel]

/-! ## Operators during a parse -/

variable {operators : OperatorTable} {start : Position} {upcoming : Option Kind}
  {state next : State} {parent : Branch} {outer stack : List Branch} {marks : List Mark}

namespace Awaits

theorem isChain (h : Awaits operators start parent outer marks) :
    ((parent :: outer).map Branch.form).IsChain Form.OpensIn := by
  induction h with
  | statement => exact .singleton _
  | declaration | assignment => exact .cons_cons (.inr nofun) (.singleton _)
  | group _ ih => exact .cons_cons (.inl rfl) ih
  | call _ _ _ ih => exact .cons_cons (.inl rfl) ih
  | operator _ _ _ _ _ hbelow ih =>
      exact .cons_cons (.inr fun above habove => ⟨_, rfl, hbelow above habove⟩) ih

/-- Every open operator has taken its left operand in, and nothing else. -/
theorem length_children (h : Awaits operators start parent outer marks) :
    ∀ node ∈ parent :: outer, node.form.level? ≠ none → node.children.length = 1 := by
  have hnone : ∀ {node : Branch}, node.form.level? = none →
      node.form.level? ≠ none → node.children.length = 1 := fun hnone hlevel => absurd hnone hlevel
  induction h with
  | statement => exact List.forall_mem_singleton.2 (hnone rfl)
  | declaration | assignment =>
      exact List.forall_mem_cons.2 ⟨hnone rfl, List.forall_mem_singleton.2 (hnone rfl)⟩
  | group _ ih => exact List.forall_mem_cons.2 ⟨hnone rfl, ih⟩
  | call _ _ _ ih => exact List.forall_mem_cons.2 ⟨hnone rfl, ih⟩
  | operator _ _ _ _ _ _ ih => exact List.forall_mem_cons.2 ⟨fun _ => rfl, ih⟩

/-- What is innermost is known from the lexeme read last. -/
theorem level?_ne_none_iff (h : Awaits operators start parent outer marks) :
    parent.form.level? ≠ none ↔ marks.getLast?.map Mark.kind = some .operator := by
  cases h with
  | @call _ _ _ _ arguments =>
      rcases List.eq_nil_or_concat arguments with rfl | ⟨earlier, last, rfl⟩ <;>
        simp [Form.level?, sign, List.getLast?_cons, List.getLast?_append]
  | _ => simp [Form.level?, sign, placed, word]

end Awaits

namespace Stage

theorem isChain (h : Stage operators start upcoming state stack marks) :
    (stack.map Branch.form).IsChain Form.OpensIn := by
  cases h with
  | between => exact .nil
  | awaiting _ hawaits => exact hawaits.isChain
  | opened houter => exact .cons_cons (.inl rfl) houter.isChain
  | named _ _ houter => exact .cons_cons (.inl rfl) houter.isChain
  | complete _ _ hcompletes =>
      obtain ⟨houter, -, -, -⟩ := hcompletes
      exact houter.isChain
  | target => exact .singleton _
  | declaring | declaringType | declaringValue => exact .cons_cons (.inr nofun) (.singleton _)

/-- Right after an operator this awaits its right operand, and otherwise no operator does. -/
theorem operatorsInOrder (h : Stage operators start upcoming state stack marks)
    (hlast : state = .operator ↔ marks.getLast?.map Mark.kind = some .operator) :
    OperatorsInOrder (openCells stack) (state = .operator) := by
  constructor
  case levels => exact fun hopened => levels_of_isChain h.isChain hopened
  case awaits =>
    intro hstate
    cases h with
    | @awaiting _ parent outer _ _ hawaits =>
        obtain ⟨hparent, houter⟩ := List.forall_mem_cons.1 hawaits.length_children
        have hlevel := hawaits.level?_ne_none_iff.2 (hlast.1 hstate)
        refine ⟨parent.cell, openAround parent.serial outer, rfl, hlevel, ?_,
          length_children_openAround houter _⟩
        show (parent.children.map Branch.serial).length = 1
        rw [List.length_map, hparent hlevel]
    | between h => simp [hstate, State.beginnings] at h
    | complete h => simp [hstate] at h
    | named h => simp [hstate] at h
    | _ => cases hstate
  case complete =>
    intro hstate
    cases h with
    | between => simp [openCells]
    | @awaiting _ parent outer _ _ hawaits =>
        obtain ⟨-, houter⟩ := List.forall_mem_cons.1 hawaits.length_children
        apply List.forall_mem_cons.2 ⟨fun hlevel => ?_, length_children_openAround houter _⟩
        exact absurd (hlast.2 (hawaits.level?_ne_none_iff.1 hlevel)) hstate
    | opened houter | named _ _ houter =>
        exact List.forall_mem_cons.2 ⟨fun hlevel => absurd rfl hlevel,
          length_children_openAround houter.length_children _⟩
    | complete _ _ hcompletes =>
        obtain @⟨parent, outer, _, branch, _, houter, -, -, -⟩ := hcompletes
        obtain ⟨hparent, houter⟩ := List.forall_mem_cons.1 houter.length_children
        apply List.forall_mem_cons.2 ⟨fun hlevel => ?_, length_children_openAround houter _⟩
        show ((branch :: parent.children).map Branch.serial).length = 2
        rw [List.length_map, List.length_cons, hparent hlevel]
    | _ => simp [openCells, openAround, Branch.cell, Form.level?]

end Stage

namespace Grammar

variable {readings rest : List Reading} {machine moved : Running} {draft left : Draft}
  {lexeme : Lexeme} {earlier : List Lexeme} {steps : List (Kind × State)} {kind : Kind}

theorem Move.eq_operator_iff (h : Move state kind next) : next = .operator ↔ kind = .operator := by
  constructor
  · rintro rfl
    cases h with
    | literal _ hliteral => simp [literals] at hliteral
    | operator => rfl
  · rintro rfl
    exact h.eq_operator

theorem Recounts.eq_operator_iff
    (h : Recounts operators readings machine draft rest earlier steps state) :
    state = .operator ↔ earlier.getLast?.map Lexeme.kind = some .operator := by
  obtain ⟨-, -, -, -, hkinds, hwalk, -⟩ := h
  rw [← List.getLast?_map, ← hkinds]
  cases hwalk with
  | stay => simp
  | step _ hpath =>
      rw [plan_paths, mem_fans_iff] at hpath
      simpa using hpath.eq_operator_iff

/-- At every point of a parse the open operators are in order, and one of them awaits its right
operand right after it has been read. -/
theorem Recounts.operatorsInOrder
    (h : Recounts operators readings machine draft rest earlier steps state) :
    OperatorsInOrder (openCells draft.stack)
      (earlier.getLast?.map Lexeme.kind = some .operator) := by
  rw [← h.eq_operator_iff]
  have hstate := h.eq_operator_iff
  obtain @⟨_, _, marks, before, current, -, -, -, -, hstage, hcurrent, -⟩ := h.reached
  apply hstage.operatorsInOrder
  by_cases hmarks : marks = []
  · have hbeginning : state ∈ State.beginnings := by
      by_contra hnot
      exact hstage.marks_ne_nil hnot hmarks
    subst hmarks
    apply iff_of_false _ (by simp)
    rintro rfl
    simp [State.beginnings] at hbeginning
  · have hne : current ≠ [] := by
      rintro rfl
      cases hcurrent
      exact hmarks rfl
    rw [hstate, ← List.getLast?_map, ← List.getLast?_map, hcurrent.map_kind,
      List.getLast?_map, List.getLast?_map, List.getLast?_append_of_ne_nil _ hne]

end Grammar

end Scriptlet
