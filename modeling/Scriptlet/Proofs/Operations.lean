/-
# Operations on drafts

What can be done with a draft, in any order and going on after failures: a lexeme is fed, a node is
created, or open nodes are closed. For each kind there is one account of all that it can do. A
creation that fails has changed nothing that can be seen: before the node finds its place there is
no statement to open, and once it has taken something over nothing turns it down any more.
-/

import Scriptlet.Proofs.Stacking

namespace Scriptlet

/-- The nodes that can be created. -/
inductive Creation
  | identifier
  | bareIdentifier
  | string
  | number
  | boolean
  | operator
  | declaration
  | assignment
  | group
  deriving DecidableEq

/-- The ways to close open nodes. -/
inductive Closer
  | node
  | statement
  | bracket
  | argument
  deriving DecidableEq

namespace Creation

/-- Creates a node. -/
def action : Creation → Action Draft ParseError
  | identifier => Draft.createIdentifier
  | bareIdentifier => Draft.createBareIdentifier
  | string => Draft.createString
  | number => Draft.createNumber
  | boolean => Draft.createBoolean
  | operator => Draft.createOperator
  | declaration => Draft.createDeclaration
  | assignment => Draft.createAssignment
  | group => Draft.createGroup

/-- What the node is that a lexeme stands for. -/
def form (draft : Draft) (lexeme : Lexeme) : Creation → Except ParseError Form
  | identifier =>
    if draft.lookahead = some .parenOpen then .ok (.call lexeme.value)
    else .ok (.identifier lexeme.value)
  | bareIdentifier => .ok (.identifier lexeme.value)
  | string => .ok (.string lexeme.value)
  | number =>
    match Binary64.ofString? lexeme.value with
    | some value => .ok (.number value)
    | none => .error (.invalidNumber lexeme.text lexeme.position)
  | boolean => .ok (.boolean (lexeme.kind = .trueWord))
  | operator =>
    match draft.operators.level? lexeme.value with
    | some level => .ok (.operator lexeme.value level)
    | none => .error (.unknownOperator lexeme.value lexeme.position)
  | declaration => .ok (.declaration none none)
  | assignment => .ok (.assignment none)
  | group => .ok .group

theorem action_eq (creation : Creation) :
    creation.action = Draft.create fun draft lexeme => creation.form draft lexeme := by
  cases creation <;> rfl

/-- A new node is no statement, and no name is in its fields yet. -/
theorem of_form {creation : Creation} {draft : Draft} {lexeme : Lexeme} {form : Form}
    (h : creation.form draft lexeme = .ok form) : form ≠ .statement ∧ form.bare = form := by
  cases creation with
  | identifier | number | operator =>
      simp only [Creation.form] at h
      split at h <;> cases h <;> exact ⟨nofun, rfl⟩
  | _ =>
      cases h
      exact ⟨nofun, rfl⟩

end Creation

/-- Closes open nodes. -/
def Closer.action : Closer → Action Draft ParseError
  | node => Draft.closeNode
  | statement => Draft.closeStatement
  | bracket => Draft.closeBracket
  | argument => Draft.closeArgument

namespace Draft

/-- One operation on a draft. -/
inductive Call
  | feed (lexeme : Lexeme) (lookahead : Option Kind)
  | create (creation : Creation)
  | close (closer : Closer)

/-- Does what a call asks for. -/
def Call.action : Call → Action Draft ParseError
  | feed lexeme lookahead => fun draft => (.ok (), draft.feed lexeme lookahead)
  | create creation => creation.action
  | close closer => closer.action

/-- The draft after calls, failing ones among them. -/
def after (draft : Draft) (calls : List Call) : Draft :=
  calls.foldl (fun draft call => (call.action draft).2) draft

theorem after_append (draft : Draft) (first second : List Call) :
    draft.after (first ++ second) = (draft.after first).after second :=
  List.foldl_append

/-- A draft whose closed statements are sound and whose open nodes stand on a statement. -/
structure IsSound (draft : Draft) : Prop where
  closed : ∀ statement ∈ draft.closed, Stacked [statement]
  stack : draft.stack = [] ∨ Stacked draft.stack

theorem isSound_empty (operators : OperatorTable) : (empty operators).IsSound :=
  ⟨by simp [empty], .inl rfl⟩

variable {draft left : Draft}

/-! ## Creating -/

/-- Why a creation fails. -/
inductive Denies (draft : Draft) (creation : Creation) : ParseError → Prop
  /-- There is no lexeme to work on. -/
  | lexeme (hcurrent : draft.current = none) : Denies draft creation noLexeme
  | number {lexeme} (hcurrent : draft.current = some lexeme) (hcreation : creation = .number)
      (hvalue : Binary64.ofString? lexeme.value = none) :
      Denies draft creation (.invalidNumber lexeme.text lexeme.position)
  | operator {lexeme} (hcurrent : draft.current = some lexeme) (hcreation : creation = .operator)
      (hsymbol : draft.operators.level? lexeme.value = none) :
      Denies draft creation (.unknownOperator lexeme.value lexeme.position)
  /-- The innermost open node waits for a name, and the new node is none. -/
  | field {lexeme form top outer} (hcurrent : draft.current = some lexeme)
      (hform : creation.form draft lexeme = .ok form) (hname : ∀ name, form ≠ .identifier name)
      (hstack : draft.stack = top :: outer) (hfield : top.form.hasOpenField = true) :
      Denies draft creation (.unexpectedToken lexeme "")

/-- What a creation makes of the open nodes when it succeeds. -/
structure Creates (draft : Draft) (creation : Creation) (lexeme : Lexeme) (form : Form)
    (stack : List Branch) : Prop where
  current : draft.current = some lexeme
  chooses : creation.form draft lexeme = .ok form
  places : Places ⟨draft.created, form, lexeme.position, []⟩ (draft.ground lexeme.position) stack

theorem IsSound.stacked_ground (h : draft.IsSound) (position : Position) :
    Stacked (draft.ground position) := by
  cases hstack : draft.stack with
  | nil =>
      rw [ground_of_nil hstack]
      exact .ground rfl (Branch.isSound_of_children_eq_nil rfl)
  | cons top outer =>
      rw [ground_of_cons hstack, ← hstack]
      exact h.stack.resolve_left (by simp [hstack])

theorem denies_of_form {creation : Creation} {lexeme : Lexeme} {e : ParseError}
    (hcurrent : draft.current = some lexeme) (h : creation.form draft lexeme = .error e) :
    Denies draft creation e := by
  cases creation with
  | number =>
      simp only [Creation.form] at h
      split at h <;> cases h
      exact .number hcurrent rfl (by assumption)
  | operator =>
      simp only [Creation.form] at h
      split at h <;> cases h
      exact .operator hcurrent rfl (by assumption)
  | identifier =>
      simp only [Creation.form] at h
      split at h <;> cases h
  | _ => cases h

theorem openStatement_of_cons {top : Branch} {outer : List Branch}
    (hstack : draft.stack = top :: outer) (position : Position) :
    openStatement position draft = draft := by
  simp only [openStatement, hstack]

/-- Once a statement is open, a new node finds its place, or the innermost open node waits for a
name and nothing changes. A node that has taken something over is always taken in, since what had a
child before has no open field. -/
theorem place_cases_of_cons {new top : Branch} {outer : List Branch}
    (hstack : draft.stack = top :: outer) (hground : Stacked draft.stack) :
    (top.form.hasOpenField = true ∧ new.toSlot? = none ∧
      place new draft = (.error draft.unexpected, draft)) ∨
    ∃ stack, Places new draft.stack stack ∧
      place new draft = (.ok (), { draft with stack := stack }) := by
  have hstarted := openStatement_of_cons hstack new.position
  cases hleaf : new.form.isLeaf with
  | true =>
      have hplace : place new draft = hang new draft := by
        simp only [place, hstarted, hleaf, if_true]
      rw [hplace]
      rcases hang_cases hstack new with hdenied | ⟨grown, htakes, hhang⟩
      · exact .inl hdenied
      · rw [hleaf, if_pos rfl] at hhang
        exact .inr ⟨_, hstack ▸ .leaf hleaf htakes, hhang⟩
  | false =>
      obtain ⟨⟨grown, left⟩, hregroup⟩ :=
        Option.ne_none_iff_exists'.1 (regroup?_ne_none new draft.stack)
      have hregroups := regroups_of_regroup? hregroup
      have hplace : place new draft = hang grown { draft with stack := left } := by
        simp only [place, hstarted, hleaf, hregroup, Bool.false_eq_true, if_false]
      rw [hplace]
      have hgrown : grown.form.isLeaf = false := by
        rw [← Form.isLeaf_bare, hregroups.bare, Form.isLeaf_bare, hleaf]
      cases hregroups with
      | stays =>
          rcases hang_cases hstack new with hdenied | ⟨grown, htakes, hhang⟩
          · exact .inl hdenied
          · have hfield := htakes.hasOpenField_eq_false (Branch.toSlot?_eq_none hleaf)
            rw [hleaf] at hhang
            exact .inr ⟨_, .opened hleaf (hstack ▸ .stays) hfield, hhang⟩
      | @takes parent last _ rest hcloses htakes =>
          -- The last child of `parent` has been taken over, so `parent` had no open field.
          obtain ⟨-, -, hfield⟩ := (hcloses.stacked hground).of_enclose
          rcases @hang_cases { draft with stack := parent :: rest } parent rest rfl grown with
            ⟨hopen, -⟩ | ⟨_, -, hhang⟩
          · rw [hfield] at hopen
            cases hopen
          · rw [hgrown] at hhang
            exact .inr ⟨_, .opened hleaf (.takes hcloses htakes) hfield, hhang⟩

/-- A new node finds its place, in a statement that is opened for it if there is none, or the
innermost open node waits for a name and nothing changes. -/
theorem place_cases (new : Branch) (h : draft.stack = [] ∨ Stacked draft.stack) :
    (∃ top outer, draft.stack = top :: outer ∧ top.form.hasOpenField = true ∧
      new.toSlot? = none ∧ place new draft = (.error draft.unexpected, draft)) ∨
    ∃ stack, Places new (openStatement new.position draft).stack stack ∧
      place new draft = (.ok (), { openStatement new.position draft with stack := stack }) := by
  rcases h with hnil | hstacked
  · right
    have hground : (openStatement new.position draft).stack =
        [⟨draft.created, .statement, new.position, []⟩] := by
      simp only [openStatement, hnil]
    have hstacked : Stacked (openStatement new.position draft).stack := by
      rw [hground]
      exact .ground rfl (Branch.isSound_of_children_eq_nil rfl)
    have hplace : place new draft = place new (openStatement new.position draft) := by
      have hagain := openStatement_of_cons hground new.position
      simp only [place, hagain]
    rw [hplace]
    rcases place_cases_of_cons hground hstacked with ⟨hfield, -⟩ | hplaced
    · cases hfield
    · exact hplaced
  · obtain ⟨top, outer, hstack⟩ := List.exists_cons_of_ne_nil hstacked.ne_nil
    rw [openStatement_of_cons hstack]
    rcases place_cases_of_cons hstack hstacked with hdenied | hplaced
    · exact .inl ⟨top, outer, hstack, hdenied⟩
    · exact .inr hplaced

/-- All that a creation can do: it fails for one of four reasons and leaves everything but the
count of nodes as it was, or it puts one node in. -/
theorem IsSound.create_cases (h : draft.IsSound) (creation : Creation) :
    (∃ e created, Denies draft creation e ∧ draft.created ≤ created ∧
      creation.action draft = (.error e, { draft with created := created })) ∨
    ∃ lexeme form stack, Creates draft creation lexeme form stack ∧
      creation.action draft =
        (.ok (), { openStatement lexeme.position { draft with created := draft.created + 1 } with
          stack := stack }) := by
  rw [creation.action_eq]
  obtain hcurrent | ⟨lexeme, hcurrent⟩ := Option.eq_none_or_eq_some draft.current
  · have hdenied : create (fun draft lexeme => creation.form draft lexeme) draft =
        (.error noLexeme, draft) := by
      simp only [create, hcurrent]
    exact .inl ⟨_, draft.created, .lexeme hcurrent, Nat.le_refl _, hdenied⟩
  · rcases hform : creation.form draft lexeme with e | form
    · have hdenied : create (fun draft lexeme => creation.form draft lexeme) draft =
          (.error e, draft) := by
        simp only [create, hcurrent, hform]
      exact .inl ⟨e, draft.created, denies_of_form hcurrent hform, Nat.le_refl _, hdenied⟩
    · rw [create_eq_place hcurrent hform]
      rcases @place_cases { draft with created := draft.created + 1 }
          ⟨draft.created, form, lexeme.position, []⟩ h.stack with
        ⟨top, outer, hstack, hfield, hslot, hplace⟩ | ⟨stack, hplaces, hplace⟩
      · refine .inl ⟨_, draft.created + 1, ?_, Nat.le_succ _, hplace⟩
        rw [unexpected, hcurrent]
        refine .field hcurrent hform ?_ hstack hfield
        rintro name rfl
        cases hslot
      · exact .inr ⟨lexeme, form, stack, ⟨hcurrent, hform, hplaces⟩, hplace⟩

/-- A creation keeps a draft sound. -/
theorem IsSound.create (h : draft.IsSound) (creation : Creation) :
    (creation.action draft).2.IsSound := by
  rcases h.create_cases creation with
    ⟨e, created, -, -, hdenied⟩ | ⟨lexeme, form, stack, hcreates, hcreated⟩
  · rw [hdenied]
    exact ⟨h.closed, h.stack⟩
  · rw [hcreated]
    obtain ⟨created, hopen⟩ :=
      openStatement_eq lexeme.position { draft with created := draft.created + 1 }
    refine ⟨?_, .inr (hcreates.places.stacked (h.stacked_ground _)
      (Branch.isSound_of_children_eq_nil rfl) (Creation.of_form hcreates.chooses).1)⟩
    rw [hopen]
    exact h.closed

/-! ## Closing -/

/-- What closing can leave: open nodes closed into the ones around them, up to the statement. -/
inductive Shuts (draft : Draft) : Draft → Prop
  | closes {stack} (hcloses : Closes draft.stack stack) : Shuts draft { draft with stack := stack }
  | ends {statement} (hcloses : Closes draft.stack [statement]) :
      Shuts draft { draft with closed := statement :: draft.closed, stack := [] }

theorem Shuts.trans {first second third : Draft} (hfirst : Shuts first second)
    (hsecond : Shuts second third) : Shuts first third := by
  cases hfirst with
  | closes hcloses =>
      cases hsecond with
      | closes hmore => exact .closes (hcloses.trans hmore)
      | ends hmore => exact .ends (hcloses.trans hmore)
  | ends hcloses =>
      cases hsecond with
      | closes hmore =>
          cases hmore
          exact .ends hcloses
      | ends hmore => cases hmore

theorem shuts_closeNode (draft : Draft) : Shuts draft (closeNode draft).2 := by
  rw [closeNode]
  split
  · exact .closes .refl
  · next hstack => exact .ends (hstack ▸ .refl)
  · next hstack => exact .closes (hstack ▸ .close .refl)

theorem shuts_closeBy (rule : Form → Closing) (draft : Draft) :
    Shuts draft (closeBy rule draft).2 := by
  fun_induction closeBy rule draft with
  | case1 | case3 | case4 => exact .closes .refl
  | case2 draft => exact shuts_closeNode draft
  | case5 draft node outer hstack hpasses ih => exact (shuts_closeNode draft).trans ih

theorem shuts_closer (closer : Closer) (draft : Draft) : Shuts draft (closer.action draft).2 := by
  cases closer with
  | node => exact shuts_closeNode draft
  | statement | bracket | argument => exact shuts_closeBy _ draft

theorem IsSound.shuts (h : draft.IsSound) (hshuts : Shuts draft left) : left.IsSound := by
  cases hshuts with
  | closes hcloses =>
      refine ⟨h.closed, ?_⟩
      rcases h.stack with hnil | hstacked
      · rw [hnil] at hcloses
        cases hcloses
        exact .inl rfl
      · exact .inr (hcloses.stacked hstacked)
  | ends hcloses =>
      refine ⟨?_, .inl rfl⟩
      rcases h.stack with hnil | hstacked
      · rw [hnil] at hcloses
        cases hcloses
      · exact List.forall_mem_cons.2 ⟨hcloses.stacked hstacked, h.closed⟩

theorem Shuts.created_eq (h : Shuts draft left) : left.created = draft.created := by
  cases h <;> rfl

/-- Closing does not change the statements, which are taken as if all that is open were closed. -/
theorem Shuts.statements_eq (h : Shuts draft left) : left.statements = draft.statements := by
  cases h with
  | closes hcloses => simp only [statements, hcloses.closeUp_eq]
  | @ends statement hcloses =>
      have hup : closeUp draft.stack = some statement := hcloses.closeUp_eq.symm
      have hnone : closeUp [] = none := rfl
      simp [statements, hup, hnone]

/-! ## Runs of calls -/

theorem IsSound.run (h : draft.IsSound) (call : Call) : (call.action draft).2.IsSound := by
  cases call with
  | feed lexeme lookahead => exact ⟨h.closed, h.stack⟩
  | create creation => exact h.create creation
  | close closer => exact h.shuts (shuts_closer closer draft)

theorem IsSound.after (h : draft.IsSound) (calls : List Call) : (draft.after calls).IsSound := by
  induction calls generalizing draft with
  | nil => exact h
  | cons call rest ih => exact ih (h.run call)

/-- A creation that fails has changed nothing but the count of nodes, whatever has been done to the
draft before. -/
theorem unchanged_of_create_eq_error {operators : OperatorTable} {calls : List Call}
    {creation : Creation} {e : ParseError}
    (h : creation.action ((empty operators).after calls) = (.error e, left)) :
    let draft := (empty operators).after calls
    Denies draft creation e ∧ left = { draft with created := left.created } ∧
      left.stack = draft.stack ∧ left.statements = draft.statements ∧
      left.toProgram = draft.toProgram := by
  intro draft
  rcases ((isSound_empty operators).after calls).create_cases creation with
    ⟨other, created, hdenies, -, hdenied⟩ | ⟨lexeme, form, stack, -, hcreated⟩
  · rw [hdenied] at h
    cases h
    exact ⟨hdenies, rfl, rfl, rfl, rfl⟩
  · rw [hcreated] at h
    cases h

/-- A declaration that waits for its name, after a group that could not be created. -/
def waiting : List Call :=
  [.create .group, .feed ⟨.letWord, "let", "let", ⟨1, 1⟩⟩ none, .create .declaration]

/-- A string cannot be the name that is declared, and nothing comes of it. -/
theorem unchanged_of_create_eq_error_waiting :
    let lexeme : Lexeme := ⟨.quoted, "'a'", "a", ⟨1, 5⟩⟩
    let draft := (empty .stock).after (waiting ++ [.feed lexeme none])
    ∃ left, Creation.string.action draft = (.error (.unexpectedToken lexeme ""), left) ∧
      draft.stack ≠ [] ∧ left.created ≠ draft.created ∧ left.stack = draft.stack ∧
      left.toProgram = draft.toProgram := by
  intro lexeme draft
  have hdenied : Creation.string.action draft =
      (.error (.unexpectedToken lexeme ""), { draft with created := draft.created + 1 }) := rfl
  obtain ⟨-, -, hstack, -, hprogram⟩ := unchanged_of_create_eq_error hdenied
  exact ⟨_, hdenied, nofun, Nat.succ_ne_self _, hstack, hprogram⟩

end Draft

end Scriptlet
