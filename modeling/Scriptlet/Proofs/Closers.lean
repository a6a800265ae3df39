/-
# What the closing lexemes close

A semicolon, a closing parenthesis and a comma all pass over open nodes up to the innermost
bracket, or up to the statement if no bracket is open. They differ in what they do there: each
closes or keeps what it is meant for, and is blocked by anything else. So what they do is known from
the open nodes alone, and since a statement is open at the bottom only, it is known from the
brackets among them. Nothing that is closed changes: the statements are the same before and after.
-/

import Mathlib.Data.List.TakeWhile
import Scriptlet.Proofs.Ledger

namespace Scriptlet

namespace Form

/-- Whether a node is one that closing does not pass over. -/
def isBarrier : Form → Bool
  | statement | call _ | group => true
  | _ => false

/-- The barriers are the brackets and the statements. -/
theorem isBarrier_eq_true_iff {form : Form} :
    form.isBarrier = true ↔ form.isBracket = true ∨ form = statement := by
  cases form <;> simp [isBarrier, isBracket]

theorem isBracket_eq_false {form : Form} (h : form.isBarrier = false) :
    form.isBracket = false := by
  by_contra hbracket
  rw [isBarrier_eq_true_iff.2 (.inl (by simpa using hbracket))] at h
  cases h

end Form

namespace Closer

/-- What a closer does at an open node. -/
def rule : Closer → Form → Draft.Closing
  | node, _ => .closes
  | statement, .statement => .closes
  | statement, .call _ | statement, .group => .refuses
  | bracket, .call _ | bracket, .group => .closes
  | bracket, .statement => .refuses
  | argument, .call _ => .keeps
  | argument, .group | argument, .statement => .refuses
  | _, _ => .passes

/-- Whether a node is in the way of a closer, which can neither close it nor keep it. -/
def IsBlockedBy : Closer → Form → Prop
  | node, _ => False
  | statement, form => form.isBracket = true
  | bracket, form => form = .statement
  | argument, form => form = .group ∨ form = .statement

theorem rule_eq_refuses_iff {closer : Closer} {form : Form} :
    closer.rule form = .refuses ↔ closer.IsBlockedBy form := by
  cases closer <;> cases form <;> simp [rule, IsBlockedBy, Form.isBracket]

end Closer

namespace Draft

/-- The open nodes, innermost first, each by what stays with it. -/
def opened (draft : Draft) : List Imprint := draft.stack.map Branch.imprint

variable {draft : Draft} {inner outer : List Imprint} {barrier : Imprint}

theorem opened_eq_nil_iff : draft.opened = [] ↔ draft.stack = [] :=
  List.map_eq_nil_iff

theorem opened_closeNode (draft : Draft) : (closeNode draft).2.opened = draft.opened.tail := by
  obtain ⟨operators, current, lookahead, created, closed, - | ⟨node, - | ⟨parent, outer⟩⟩⟩ :=
    draft <;> rfl

theorem unexpected_closeNode (draft : Draft) :
    (closeNode draft).2.unexpected = draft.unexpected := by
  obtain ⟨operators, current, lookahead, created, closed, - | ⟨node, - | ⟨parent, outer⟩⟩⟩ :=
    draft <;> rfl

/-! ## Closing by a rule -/

/-- Nothing is closed where nothing is open. -/
theorem closeBy_of_opened_eq_nil (rule : Form → Closing) (hopened : draft.opened = []) :
    closeBy rule draft = (.error draft.unexpected, draft) := by
  rw [closeBy]
  split
  · rfl
  · next hstack =>
      rw [opened_eq_nil_iff, hstack] at hopened
      cases hopened

theorem action_closer (closer : Closer) : closer.action = closeBy closer.rule := by
  cases closer with
  | node =>
      funext draft
      rw [Closer.action]
      cases hstack : draft.stack with
      | nil =>
          rw [closeBy_of_opened_eq_nil _ (opened_eq_nil_iff.2 hstack), closeNode, hstack]
      | cons node outer => exact (closeBy_closes hstack rfl).symm
  | statement | bracket | argument =>
      refine congrArg closeBy (funext fun form => ?_)
      cases form <;> rfl

/-- Whether a rule takes no notice of names in fields, and passes over all but the barriers. -/
structure StopsAtBarriers (rule : Form → Closing) : Prop where
  bare : ∀ form : Form, rule form.bare = rule form
  passes : ∀ form : Form, rule form = .passes ↔ form.isBarrier = false

theorem closeBy_eq_of_passes {rule : Form → Closing} {node : Branch} {rest : List Branch}
    (hstack : draft.stack = node :: rest) (hrule : rule node.form = .passes) :
    closeBy rule draft = closeBy rule (closeNode draft).2 := by
  rw [closeBy]
  split <;> simp_all

/-- A rule closes the nodes inside the innermost barrier, and what it does there is the end of it.
The induction is on the nodes inside. -/
theorem closeBy_of_opened {rule : Form → Closing} (hrule : StopsAtBarriers rule)
    (hopened : draft.opened = inner ++ barrier :: outer)
    (hinner : ∀ node ∈ inner, node.form.isBarrier = false) (hbarrier : barrier.form.isBarrier) :
    (closeBy rule draft).1 =
        (if rule barrier.form = .refuses then .error draft.unexpected else .ok ()) ∧
      (closeBy rule draft).2.opened =
        if rule barrier.form = .closes then outer else barrier :: outer := by
  induction inner generalizing draft with
  | nil =>
      obtain ⟨node, rest, hstack, rfl, rfl⟩ := List.map_eq_cons_iff.1 hopened
      have hnode : rule node.imprint.form = rule node.form := hrule.bare node.form
      rw [hnode]
      cases hform : rule node.form with
      | closes =>
          rw [closeBy_closes hstack hform, opened_closeNode, hopened]
          obtain ⟨operators, current, lookahead, created, closed, stack⟩ := draft
          cases hstack
          cases rest <;> exact ⟨rfl, rfl⟩
      | keeps =>
          rw [closeBy_keeps hstack hform]
          exact ⟨rfl, hopened⟩
      | refuses =>
          rw [closeBy_refuses hstack hform]
          exact ⟨rfl, hopened⟩
      | passes =>
          rw [← hnode, hrule.passes, hbarrier] at hform
          cases hform
  | cons first inner ih =>
      obtain ⟨node, rest, hstack, rfl, -⟩ := List.map_eq_cons_iff.1 hopened
      have hpasses : rule node.form = .passes := by
        rw [← hrule.bare, hrule.passes]
        exact hinner _ List.mem_cons_self
      rw [closeBy_eq_of_passes hstack hpasses, ← unexpected_closeNode]
      apply ih _ fun other hother => hinner other (List.mem_cons_of_mem _ hother)
      rw [opened_closeNode, hopened]
      rfl

/-- Inside the innermost barrier no other is open. It is a bracket, or else the statement at the
bottom. -/
theorem IsSound.exists_barrier (h : draft.IsSound) (hne : draft.opened ≠ []) :
    ∃ inner barrier outer, draft.opened = inner ++ barrier :: outer ∧
      (∀ node ∈ inner, node.form.isBarrier = false) ∧ barrier.form.isBarrier = true ∧
      (barrier.form = .statement → outer = []) := by
  have hstacked : Stacked draft.stack := h.stack.resolve_left (mt opened_eq_nil_iff.2 hne)
  obtain ⟨above, bottom, hstack, hbottom, habove⟩ := exists_bottom hstacked
  have hopened : draft.opened = above.map Branch.imprint ++ [bottom.imprint] := by
    rw [opened, hstack, List.map_append, List.map_singleton]
  have hothers : ∀ node ∈ above.map Branch.imprint, node.form ≠ .statement := by
    simpa [Branch.imprint] using habove
  have hlast : bottom.imprint.form.isBarrier = true := by
    rw [Branch.imprint, hbottom]
    rfl
  have hsome : (draft.opened.find? fun node => node.form.isBarrier).isSome := by
    rw [hopened, List.find?_isSome]
    exact ⟨bottom.imprint, by simp, hlast⟩
  obtain ⟨barrier, hfind⟩ := Option.isSome_iff_exists.1 hsome
  obtain ⟨hbarrier, inner, outer, hsplit, hinner⟩ := List.find?_eq_some_iff_append.1 hfind
  refine ⟨inner, barrier, outer, hsplit, by simpa using hinner, hbarrier, fun hform => ?_⟩
  rcases List.eq_nil_or_concat outer with rfl | ⟨rest, last, rfl⟩
  · rfl
  · rw [hopened, List.concat_eq_append, ← List.cons_append, ← List.append_assoc] at hsplit
    have hrest := List.append_inj_left' hsplit rfl
    exact absurd hform (hothers barrier (by simp [hrest]))

/-! ## The closers -/

/-- The innermost open bracket and what is open outside of it. -/
def bracketed (draft : Draft) : List Imprint :=
  draft.opened.dropWhile fun node => !node.form.isBracket

/-- How a closer fails: nothing is open, or a node that it can neither close nor keep is open
outside of those that it closes. That node stays open. -/
inductive Blocks (draft : Draft) (closer : Closer) : Prop
  | empty (hopened : draft.opened = []) (hleft : (closer.action draft).2.opened = [])
  | node {inner node outer} (hopened : draft.opened = inner ++ node :: outer)
      (hinner : ∀ other ∈ inner, other.form.isBarrier = false)
      (hblocked : closer.IsBlockedBy node.form)
      (hleft : (closer.action draft).2.opened = node :: outer)

/-- What the closers do to a draft, told from its open nodes. -/
structure ClosesExactly (draft : Draft) : Prop where
  statement : (closeStatement draft).1 = .ok () ↔
    draft.opened ≠ [] ∧ ∀ node ∈ draft.opened, node.form.isBracket = false
  opened_statement : (closeStatement draft).1 = .ok () → (closeStatement draft).2.opened = []
  bracket : (closeBracket draft).1 = .ok () ↔ ∃ node ∈ draft.opened, node.form.isBracket = true
  opened_bracket : (closeBracket draft).1 = .ok () →
    (closeBracket draft).2.opened = draft.bracketed.tail
  argument : (closeArgument draft).1 = .ok () ↔
    ∃ call name outer, draft.bracketed = call :: outer ∧ call.form = .call name
  opened_argument : (closeArgument draft).1 = .ok () →
    (closeArgument draft).2.opened = draft.bracketed
  blocks : ∀ (closer : Closer) (e : ParseError), (closer.action draft).1 = .error e →
    e = draft.unexpected ∧ draft.Blocks closer

/-- Every closer but the one for a single node stops at barriers only. -/
theorem stopsAtBarriers_rule {closer : Closer} (h : closer ≠ .node) :
    StopsAtBarriers closer.rule := by
  constructor <;> intro form <;> cases closer with
  | node => contradiction
  | statement | bracket | argument => cases form <;> simp [Closer.rule, Form.bare, Form.isBarrier]

theorem action_of_opened_eq_nil (closer : Closer) (hopened : draft.opened = []) :
    closer.action draft = (.error draft.unexpected, draft) := by
  rw [action_closer, closeBy_of_opened_eq_nil closer.rule hopened]

/-- A closer closes the nodes inside the innermost barrier, and does there what it is meant for. -/
theorem action_of_opened {closer : Closer} (hcloser : closer ≠ .node)
    (hopened : draft.opened = inner ++ barrier :: outer)
    (hinner : ∀ node ∈ inner, node.form.isBarrier = false) (hbarrier : barrier.form.isBarrier) :
    (closer.action draft).1 =
        (if closer.rule barrier.form = .refuses then .error draft.unexpected else .ok ()) ∧
      (closer.action draft).2.opened =
        if closer.rule barrier.form = .closes then outer else barrier :: outer := by
  rw [action_closer]
  exact closeBy_of_opened (stopsAtBarriers_rule hcloser) hopened hinner hbarrier

/-- A closer that fails has been blocked. -/
theorem IsSound.blocks (h : draft.IsSound) {closer : Closer} {e : ParseError}
    (he : (closer.action draft).1 = .error e) : e = draft.unexpected ∧ draft.Blocks closer := by
  by_cases hopened : draft.opened = []
  · have hcloses := action_of_opened_eq_nil closer hopened
    rw [hcloses] at he
    cases he
    exact ⟨rfl, .empty hopened (by rw [hcloses, hopened])⟩
  by_cases hcloser : closer = .node
  · obtain ⟨node, outer, hstack⟩ := List.exists_cons_of_ne_nil (mt opened_eq_nil_iff.2 hopened)
    subst hcloser
    cases outer <;> simp [Closer.action, closeNode, hstack] at he
  · obtain ⟨inner, barrier, outer, hsplit, hinner, hbarrier, -⟩ := h.exists_barrier hopened
    obtain ⟨hresult, hleft⟩ := action_of_opened hcloser hsplit hinner hbarrier
    cases hrule : closer.rule barrier.form with
    | refuses =>
        simp only [hrule, if_true, reduceCtorEq, if_false] at hresult hleft
        rw [hresult] at he
        cases he
        exact ⟨rfl, .node hsplit hinner (Closer.rule_eq_refuses_iff.1 hrule) hleft⟩
    | closes | keeps | passes =>
        rw [hresult, hrule] at he
        cases he

/-- A closer closes the innermost nodes, and at most the outermost of them is a bracket. -/
theorem IsSound.exists_passed (h : draft.IsSound) {closer : Closer} (hcloser : closer ≠ .node) :
    ∃ passed, draft.opened = passed ++ (closer.action draft).2.opened ∧
      ∀ node ∈ passed.dropLast, node.form.isBracket = false := by
  by_cases hopened : draft.opened = []
  · exact ⟨[], by rw [action_of_opened_eq_nil closer hopened, List.nil_append], by simp⟩
  obtain ⟨inner, barrier, outer, hsplit, hinner, hbarrier, -⟩ := h.exists_barrier hopened
  obtain ⟨-, hleft⟩ := action_of_opened hcloser hsplit hinner hbarrier
  have hnone : ∀ node ∈ inner, node.form.isBracket = false := fun node hnode =>
    Form.isBracket_eq_false (hinner node hnode)
  rw [hleft, hsplit]
  split
  · exact ⟨inner ++ [barrier], by simp, by rwa [List.dropLast_concat]⟩
  · exact ⟨inner, rfl, fun node hnode => hnone node (List.dropLast_subset _ hnode)⟩

/-- The innermost barrier is the innermost bracket, if it is no statement. -/
theorem bracketed_of_opened (hopened : draft.opened = inner ++ barrier :: outer)
    (hinner : ∀ node ∈ inner, node.form.isBarrier = false)
    (hbracket : barrier.form.isBracket = true) : draft.bracketed = barrier :: outer := by
  have hpassed : ∀ node ∈ inner, (!node.form.isBracket) = true := fun node hnode => by
    simpa using Form.isBracket_eq_false (hinner node hnode)
  rw [bracketed, hopened, List.dropWhile_append_of_pos hpassed, List.dropWhile_cons_of_neg]
  simpa using hbracket

theorem IsSound.closesExactly_of_empty (h : draft.IsSound) (hopened : draft.opened = []) :
    draft.ClosesExactly := by
  have hcloses := fun rule => closeBy_of_opened_eq_nil rule hopened
  have hbracketed : draft.bracketed = [] := by rw [bracketed, hopened, List.dropWhile_nil]
  constructor
  case blocks => exact fun _ _ => h.blocks
  all_goals simp [closeStatement, closeBracket, closeArgument, hcloses, hopened, hbracketed]

/-- Inside of a bracket, a semicolon fails, a closing parenthesis closes the bracket, and a comma
depends on whether the bracket is a call. -/
theorem IsSound.closesExactly_of_bracket (h : draft.IsSound)
    (hopened : draft.opened = inner ++ barrier :: outer)
    (hinner : ∀ node ∈ inner, node.form.isBarrier = false)
    (hbracket : barrier.form.isBracket = true) : draft.ClosesExactly := by
  have hbracketed := bracketed_of_opened hopened hinner hbracket
  have hsome : ∃ node ∈ draft.opened, node.form.isBracket = true :=
    ⟨barrier, by simp [hopened], hbracket⟩
  have hnotall : ¬ ∀ node ∈ draft.opened, node.form.isBracket = false := by simpa using hsome
  have haction (closer : Closer) (hcloser : closer ≠ .node) := action_of_opened hcloser hopened
    hinner (Form.isBarrier_eq_true_iff.2 (.inl hbracket))
  have hstatement : _ ∧ (closeStatement draft).2.opened = _ := haction .statement (by simp)
  have hclose : _ ∧ (closeBracket draft).2.opened = _ := haction .bracket (by simp)
  have hargument : _ ∧ (closeArgument draft).2.opened = _ := haction .argument (by simp)
  simp only [Closer.action] at hstatement hclose hargument
  cases hform : barrier.form with
  | call | group =>
      simp only [hform, Closer.rule, reduceCtorEq, if_true, if_false] at hstatement hclose hargument
      constructor
      case statement => exact iff_of_false (by simp [hstatement]) fun hnone => hnotall hnone.2
      case bracket => exact iff_of_true hclose.1 hsome
      case blocks => exact fun _ _ => h.blocks
      all_goals simp [hstatement, hclose, hargument, hbracketed, hform]
  | _ =>
      rw [hform] at hbracket
      cases hbracket

/-- Where a statement is open and no bracket is, only a semicolon succeeds, and closes all. -/
theorem IsSound.closesExactly_of_statement (h : draft.IsSound)
    (hopened : draft.opened = inner ++ [barrier])
    (hinner : ∀ node ∈ inner, node.form.isBarrier = false)
    (hform : barrier.form = .statement) : draft.ClosesExactly := by
  have hne : draft.opened ≠ [] := by simp [hopened]
  have hnone : ∀ node ∈ draft.opened, node.form.isBracket = false := by
    rw [hopened, List.forall_mem_append, List.forall_mem_singleton, hform]
    exact ⟨fun node hnode => Form.isBracket_eq_false (hinner node hnode), rfl⟩
  have hbracketed : draft.bracketed = [] := by
    rw [bracketed, List.dropWhile_eq_nil_iff]
    simpa using hnone
  have haction (closer : Closer) (hcloser : closer ≠ .node) := action_of_opened hcloser hopened
    hinner (Form.isBarrier_eq_true_iff.2 (.inr hform))
  have hstatement : _ ∧ (closeStatement draft).2.opened = _ := haction .statement (by simp)
  have hclose : _ ∧ (closeBracket draft).2.opened = _ := haction .bracket (by simp)
  have hargument : _ ∧ (closeArgument draft).2.opened = _ := haction .argument (by simp)
  simp only [Closer.action, hform, Closer.rule, reduceCtorEq, if_true, if_false]
    at hstatement hclose hargument
  constructor
  case statement => exact iff_of_true hstatement.1 ⟨hne, hnone⟩
  case bracket => exact iff_of_false (by simp [hclose]) (by simpa using hnone)
  case blocks => exact fun _ _ => h.blocks
  all_goals simp [hstatement, hclose, hargument, hbracketed]

/-- What the closers do is known from the innermost barrier. -/
theorem IsSound.closesExactly (h : draft.IsSound) : draft.ClosesExactly := by
  by_cases hne : draft.opened = []
  · exact h.closesExactly_of_empty hne
  obtain ⟨inner, barrier, outer, hopened, hinner, hbarrier, houter⟩ := h.exists_barrier hne
  rcases Form.isBarrier_eq_true_iff.1 hbarrier with hbracket | hform
  · exact h.closesExactly_of_bracket hopened hinner hbracket
  · exact h.closesExactly_of_statement (houter hform ▸ hopened) hinner hform

/-- After any calls, failing ones among them: a semicolon closes the statement if no bracket is open
inside, a closing parenthesis closes the innermost bracket, and a comma everything inside of it if
it is a call; otherwise they fail, with the node that is in the way left open. Closing changes no
statement, and so not the program that the draft stands for. -/
theorem closers_after_calls (operators : OperatorTable) (calls : List Call) :
    let draft := (empty operators).after calls
    draft.ClosesExactly ∧ ∀ closer : Closer,
      (closer.action draft).2.statements = draft.statements ∧
      (closer.action draft).2.toProgram = draft.toProgram := by
  intro draft
  refine ⟨((isSound_empty operators).after calls).closesExactly, fun closer => ?_⟩
  have hstatements := (shuts_closer closer draft).statements_eq
  exact ⟨hstatements, by rw [toProgram, hstatements, toProgram]⟩

end Draft

end Scriptlet
