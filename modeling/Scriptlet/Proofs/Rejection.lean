/-
# Where and why a run fails

A run that fails is stopped by one reading, and in the same way whatever follows it: the one lexeme
of lookahead tells calls from names and is never the reason of a complaint. What has been taken in
before leaves a draft in order, and the machine has walked over the kinds that it was made of. So
the error is known from the lexemes up to the one that is rejected.
-/

import Scriptlet.Proofs.Soundness

namespace Scriptlet

open Grammar

/-! ## The lookahead is no reason to complain -/

namespace Draft

theorem closeNode_lookahead (draft : Draft) (lookahead : Option Kind) :
    closeNode { draft with lookahead := lookahead } =
      ((closeNode draft).1, { (closeNode draft).2 with lookahead := lookahead }) := by
  obtain ⟨operators, current, upcoming, created, closed, stack⟩ := draft
  rcases stack with - | ⟨node, - | ⟨parent, outer⟩⟩ <;> rfl

/-- Closing takes no notice of the lookahead. -/
theorem closeBy_lookahead (rule : Form → Closing) (draft : Draft) (lookahead : Option Kind) :
    closeBy rule { draft with lookahead := lookahead } =
      ((closeBy rule draft).1, { (closeBy rule draft).2 with lookahead := lookahead }) := by
  fun_induction closeBy rule draft with
  | case1 draft hstack =>
      rw [closeBy]
      split <;> simp_all [unexpected]
  | case2 draft node outer hstack hrule =>
      rw [@closeBy_closes rule { draft with lookahead := lookahead } _ _ hstack hrule]
      exact closeNode_lookahead draft lookahead
  | case3 draft node outer hstack hrule =>
      rw [@closeBy_keeps rule { draft with lookahead := lookahead } _ _ hstack hrule]
  | case4 draft node outer hstack hrule =>
      exact @closeBy_refuses rule { draft with lookahead := lookahead } _ _ hstack hrule
  | case5 draft node outer hstack hrule ih =>
      have hpasses : closeBy rule { draft with lookahead := lookahead } =
          closeBy rule (closeNode { draft with lookahead := lookahead }).2 := by
        rw [closeBy]
        split <;> simp_all
      rw [hpasses, closeNode_lookahead]
      exact ih

/-- What a closing action complains about, it complains about under any lookahead. -/
theorem closeBy_feed_eq_error {rule : Form → Closing} {draft left : Draft} {lexeme : Lexeme}
    {lookahead : Option Kind} {e : ParseError}
    (h : closeBy rule (draft.feed lexeme lookahead) = (.error e, left)) (other : Option Kind) :
    closeBy rule (draft.feed lexeme other) = (.error e, { left with lookahead := other }) := by
  have hother := closeBy_lookahead rule (draft.feed lexeme lookahead) other
  rw [h] at hother
  exact hother

end Draft

namespace Grammar

/-! ## Where a run fails -/

/-- The machine after it has taken a label, if there is a path under it. -/
def advance (machine : Running) (kind : Kind) : Running :=
  match machine.blueprint.target? machine.state kind with
  | some next => moved machine kind next
  | none => machine

/-- The machine after it has taken the kinds of lexemes. -/
def walk (machine : Running) (lexemes : List Lexeme) : Running :=
  (lexemes.map Lexeme.kind).foldl advance machine

/-- How many readings a run takes in before it fails or ends. -/
def progress (machine : Running) (draft : Draft) : List Reading → Nat
  | [] => 0
  | .error _ :: _ => 0
  | .ok lexeme :: rest =>
    match machine.step lexeme.kind (draft.feed lexeme (nextKind? rest)) with
    | (.error _, _, _) => 0
    | (.ok (), moved, grown) => progress moved grown rest + 1

/-- The errors that a reading may be rejected with: there is no path under its kind, or the action
on the path complains, or it is an error by itself. -/
inductive Rejects (operators : OperatorTable) (machine : Running) : Reading → ParseError → Prop
  | scan {e} : Rejects operators machine (.error e) (.scan e)
  | path {state lexeme} (hat : IsAt machine state)
      (hmove : ∀ next, ¬ Move state lexeme.kind next) :
      Rejects operators machine (.ok lexeme) (.unexpectedToken lexeme machine.route)
  | action {state next lexeme e} (hat : IsAt machine state) (hmove : Move state lexeme.kind next)
      (hcomplaint : Complaint operators lexeme e) :
      Rejects operators machine (.ok lexeme)
        ((StepError.failed e).onLexeme lexeme (moved machine lexeme.kind next).route)

/-- A run takes in some lexemes, is stopped by the reading after them, and fails in the same way
whatever follows that reading. -/
structure FailsAt (operators : OperatorTable) (machine : Running) (draft : Draft)
    (last : Position) (e : ParseError) (before : List Lexeme) (item : Reading)
    (after : List Reading) : Prop where
  progress : progress machine draft (before.map .ok ++ item :: after) = before.length
  rejects : Rejects operators (walk machine before) item e
  run : ∀ other, run machine draft last (before.map .ok ++ item :: other) = .error e

/-! ## Complaints -/

variable {operators : OperatorTable} {state next : State} {machine : Running} {draft left : Draft}
  {lexeme : Lexeme} {e : ParseError}

theorem Move.eq_number (h : Move state .number next) : next = .number := by
  cases h with
  | literal _ hliteral => simpa [literals] using hliteral

theorem Move.eq_operator (h : Move state .operator next) : next = .operator := by
  cases h with
  | literal _ hliteral => simp [literals] at hliteral
  | operator => rfl

theorem Move.eq_parenClose (h : Move state .parenClose next) : next = .parenClose := by
  cases h with
  | literal _ hliteral => simp [literals] at hliteral
  | _ => rfl

/-- A complaint about a lexeme does not depend on the lexeme after it. -/
theorem exists_deed_eq_error (hmove : Move state lexeme.kind next)
    (hcomplaint : Complaint draft.operators lexeme e) {lookahead : Option Kind}
    (hdeed : deed lexeme.kind next (draft.feed lexeme lookahead) = (.error e, left))
    (other : Option Kind) :
    ∃ left', deed lexeme.kind next (draft.feed lexeme other) = (.error e, left') := by
  cases hcomplaint with
  | nesting hkind =>
      simp only [List.mem_cons, List.not_mem_nil, or_false] at hkind
      rcases hkind with hkind | hkind | hkind
      · rw [hkind] at hdeed ⊢
        exact ⟨_, Draft.closeBy_feed_eq_error hdeed other⟩
      · rw [hkind] at hdeed ⊢
        exact ⟨_, Draft.closeBy_feed_eq_error hdeed other⟩
      · rw [hkind] at hdeed hmove ⊢
        obtain rfl := hmove.eq_parenClose
        exact ⟨_, Draft.closeBy_feed_eq_error hdeed other⟩
  | number hkind hvalue =>
      rw [hkind] at hmove ⊢
      obtain rfl := hmove.eq_number
      refine ⟨draft.feed lexeme other, ?_⟩
      simp only [deed, onEntering, Draft.createNumber, Draft.create, Draft.feed, hvalue]
  | operator hkind hsymbol =>
      rw [hkind] at hmove ⊢
      obtain rfl := hmove.eq_operator
      refine ⟨draft.feed lexeme other, ?_⟩
      simp only [deed, onEntering, Draft.createOperator, Draft.create, Draft.feed, hsymbol]

/-! ## Taking lexemes in -/

theorem advance_of_move (hat : IsAt machine state) {kind : Kind} (hmove : Move state kind next) :
    advance machine kind = moved machine kind next := by
  rw [advance, hat.blueprint, hat.state, target?_plan_eq_some_iff.2 hmove]

/-- A step that is not refused is a move with its deed. -/
theorem exists_move_of_step (hat : IsAt machine state) {kind : Kind} {after : Running}
    (result : Except ParseError Unit)
    (hstep : machine.step kind draft = (result.mapError StepError.failed, after, left)) :
    ∃ next, Move state kind next ∧ deed kind next draft = (result, left) ∧
      after = moved machine kind next := by
  rcases step_cases hat hstep with ⟨next, outcome, hmove, hdeed, hresult, hafter⟩ | ⟨-, hresult, -⟩
  · cases outcome <;> cases result <;> cases hresult <;> exact ⟨next, hmove, hdeed, hafter⟩
  · cases result <;> cases hresult

theorem nextKind?_append (before : List Lexeme) (item : Reading) (after other : List Reading) :
    nextKind? (before.map .ok ++ item :: after) = nextKind? (before.map .ok ++ item :: other) := by
  cases before with
  | nil => cases item <;> rfl
  | cons => rfl

/-- A lexeme that is taken in passes the failure on to what follows. -/
theorem FailsAt.cons {last : Position} {before : List Lexeme} {item : Reading}
    {after : List Reading} (hat : IsAt machine state) (hmove : Move state lexeme.kind next)
    (hdeed : deed lexeme.kind next
      (draft.feed lexeme (nextKind? (before.map .ok ++ item :: after))) = (.ok (), left))
    (h : FailsAt operators (moved machine lexeme.kind next) left lexeme.position e before item
      after) :
    FailsAt operators machine draft last e (lexeme :: before) item after := by
  refine ⟨?_, ?_, fun other => ?_⟩
  · rw [List.map_cons, List.cons_append, Grammar.progress, step_of_move hat hmove hdeed]
    exact congrArg (· + 1) h.progress
  · rw [walk, List.map_cons, List.foldl_cons, advance_of_move hat hmove]
    exact h.rejects
  · rw [nextKind?_append before item after other] at hdeed
    exact (run_cons_of_ok hat hmove hdeed last).trans (h.run other)

theorem failsAt_action {last : Position} {after : List Reading} (hat : IsAt machine state)
    (hmove : Move state lexeme.kind next) (hcomplaint : Complaint draft.operators lexeme e)
    (hdeed : deed lexeme.kind next (draft.feed lexeme (nextKind? after)) = (.error e, left)) :
    FailsAt draft.operators machine draft last
      ((StepError.failed e).onLexeme lexeme (moved machine lexeme.kind next).route) []
      (.ok lexeme) after := by
  refine ⟨?_, .action hat hmove hcomplaint, fun other => ?_⟩
  · rw [List.map_nil, List.nil_append, progress, step_of_move hat hmove hdeed]
    rfl
  · obtain ⟨left', hdeed'⟩ := exists_deed_eq_error hmove hcomplaint hdeed (nextKind? other)
    exact run_cons_of_error hat hmove hdeed' last

theorem failsAt_path {last : Position} {after : List Reading} (hat : IsAt machine state)
    (hmove : ∀ next, ¬ Move state lexeme.kind next) :
    FailsAt operators machine draft last (.unexpectedToken lexeme machine.route) [] (.ok lexeme)
      after := by
  refine ⟨?_, .path hat hmove, fun other => run_cons_of_not_move hat hmove draft last other⟩
  rw [List.map_nil, List.nil_append, progress, step_of_not_move hat hmove]
  rfl

end Grammar

namespace Reached

variable {operators : OperatorTable} {upcoming : Option Kind} {state : State} {draft : Draft}
  {lexemes : List Lexeme} {machine : Running} {last : Position}

theorem operators_eq (h : Reached operators upcoming state draft lexemes) :
    draft.operators = operators := by
  obtain ⟨hoperators, -⟩ := h
  exact hoperators

/-- A run from a draft in order that fails is stopped by one reading, and leaves a draft in order
before it. The induction is on the readings, while the lexemes that have been read grow. -/
theorem exists_failsAt {readings : List Reading} {e : ParseError} (hat : IsAt machine state)
    (h : Reached operators (nextKind? readings) state draft lexemes)
    (hrun : run machine draft last readings = .error e) :
    ∃ before item after, readings = before.map .ok ++ item :: after ∧
      FailsAt operators machine draft last e before item after ∧
      ∃ state' draft', Reached operators (nextKind? (item :: after)) state' draft'
        (lexemes ++ before) := by
  induction readings generalizing machine draft last state lexemes with
  | nil => cases hrun
  | cons reading rest ih =>
      obtain rfl := h.operators_eq
      cases reading with
      | error fault =>
          cases hrun
          exact ⟨[], .error fault, rest, rfl, ⟨rfl, .scan, fun _ => rfl⟩, state, draft,
            by simpa using h⟩
      | ok lexeme =>
          by_cases hmove : ∃ next, Move state lexeme.kind next
          · obtain ⟨next, hmove⟩ := hmove
            rcases (h.feed (nextKind? rest)).step rfl hmove with
              ⟨left, hdeed, hleft⟩ | ⟨complaint, left, hdeed, hcomplaint⟩
            · rw [run_cons_of_ok hat hmove hdeed] at hrun
              obtain ⟨before, item, after, rfl, hfails, state', draft', hreached⟩ :=
                ih (hat.moved _ _) hleft hrun
              exact ⟨lexeme :: before, item, after, rfl, hfails.cons hat hmove hdeed, state',
                draft', by simpa using hreached⟩
            · rw [run_cons_of_error hat hmove hdeed] at hrun
              cases hrun
              exact ⟨[], .ok lexeme, rest, rfl, failsAt_action hat hmove hcomplaint hdeed, state,
                draft, by simpa using h⟩
          · have hmove := not_exists.1 hmove
            rw [run_cons_of_not_move hat hmove] at hrun
            cases hrun
            exact ⟨[], .ok lexeme, rest, rfl, failsAt_path hat hmove, state, draft,
              by simpa using h⟩

end Reached

end Scriptlet
