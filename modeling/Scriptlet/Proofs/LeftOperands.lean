/-
# How operators find their left operands

An operator is read right after an operand has been completed. The open operators that bind at least
as tightly come first on the way outward, and it passes them. Then it comes to a node that is looser
and takes over what this ends in, which is a complete operand. No bracket is passed before, the
search never ends without a find, and other lexemes open no operators. So the order of the open
operators lasts throughout a parse, up to its end or to the lexeme that is rejected.
-/

import Scriptlet.Proofs.OpenOperators

namespace Scriptlet

open Grammar

/-! ## Operators -/

/-- An operator finds its left operand. Looking outward it passes open operators only, all of which
bind at least as tightly. The first node that it does not pass, its host, is looser and ends in a
complete operand; this becomes the one child of the operator, which is opened inside of the host. -/
inductive Draft.TakesOperand (draft left : Draft) (lexeme : Lexeme) : Prop
  | intro {level passed host outer operand node}
      (hlevel : draft.operators.level? lexeme.value = some level)
      (hopened : draft.opened = passed ++ (host :: outer).map Branch.imprint)
      (hpassed : ∀ other ∈ passed, ∃ inner ∈ other.form.level?, level ≤ inner)
      (hbrackets : ∀ other ∈ passed, other.form.isBracket = false)
      (hfound : takeOver? (.operator lexeme.value level) none draft.stack =
        some (operand, host :: outer))
      (hhost : ∀ above ∈ host.form.level?, above < level)
      (hoperand : operand.toNode = .ok node) (hnode : node.IsExpression draft.operators)
      (htight : ∀ inner ∈ node.level? draft.operators, level ≤ inner)
      (hleft : left.stack =
        ⟨draft.created, .operator lexeme.value level, lexeme.position, [operand]⟩ :: host :: outer)

namespace Draft

variable {draft left : Draft} {lexeme : Lexeme}

theorem TakesOperand.of_feed {lookahead : Option Kind}
    (h : (draft.feed lexeme lookahead).TakesOperand left lexeme) :
    draft.TakesOperand left lexeme := by
  obtain ⟨hlevel, hopened, hpassed, hbrackets, hfound, hhost, hoperand, hnode, htight, hleft⟩ := h
  exact ⟨hlevel, hopened, hpassed, hbrackets, hfound, hhost, hoperand, hnode, htight, hleft⟩

/-- Where an operand has been completed, a registered operator takes one over. -/
theorem exists_takesOperand {start : Position} {marks : List Mark} {level : Level}
    (hcurrent : draft.current = some lexeme)
    (hlevel : draft.operators.level? lexeme.value = some level)
    (h : Completes draft.operators start draft.stack marks) :
    ∃ left, createOperator draft = (.ok (), left) ∧ draft.TakesOperand left lexeme := by
  obtain ⟨settled, hfolds, hsettled⟩ := h.exists_folds level
  obtain @⟨host, outer, _, operand, node, houter, hoperand, hnode, hhost, htight⟩ := hsettled
  obtain ⟨left, hcreates, -, -, hleft⟩ :=
    yields_operator hcurrent hlevel hfolds hoperand hhost htight houter.takesAll
  obtain ⟨passed, hpasses, hpassed⟩ := hfolds.exists_tighter
  have hopened : draft.opened = passed ++ (host :: outer).map Branch.imprint := hpasses
  have hfound : takeOver? (.operator lexeme.value level) none draft.stack =
      some (operand, host :: outer) := takeOver?_operator hfolds hoperand hhost htight
  refine ⟨left, hcreates, .intro hlevel hopened hpassed (fun other hother => ?_) hfound hhost
    hoperand.toNode hnode htight hleft⟩
  obtain ⟨inner, hinner, -⟩ := hpassed other hother
  exact Form.isBracket_of_level? (Option.ne_none_iff_exists'.2 ⟨inner, hinner⟩)

theorem createOperator_of_unregistered (hcurrent : draft.current = some lexeme)
    (hlevel : draft.operators.level? lexeme.value = none) :
    createOperator draft =
      (.error (.unknownOperator lexeme.value lexeme.position), draft) := by
  simp only [createOperator, create, hcurrent, hlevel]

end Draft

namespace Grammar

/-- What a step does with an operator. -/
inductive ReadsOperator (machine : Running) (draft : Draft) (lexeme : Lexeme)
    (lookahead : Option Kind) : Prop
  /-- No operand has been completed, and the machine does not let the operator in. -/
  | refused {e} (hstate : machine.state ∉ State.complete)
      (hstep : machine.step lexeme.kind (draft.feed lexeme lookahead) =
        (.error (.refused e), machine, draft.feed lexeme lookahead))
  /-- The operator is not registered, and no node is created. -/
  | unregistered {moved} (hlevel : draft.operators.level? lexeme.value = none)
      (hstep : machine.step lexeme.kind (draft.feed lexeme lookahead) =
        (.error (.failed (.unknownOperator lexeme.value lexeme.position)), moved,
          draft.feed lexeme lookahead))
  /-- The operator takes its left operand over. -/
  | found {moved left} (hstep : machine.step lexeme.kind (draft.feed lexeme lookahead) =
      (.ok (), moved, left)) (htakes : draft.TakesOperand left lexeme)

variable {operators : OperatorTable} {readings rest : List Reading} {machine : Running}
  {draft : Draft} {lexeme : Lexeme} {earlier : List Lexeme} {steps : List (Kind × State)}
  {state : State}

theorem Recounts.readsOperator
    (h : Recounts operators readings machine draft (.ok lexeme :: rest) earlier steps state)
    (hkind : lexeme.kind = .operator) :
    ReadsOperator machine draft lexeme (nextKind? rest) := by
  by_cases hstate : state ∈ State.complete
  · have hmove : Move state lexeme.kind .operator := hkind ▸ .operator hstate
    have hdeed : deed lexeme.kind .operator = Draft.createOperator := by
      rw [hkind]
      rfl
    obtain rfl := h.reached.operators_eq
    cases hlevel : draft.operators.level? lexeme.value with
    | none =>
        have hdenied := @Draft.createOperator_of_unregistered
          (draft.feed lexeme (nextKind? rest)) lexeme rfl hlevel
        rw [← hdeed] at hdenied
        exact .unregistered hlevel (step_of_move h.isAt hmove hdenied)
    | some level =>
        have hreached := h.reached
        obtain ⟨-, -, -, -, hstage, -, -⟩ := hreached
        have hcompletes := hstage.completes hstate (by simp [nextKind?, hkind])
        obtain ⟨left, hcreates, htakes⟩ := @Draft.exists_takesOperand
          (draft.feed lexeme (nextKind? rest)) lexeme _ _ level rfl hlevel hcompletes
        rw [← hdeed] at hcreates
        exact .found (step_of_move h.isAt hmove hcreates) htakes.of_feed
  · have hnone : ∀ next, ¬ Move state lexeme.kind next := by
      intro next hmove
      rw [hkind] at hmove
      cases hmove with
      | literal _ hliteral => simp [literals] at hliteral
      | operator hcomplete => exact hstate hcomplete
    rw [← h.isAt.state] at hstate
    exact .refused hstate (step_of_not_move h.isAt hnone _)

end Grammar

/-! ## Other lexemes -/

/-- Right after an operator a node is created. -/
theorem Grammar.exists_creation_of_operator {kind : Kind} {next : State}
    (h : Move .operator kind next) :
    ∃ creation : Creation, deed kind next = creation.action := by
  cases h with
  | literal _ hliteral =>
      simp only [literals, List.mem_cons, Prod.mk.injEq, List.not_mem_nil, or_false] at hliteral
      rcases hliteral with ⟨rfl, rfl⟩ | ⟨rfl, rfl⟩ | ⟨rfl, rfl⟩ | ⟨rfl, rfl⟩
      · exact ⟨.number, rfl⟩
      · exact ⟨.string, rfl⟩
      · exact ⟨.boolean, rfl⟩
      · exact ⟨.boolean, rfl⟩
  | innerName => exact ⟨.identifier, rfl⟩
  | group => exact ⟨.group, rfl⟩
  | _ => simp_all [State.complete, State.beginnings]

namespace Draft

variable {draft left : Draft} {new : Branch} {ground stack : List Branch} {node : Imprint}
  {state next : State} {kind : Kind} {e : ParseError}

/-- Where a new node is no operator, the open operators have been open before. -/
theorem Places.mem_of_level? (h : Places new ground stack) (hnew : new.form.level? = none)
    (hnode : node ∈ stack.map Branch.imprint) (hlevel : node.form.level? ≠ none) :
    node ∈ ground.map Branch.imprint := by
  have hne : node ≠ new.imprint := by
    rintro rfl
    rw [Branch.imprint, Form.level?_bare] at hlevel
    exact hlevel hnew
  cases h with
  | leaf _ htakes =>
      rw [List.map_cons, htakes.imprint_eq] at hnode
      exact hnode
  | opened _ hregroups =>
      cases hregroups with
      | stays => exact List.mem_of_ne_of_mem hne hnode
      | takes hcloses htakes =>
          rw [List.map_cons, htakes.imprint_eq] at hnode
          exact hcloses.map_imprint_suffix.mem (List.mem_of_ne_of_mem hne hnode)

theorem IsSound.mem_opened_of_create (h : draft.IsSound) {creation : Creation}
    (hcreation : creation ≠ .operator) (hnode : node ∈ (creation.action draft).2.opened)
    (hlevel : node.form.level? ≠ none) : node ∈ draft.opened := by
  rcases h.create_cases creation with
    ⟨_, _, -, -, hdenied⟩ | ⟨lexeme, form, stack, hcreates, hcreated⟩
  · rw [hdenied] at hnode
    exact hnode
  · rw [hcreated] at hnode
    have hform : form.level? = none := by
      by_cases hassignment : creation = .assignment
      · subst hassignment
        cases hcreates.chooses
        rfl
      · exact (Creation.level?_of_form hcreates.chooses hcreation hassignment).1
    have hground := hcreates.places.mem_of_level? hform hnode hlevel
    cases hstack : draft.stack with
    | nil =>
        rw [ground_of_nil hstack, List.map_singleton, List.mem_singleton] at hground
        subst hground
        exact absurd rfl hlevel
    | cons top outer =>
        rw [ground_of_cons hstack, ← hstack] at hground
        exact hground

/-- A creation that fails leaves the open nodes as they are. -/
theorem IsSound.stack_of_create_eq_error (h : draft.IsSound) {creation : Creation}
    (he : creation.action draft = (.error e, left)) : left.stack = draft.stack := by
  rcases h.create_cases creation with ⟨_, _, -, -, hdenied⟩ | ⟨_, _, _, -, hcreated⟩
  · cases hdenied.symm.trans he
    rfl
  · cases hcreated.symm.trans he

theorem Shuts.openCells_suffix (h : draft.Shuts left) :
    openCells left.stack <:+ openCells draft.stack := by
  cases h with
  | closes hcloses => exact hcloses.openCells_suffix
  | ends => exact List.nil_suffix

theorem Shuts.opened_suffix (h : draft.Shuts left) : left.opened <:+ draft.opened := by
  rw [← map_imprint_openCells, ← map_imprint_openCells]
  exact h.openCells_suffix.map Cell.imprint

/-- A deed opens no operator unless one has been read. -/
theorem IsSound.mem_opened_of_deed (h : draft.IsSound) (hnext : next ≠ .operator)
    (hnode : node ∈ (deed kind next draft).2.opened) (hlevel : node.form.level? ≠ none) :
    node ∈ draft.opened := by
  rcases deed_cases kind next with hdeed | ⟨creation, hdeed, hcreation⟩ | ⟨closer, hdeed⟩
  · rw [hdeed] at hnode
    exact hnode
  · rw [hdeed] at hnode
    exact h.mem_opened_of_create (mt hcreation hnext) hnode hlevel
  · rw [hdeed] at hnode
    exact (shuts_closer closer draft).opened_suffix.mem hnode

/-- A deed that fails closes open nodes at most, and none right after an operator. -/
theorem IsSound.openCells_of_deed_eq_error (h : draft.IsSound) (hmove : Move state kind next)
    (hdeed : deed kind next draft = (.error e, left)) :
    openCells left.stack <:+ openCells draft.stack ∧
      (state = .operator → left.stack = draft.stack) := by
  constructor
  · rcases deed_cases kind next with hskip | ⟨creation, hcreation, -⟩ | ⟨closer, hcloser⟩
    · rw [hskip] at hdeed
      cases hdeed
    · rw [hcreation] at hdeed
      have hstack := h.stack_of_create_eq_error hdeed
      exact hstack ▸ List.suffix_refl (openCells left.stack)
    · have hshuts := shuts_closer closer draft
      rw [← hcloser, hdeed] at hshuts
      exact hshuts.openCells_suffix
  · rintro rfl
    obtain ⟨creation, hcreation⟩ := exists_creation_of_operator hmove
    rw [hcreation] at hdeed
    exact h.stack_of_create_eq_error hdeed

end Draft

namespace Grammar

variable {operators : OperatorTable} {readings rest : List Reading} {machine moved : Running}
  {draft left : Draft} {lexeme : Lexeme} {earlier : List Lexeme} {steps : List (Kind × State)}
  {state : State} {stepError : StepError ParseError} {result : Except (StepError ParseError) Unit}
  {node : Imprint}

theorem Recounts.mem_opened
    (h : Recounts operators readings machine draft (.ok lexeme :: rest) earlier steps state)
    (hsound : draft.IsSound)
    (hstep : machine.step lexeme.kind (draft.feed lexeme (nextKind? rest)) = (result, moved, left))
    (hkind : lexeme.kind ≠ .operator) (hnode : node ∈ left.opened)
    (hlevel : node.form.level? ≠ none) : node ∈ draft.opened := by
  rcases step_cases h.isAt hstep with ⟨next, outcome, hmove, hdeed, -, -⟩ | ⟨-, -, -, rfl⟩
  · have hfed : (draft.feed lexeme (nextKind? rest)).IsSound := hsound.run (.feed _ _)
    have hafter : node ∈ (deed lexeme.kind next (draft.feed lexeme (nextKind? rest))).2.opened := by
      rw [hdeed]
      exact hnode
    exact hfed.mem_opened_of_deed (mt hmove.eq_operator_iff.1 hkind) hafter hlevel
  · exact hnode

/-- A lexeme that is rejected leaves the open operators in order. -/
theorem Recounts.operatorsInOrder_of_error
    (h : Recounts operators readings machine draft (.ok lexeme :: rest) earlier steps state)
    (hsound : draft.IsSound)
    (hstep : machine.step lexeme.kind (draft.feed lexeme (nextKind? rest)) =
      (.error stepError, moved, left)) :
    OperatorsInOrder (openCells left.stack)
      (earlier.getLast?.map Lexeme.kind = some .operator) := by
  have horder := h.operatorsInOrder
  rcases step_cases h.isAt hstep with ⟨next, outcome, hmove, hdeed, hresult, -⟩ | ⟨-, -, -, rfl⟩
  · cases outcome with
    | ok => cases hresult
    | error =>
        have hfed : (draft.feed lexeme (nextKind? rest)).IsSound := hsound.run (.feed _ _)
        obtain ⟨hsuffix, hstack⟩ := hfed.openCells_of_deed_eq_error hmove hdeed
        by_cases hstate : state = .operator
        · rw [hstack hstate]
          exact horder
        · exact horder.suffix (mt h.eq_operator_iff.2 hstate) hsuffix
  · exact horder

theorem Passes.isSound (h : Passes operators readings machine draft rest) : draft.IsSound := by
  induction h with
  | start => exact Draft.isSound_empty operators
  | @step machine moved draft grown lexeme rest h hstep ih =>
      obtain ⟨_, _, hat, -⟩ := h.exists_reached
      obtain ⟨next, -, hdeed, -⟩ := exists_move_of_step hat (.ok ()) hstep
      obtain ⟨calls, hcalls⟩ :=
        exists_calls_deed lexeme.kind next (draft.feed lexeme (nextKind? rest))
      rw [hdeed] at hcalls
      have hgrown : grown = (draft.feed lexeme (nextKind? rest)).after calls := hcalls
      rw [hgrown]
      exact (ih.run (.feed lexeme (nextKind? rest))).after calls

end Grammar

/-! ## Throughout a parse -/

namespace Grammar

/-- What becomes of the operators during a parse. -/
structure OrdersOperators (operators : OperatorTable) (readings : List Reading) : Prop where
  /-- Every operator that is let in and registered finds its left operand. -/
  finds {machine draft lexeme rest}
    (h : Passes operators readings machine draft (.ok lexeme :: rest))
    (hkind : lexeme.kind = .operator) : ReadsOperator machine draft lexeme (nextKind? rest)
  /-- Other lexemes open no operator. -/
  opens {machine moved draft left lexeme rest result}
    (h : Passes operators readings machine draft (.ok lexeme :: rest))
    (hstep : machine.step lexeme.kind (draft.feed lexeme (nextKind? rest)) = (result, moved, left))
    (hkind : lexeme.kind ≠ .operator) :
    ∀ node ∈ left.opened, node.form.level? ≠ none → node ∈ draft.opened
  /-- At every point the open operators are in order, and one of them awaits its right operand just
  if it is what has been read last. -/
  ordered {machine draft rest} (h : Passes operators readings machine draft rest) :
    ∃ earlier : List Lexeme, readings.filter matters = earlier.map .ok ++ rest ∧
      OperatorsInOrder (openCells draft.stack)
        (earlier.getLast?.map Lexeme.kind = some .operator)
  /-- They are still so when the next lexeme is rejected. -/
  rejected {machine moved draft left lexeme rest e}
    (h : Passes operators readings machine draft (.ok lexeme :: rest))
    (hstep : machine.step lexeme.kind (draft.feed lexeme (nextKind? rest)) =
      (.error e, moved, left)) :
    ∃ earlier : List Lexeme, readings.filter matters = earlier.map .ok ++ .ok lexeme :: rest ∧
      OperatorsInOrder (openCells left.stack)
        (earlier.getLast?.map Lexeme.kind = some .operator)

/-- In every parse, of any readings and with any operators: each operator finds its left operand,
which is complete, before it has passed a bracket; and at every point the open operators between
two brackets bind the more tightly the further in they are, each with both operands but for one
that has just been read. -/
theorem ordersOperators (operators : OperatorTable) (readings : List Reading) :
    OrdersOperators operators readings := by
  constructor
  case finds =>
    intro machine draft lexeme rest h hkind
    obtain ⟨earlier, steps, state, hrecounts⟩ := h.exists_recounts
    exact hrecounts.readsOperator hkind
  case opens =>
    intro machine moved draft left lexeme rest result h hstep hkind node hnode hlevel
    obtain ⟨earlier, steps, state, hrecounts⟩ := h.exists_recounts
    exact hrecounts.mem_opened h.isSound hstep hkind hnode hlevel
  case ordered =>
    intro machine draft rest h
    obtain ⟨earlier, steps, state, hrecounts⟩ := h.exists_recounts
    exact ⟨earlier, hrecounts.readings_eq, hrecounts.operatorsInOrder⟩
  case rejected =>
    intro machine moved draft left lexeme rest e h hstep
    obtain ⟨earlier, steps, state, hrecounts⟩ := h.exists_recounts
    exact ⟨earlier, hrecounts.readings_eq, hrecounts.operatorsInOrder_of_error h.isSound hstep⟩

end Grammar

/-- The open operators in `a = 2 + b * c;`, from lexeme to lexeme: their levels and how many
operands they have. -/
example : (Dialect.stock.history Dialect.productReadings).map (fun draft =>
    (openCells draft.stack).filterMap fun cell =>
      cell.form.level?.map fun level => (level.val, cell.children.length)) =
      [[], [], [], [], [(4, 1)], [(4, 2)], [(5, 1), (4, 2)], [(5, 2), (4, 2)], []] := by
  decide +kernel

end Scriptlet
