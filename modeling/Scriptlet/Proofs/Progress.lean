/-
# One lexeme after the other

A move of the grammar on a draft in order has one of three outcomes. The lexeme continues the
statement, and one more mark describes it; or it ends the statement, which holds one canonical
line; or the action complains about it. Every move is covered, so from the start a parse reaches
drafts in order only.
-/

import Scriptlet.Proofs.Awaiting

namespace Scriptlet

open Grammar Mark

/-- The errors that an action of the grammar may give for a lexeme. -/
inductive Complaint (operators : OperatorTable) (lexeme : Lexeme) : ParseError → Prop
  /-- What it is to close is not the innermost bracket or statement. -/
  | nesting (hkind : lexeme.kind ∈ [.semiColon, .comma, .parenClose]) :
      Complaint operators lexeme (.unexpectedToken lexeme "")
  | number (hkind : lexeme.kind = .number) (hvalue : Binary64.ofString? lexeme.value = none) :
      Complaint operators lexeme (.invalidNumber lexeme.text lexeme.position)
  | operator (hkind : lexeme.kind = .operator) (hsymbol : operators.level? lexeme.value = none) :
      Complaint operators lexeme (.unknownOperator lexeme.value lexeme.position)

section

variable (operators : OperatorTable) (start : Position) (marks : List Mark)
  (action : Action Draft ParseError) (lexeme : Lexeme) (draft : Draft)

/-- An action reads one more lexeme of a statement. -/
def Continues (next : State) : Prop :=
  ∃ stack mark, Draft.Yields action draft draft.closed stack ∧ mark.Describes lexeme ∧
    Stage operators start draft.lookahead next stack (marks ++ [mark])

/-- An action ends a statement that holds one canonical line. -/
def Concludes : Prop :=
  ∃ branch child, Draft.Yields action draft (branch :: draft.closed) [] ∧
    Branch.toNodes branch.children = .ok [child] ∧ branch.position = start ∧
    child.IsLine operators ∧ child.marks = marks

/-- An action complains about the current lexeme. -/
def Declines : Prop :=
  ∃ e left, action draft = (.error e, left) ∧ Complaint operators lexeme e

end

variable {operators : OperatorTable} {start : Position} {marks : List Mark} {lexeme : Lexeme}
  {draft : Draft} {state next : State}

/-! ## Operands -/

section Operand

variable {choose : Draft → Lexeme → Except ParseError Form} (form : Form) {parent : Branch}
  {outer : List Branch}

/-- A leaf completes an operand. -/
theorem Awaits.continues_leaf (node : Node) {mark : Mark}
    (hawaits : Awaits operators start parent outer marks) (hcurrent : draft.current = some lexeme)
    (hground : draft.ground lexeme.position = parent :: outer)
    (hform : choose draft lexeme = .ok form) (hleaf : form.isLeaf = true)
    (hbuild : Branch.build ⟨draft.created, form, lexeme.position, []⟩ [] = .ok node)
    (hnode : node.IsExpression operators) (hlevel : node.level? operators = none)
    (hmarks : node.marks = [mark]) (hmark : mark.Describes lexeme)
    (hnext : next ∈ [.number, .quoted, .trueWord, .falseWord, .identifier, .parenClose])
    (hupcoming : next = .identifier → draft.lookahead ≠ some .parenOpen) :
    Continues operators start marks (Draft.create choose) lexeme draft next := by
  have hbranch := Branch.isFor_of_build hbuild
    ((Form.level?_of_isLeaf hleaf).trans hlevel.symm) (by simp [hleaf])
  refine ⟨_, mark, Draft.yields_leaf hcurrent hform hleaf hground (hawaits.takesAll _), hmark,
    .complete hnext hupcoming ?_⟩
  rw [← hmarks]
  exact .intro hawaits hbranch hnode hlevel

/-- A bracket that has been closed completes an operand. -/
theorem Awaits.stage_parenClose {bracket : Branch} {node : Node}
    (houter : Awaits operators start parent outer marks) (hbracket : bracket.IsFor operators node)
    (hnode : node.IsExpression operators) (hlevel : node.level? operators = none)
    (upcoming : Option Kind) :
    Stage operators start upcoming .parenClose (parent.enclose bracket :: outer)
      (marks ++ node.marks) :=
  .complete (by simp) (by simp) (.intro houter hbracket hnode hlevel)

end Operand

/-- Closing actions complain about the nesting. -/
theorem Draft.Refuses.declines {action : Action Draft ParseError} (h : Draft.Refuses action draft)
    (hcurrent : draft.current = some lexeme)
    (hkind : lexeme.kind ∈ [.semiColon, .comma, .parenClose]) :
    Declines operators action lexeme draft := by
  obtain ⟨left, hleft⟩ := h
  refine ⟨_, left, hleft, ?_⟩
  simpa [Draft.unexpected, hcurrent] using Complaint.nesting hkind

namespace Stage

/-- The start of a statement, when one more lexeme has been read. -/
abbrev origin (start : Position) (marks : List Mark) (lexeme : Lexeme) : Position :=
  if marks = [] then lexeme.position else start

theorem origin_eq (h : Stage operators start (some lexeme.kind) state draft.stack marks)
    (hstate : state ∉ State.beginnings) : origin start marks lexeme = start :=
  if_neg (h.marks_ne_nil hstate)

section

variable (h : Stage operators start (some lexeme.kind) state draft.stack marks)
  (hcurrent : draft.current = some lexeme)

include h

/-- A parenthesis after a name does nothing, as the call has been there since the name. -/
theorem arguments (hstate : state ∈ [State.identifier, .statementIdentifier])
    (hkind : lexeme.kind = .parenOpen) :
    Continues operators start marks Action.skip lexeme draft .callOpen := by
  generalize hstack : draft.stack = stack at h
  cases h with
  | named _ _ houter =>
      refine ⟨_, sign .parenOpen, ⟨draft, rfl, rfl, rfl, hstack⟩, describes_sign.2 hkind, ?_⟩
      rw [List.append_assoc]
      exact .opened houter
  | complete h hupcoming => cases state <;> simp_all
  | target hupcoming => exact absurd (congrArg some hkind) hupcoming
  | between h => cases state <;> simp_all [State.beginnings]
  | awaiting h => cases state <;> simp_all
  | _ => simp at hstate

include hcurrent

/-- A literal completes an operand, except for a number that does not denote. -/
theorem literal (hstate : state ∈ State.beginnings ++ State.expectant)
    (hliteral : (lexeme.kind, next) ∈ literals) :
    Continues operators (origin start marks lexeme) marks (deed lexeme.kind next) lexeme draft
        next ∨
      Declines operators (deed lexeme.kind next) lexeme draft := by
  obtain ⟨parent, outer, hground, hawaits⟩ := h.exists_awaits hstate lexeme.position
  simp only [literals, List.mem_cons, Prod.mk.injEq, List.not_mem_nil, or_false] at hliteral
  rcases hliteral with ⟨hkind, rfl⟩ | ⟨hkind, rfl⟩ | ⟨hkind, rfl⟩ | ⟨hkind, rfl⟩
  · rw [hkind]
    cases hvalue : Binary64.ofString? lexeme.value with
    | some value =>
        exact .inl (hawaits.continues_leaf (.number value) (.number value lexeme.position) hcurrent
          hground (by simp [hvalue]) rfl rfl .number rfl (by rw [Node.marks])
          (describes_numeral.2 ⟨hkind, hvalue, rfl⟩) (by simp) (by simp))
    | none =>
        refine .inr ⟨_, draft, ?_, .number hkind hvalue⟩
        simp [deed, onEntering, Draft.createNumber, Draft.create, hcurrent, hvalue]
  · rw [hkind]
    change Continues _ _ _ Draft.createString _ _ _ ∨ _
    exact .inl (hawaits.continues_leaf (.string lexeme.value) (.string lexeme.value lexeme.position)
      hcurrent hground rfl rfl rfl .string rfl (by rw [Node.marks])
      (describes_word.2 ⟨hkind, rfl, rfl⟩) (by simp) (by simp))
  · rw [hkind]
    change Continues _ _ _ Draft.createBoolean _ _ _ ∨ _
    exact .inl (hawaits.continues_leaf (.boolean true) (.boolean true lexeme.position) hcurrent
      hground (by simp [hkind]) rfl rfl .boolean rfl (by simp [Node.marks])
      (describes_placed.2 ⟨hkind, rfl⟩) (by simp) (by simp))
  · rw [hkind]
    change Continues _ _ _ Draft.createBoolean _ _ _ ∨ _
    exact .inl (hawaits.continues_leaf (.boolean false) (.boolean false lexeme.position) hcurrent
      hground (by simp [hkind]) rfl rfl .boolean rfl (by simp [Node.marks])
      (describes_placed.2 ⟨hkind, rfl⟩) (by simp) (by simp))

/-- A name is called if a parenthesis follows, and stands for itself otherwise. -/
theorem name (hstate : state ∈ State.beginnings ∧ next = .statementIdentifier ∨
      state ∈ State.expectant ∧ next = .identifier) (hkind : lexeme.kind = .identifier) :
    Continues operators (origin start marks lexeme) marks Draft.createIdentifier lexeme draft
      next := by
  have hoperand : state ∈ State.beginnings ++ State.expectant := by
    rcases hstate with ⟨hstate, -⟩ | ⟨hstate, -⟩ <;> simp [hstate]
  obtain ⟨parent, outer, hground, hawaits⟩ := h.exists_awaits hoperand lexeme.position
  by_cases hcall : draft.lookahead = some .parenOpen
  · have hnext : next ∈ [State.identifier, .statementIdentifier] := by
      rcases hstate with ⟨-, rfl⟩ | ⟨-, rfl⟩ <;> simp
    exact ⟨_, callee lexeme.value lexeme.position,
      Draft.yields_call hcurrent hcall hground hawaits.takesAll,
      describes_callee.2 ⟨hkind, rfl, rfl⟩, .named hnext hcall hawaits⟩
  · rcases hstate with ⟨hstate, rfl⟩ | ⟨hstate, rfl⟩
    · obtain ⟨hstack, rfl⟩ := h.eq_nil hstate
      exact ⟨_, Mark.name ⟨lexeme.value, lexeme.position⟩,
        Draft.yields_name hcurrent hcall (Draft.ground_of_nil hstack _) rfl,
        describes_word.2 ⟨hkind, rfl, rfl⟩, .target hcall⟩
    · exact hawaits.continues_leaf (.identifier lexeme.value)
        (.identifier ⟨lexeme.value, lexeme.position⟩) hcurrent hground (by simp [hcall]) rfl rfl
        .identifier rfl (by rw [Node.marks, Mark.name])
        (describes_word.2 ⟨hkind, rfl, rfl⟩) (by simp) fun _ => hcall

/-- A parenthesis in the place of an operand opens a group. -/
theorem group (hstate : state ∈ State.beginnings ++ State.expectant)
    (hkind : lexeme.kind = .parenOpen) :
    Continues operators (origin start marks lexeme) marks Draft.createGroup lexeme draft
      .groupOpen := by
  obtain ⟨parent, outer, hground, hawaits⟩ := h.exists_awaits hstate lexeme.position
  exact ⟨_, placed .parenOpen lexeme.position,
    Draft.yields_group hcurrent hground hawaits.takesAll, describes_placed.2 ⟨hkind, rfl⟩,
    .awaiting (by simp) (.group hawaits) (by simp)⟩

/-- An operator takes its left operand from a node that is looser. -/
theorem operation (hstate : state ∈ State.complete) (hkind : lexeme.kind = .operator)
    (hoperators : draft.operators = operators) :
    Continues operators start marks Draft.createOperator lexeme draft .operator ∨
      Declines operators Draft.createOperator lexeme draft := by
  have hcompletes := h.completes hstate (by simp [hkind])
  cases hsymbol : operators.level? lexeme.value with
  | none =>
      refine .inr ⟨_, draft, ?_, .operator hkind hsymbol⟩
      simp [Draft.createOperator, Draft.create, hcurrent, hoperators, hsymbol]
  | some level =>
      subst hoperators
      obtain ⟨settled, hfolds, hsettled⟩ := hcompletes.exists_folds level
      cases hsettled with
      | intro houter hbranch hnode habove hinner =>
          refine .inl ⟨_, word .operator lexeme.value lexeme.position,
            Draft.yields_operator hcurrent hsymbol hfolds hbranch habove hinner houter.takesAll,
            describes_word.2 ⟨hkind, rfl, rfl⟩, ?_⟩
          rw [List.append_assoc]
          exact .awaiting (by simp) (.operator houter hsymbol hbranch hnode hinner habove) (by simp)

/-- A comma ends an argument of the innermost bracket, which has to be a call. -/
theorem argumentEnd (hstate : state ∈ State.complete) (hkind : lexeme.kind = .comma) :
    Continues operators start marks Draft.closeArgument lexeme draft .comma ∨
      Declines operators Draft.closeArgument lexeme draft := by
  have hdeclines : Draft.Refuses Draft.closeArgument draft →
      Declines operators Draft.closeArgument lexeme draft :=
    fun hrefuses => hrefuses.declines hcurrent (by simp [hkind])
  obtain ⟨settled, hfolds, hsettled⟩ := (h.completes hstate (by simp [hkind])).exists_folds 0
  obtain @⟨_, _, _, branch, node, houter, hbranch, hnode, habove, -⟩ := hsettled
  cases houter with
  | @call serial name position children arguments parent outer marks houter hchildren harguments =>
      refine .inl ⟨_, sign .comma, Draft.yields_closeArgument hfolds rfl,
        describes_sign.2 hkind, ?_⟩
      have hmore : ∀ argument ∈ arguments ++ [node], argument.IsExpression operators := by
        simpa [or_imp, forall_and] using ⟨harguments, hnode⟩
      have hawaits : Awaits operators start
          (Branch.enclose ⟨serial, .call name, position, children⟩ branch) (parent :: outer) _ :=
        .call houter (Branch.toNodes_cons_of_ok hchildren hbranch.toNode) hmore
      have hstage : Stage operators start draft.lookahead .comma _ _ :=
        .awaiting (by simp) hawaits (by simp)
      simpa using hstage
  | statement => exact .inr (hdeclines (Draft.refuses_closeBy (fun _ _ => rfl) hfolds rfl))
  | group => exact .inr (hdeclines (Draft.refuses_closeBy (fun _ _ => rfl) hfolds rfl))
  | declaration =>
      exact .inr (hdeclines (Draft.refuses_closeBy_line (fun _ _ => rfl) hfolds rfl rfl))
  | assignment =>
      exact .inr (hdeclines (Draft.refuses_closeBy_line (fun _ _ => rfl) hfolds rfl rfl))
  | operator => exact absurd (habove _ rfl) (Nat.not_lt_zero _)

/-- A closing parenthesis completes a group or a call. -/
theorem bracketEnd (hstate : state ∈ State.complete) (hkind : lexeme.kind = .parenClose) :
    Continues operators start marks Draft.closeBracket lexeme draft .parenClose ∨
      Declines operators Draft.closeBracket lexeme draft := by
  have hdeclines : Draft.Refuses Draft.closeBracket draft →
      Declines operators Draft.closeBracket lexeme draft :=
    fun hrefuses => hrefuses.declines hcurrent (by simp [hkind])
  obtain ⟨settled, hfolds, hsettled⟩ := (h.completes hstate (by simp [hkind])).exists_folds 0
  obtain @⟨_, _, _, branch, node, houter, hbranch, hnode, habove, -⟩ := hsettled
  cases houter with
  | @call serial name position children arguments parent outer marks houter hchildren harguments =>
      refine .inl ⟨_, sign .parenClose, Draft.yields_closeBracket hfolds rfl,
        describes_sign.2 hkind, ?_⟩
      have hmore : ∀ argument ∈ arguments ++ [node], argument.IsExpression operators := by
        simpa [or_imp, forall_and] using ⟨harguments, hnode⟩
      have hcall : (Branch.enclose ⟨serial, .call name, position, children⟩ branch).IsFor operators
          (.call ⟨name, position⟩ (arguments ++ [node]) position) :=
        Branch.isFor_call (Branch.toNodes_cons_of_ok hchildren hbranch.toNode)
      have hstage := houter.stage_parenClose hcall (.call hmore) rfl draft.lookahead
      simpa [Node.marks, Node.marksEach_eq_map, intercalate_concat, callee] using hstage
  | @group serial position parent outer marks houter =>
      refine .inl ⟨_, sign .parenClose, Draft.yields_closeBracket hfolds rfl,
        describes_sign.2 hkind, ?_⟩
      have hgroup : (Branch.enclose ⟨serial, .group, position, []⟩ branch).IsFor operators
          (.group node position) := hbranch.group
      have hstage := houter.stage_parenClose hgroup (.group hnode) rfl draft.lookahead
      simpa [Node.marks] using hstage
  | statement => exact .inr (hdeclines (Draft.refuses_closeBy (fun _ _ => rfl) hfolds rfl))
  | declaration =>
      exact .inr (hdeclines (Draft.refuses_closeBy_line (fun _ _ => rfl) hfolds rfl rfl))
  | assignment =>
      exact .inr (hdeclines (Draft.refuses_closeBy_line (fun _ _ => rfl) hfolds rfl rfl))
  | operator => exact absurd (habove _ rfl) (Nat.not_lt_zero _)

omit hcurrent in
/-- A closing parenthesis right after the opening one completes a call without arguments. -/
theorem noArguments (hstate : state = .callOpen) (hkind : lexeme.kind = .parenClose) :
    Continues operators start marks Draft.closeBracket lexeme draft .parenClose := by
  generalize hstack : draft.stack = stack at h
  cases h with
  | @opened serial name position parent outer marks houter =>
      have hfolds : Folds 0 draft.stack
          (⟨serial, .call name, position, []⟩ :: parent :: outer) := hstack ▸ .refl
      refine ⟨_, sign .parenClose, Draft.yields_closeBracket hfolds rfl, describes_sign.2 hkind, ?_⟩
      have hcall : (⟨serial, .call name, position, []⟩ : Branch).IsFor operators
          (.call ⟨name, position⟩ [] position) := Branch.isFor_call Branch.toNodes_nil
      have hstage := houter.stage_parenClose hcall (.call nofun) rfl draft.lookahead
      simpa [Node.marks, callee] using hstage
  | between h => simp_all [State.beginnings]
  | _ => simp_all

/-- A semicolon ends a statement in which no bracket is open. -/
theorem statementEnd (hstate : state ∈ State.complete) (hkind : lexeme.kind = .semiColon) :
    Concludes operators start marks Draft.closeStatement draft ∨
      Declines operators Draft.closeStatement lexeme draft := by
  have hdeclines : Draft.Refuses Draft.closeStatement draft →
      Declines operators Draft.closeStatement lexeme draft :=
    fun hrefuses => hrefuses.declines hcurrent (by simp [hkind])
  obtain ⟨settled, hfolds, hsettled⟩ := (h.completes hstate (by simp [hkind])).exists_folds 0
  obtain @⟨_, _, _, branch, node, houter, hbranch, hnode, habove, -⟩ := hsettled
  have hvalue : Branch.toNodes [branch] = .ok [node] :=
    Branch.toNodes_cons_of_ok Branch.toNodes_nil hbranch.toNode
  cases houter with
  | statement =>
      exact .inl ⟨_, node, Draft.yields_closeStatement hfolds rfl, hvalue, rfl, .expression hnode,
        by simp⟩
  | @declaration serial position target valueType =>
      have hline : (Branch.mk serial (.declaration (some target) (some valueType)) position
          [branch]).toNode =
            .ok (.declaration target.identifier valueType.identifier node position) :=
        (Branch.toNode_of_toNodes hvalue).trans rfl
      have hform : ¬ (Form.declaration (some target) (some valueType)).isBracket ∧
          Form.declaration (some target) (some valueType) ≠ .statement := by
        simp [Form.isBracket]
      exact .inl ⟨_, _, Draft.yields_closeStatement_line hfolds hform rfl,
        Branch.toNodes_cons_of_ok Branch.toNodes_nil hline, rfl, .declaration hnode,
        by simp [Node.marks]⟩
  | @assignment serial position target =>
      have hline : (Branch.mk serial (.assignment (some target)) position [branch]).toNode =
          .ok (.assignment target.identifier [node] position) :=
        (Branch.toNode_of_toNodes hvalue).trans rfl
      have hform : ¬ (Form.assignment (some target)).isBracket ∧
          Form.assignment (some target) ≠ .statement := by
        simp [Form.isBracket]
      exact .inl ⟨_, _, Draft.yields_closeStatement_line hfolds hform rfl,
        Branch.toNodes_cons_of_ok Branch.toNodes_nil hline, rfl, .assignment hnode,
        by simp [Node.marks]⟩
  | group => exact .inr (hdeclines (Draft.refuses_closeBy (fun _ _ => rfl) hfolds rfl))
  | call => exact .inr (hdeclines (Draft.refuses_closeBy (fun _ _ => rfl) hfolds rfl))
  | operator => exact absurd (habove _ rfl) (Nat.not_lt_zero _)

/-- An equals sign takes the name over that it assigns to. -/
theorem assignment (hstate : state = .statementIdentifier) (hkind : lexeme.kind = .equals) :
    Continues operators start marks Draft.createAssignment lexeme draft .assignment := by
  generalize hstack : draft.stack = stack at h
  cases h with
  | @target serial value outer =>
      exact ⟨_, placed .equals lexeme.position, Draft.yields_assignment hcurrent hstack,
        describes_placed.2 ⟨hkind, rfl⟩, .awaiting (by simp) .assignment (by simp)⟩
  | named _ hupcoming => simp [hkind] at hupcoming
  | between h => simp_all [State.beginnings]
  | _ => simp_all

/-- A declaration is opened in a statement of its own. -/
theorem declaration (hstate : state ∈ State.beginnings) (hkind : lexeme.kind = .letWord) :
    Continues operators (origin start marks lexeme) marks Draft.createDeclaration lexeme draft
      .letWord := by
  obtain ⟨hstack, rfl⟩ := h.eq_nil hstate
  exact ⟨_, placed .letWord lexeme.position,
    Draft.yields_declaration hcurrent (Draft.ground_of_nil hstack _) fun _ => rfl,
    describes_placed.2 ⟨hkind, rfl⟩, .declaring⟩

theorem declaredName (hstate : state = .letWord) (hkind : lexeme.kind = .identifier) :
    Continues operators start marks Draft.createBareIdentifier lexeme draft .letIdentifier := by
  generalize hstack : draft.stack = stack at h
  cases h with
  | declaring =>
      exact ⟨_, _, Draft.yields_bareName hcurrent (Draft.ground_of_cons hstack _) rfl,
        describes_word.2 ⟨hkind, rfl, rfl⟩, .declaringType⟩
  | between h => simp_all [State.beginnings]
  | _ => simp_all

theorem declaredType (hstate : state = .letIdentifier) (hkind : lexeme.kind = .identifier) :
    Continues operators start marks Draft.createBareIdentifier lexeme draft
      .letTypeIdentifier := by
  generalize hstack : draft.stack = stack at h
  cases h with
  | declaringType =>
      exact ⟨_, _, Draft.yields_bareName hcurrent (Draft.ground_of_cons hstack _) rfl,
        describes_word.2 ⟨hkind, rfl, rfl⟩, .declaringValue⟩
  | between h => simp_all [State.beginnings]
  | _ => simp_all

omit hcurrent in
theorem declaredValue (hstate : state = .letTypeIdentifier) (hkind : lexeme.kind = .equals) :
    Continues operators start marks Action.skip lexeme draft .letEquals := by
  generalize hstack : draft.stack = stack at h
  cases h with
  | declaringValue =>
      exact ⟨_, sign .equals, ⟨draft, rfl, rfl, rfl, hstack⟩, describes_sign.2 hkind,
        .awaiting (by simp) .declaration (by simp)⟩
  | between h => simp_all [State.beginnings]
  | _ => simp_all

end

/-- Every move continues the statement, ends it, or is complained about. -/
theorem step (h : Stage operators start (some lexeme.kind) state draft.stack marks)
    (hcurrent : draft.current = some lexeme) (hoperators : draft.operators = operators)
    (hmove : Move state lexeme.kind next) :
    Continues operators (origin start marks lexeme) marks (deed lexeme.kind next) lexeme draft
        next ∨
      (lexeme.kind = .semiColon ∧ next = .term ∧
        Concludes operators start marks (deed lexeme.kind next) draft) ∨
      Declines operators (deed lexeme.kind next) lexeme draft := by
  have hcomplete : ∀ {state : State}, state ∈ State.complete → state ∉ State.beginnings := by
    intro state
    cases state <;> simp [State.complete, State.beginnings]
  generalize hkind : lexeme.kind = kind at hmove
  cases hmove with
  | literal hstate hliteral =>
      subst hkind
      exact (h.literal hcurrent hstate hliteral).imp_right .inr
  | name hstate => exact .inl (h.name hcurrent (.inl ⟨hstate, rfl⟩) hkind)
  | innerName hstate => exact .inl (h.name hcurrent (.inr ⟨hstate, rfl⟩) hkind)
  | group hstate => exact .inl (h.group hcurrent hstate hkind)
  | arguments hstate =>
      rw [h.origin_eq (by simp at hstate; rcases hstate with rfl | rfl <;> simp [State.beginnings])]
      exact .inl (h.arguments hstate hkind)
  | noArguments =>
      rw [h.origin_eq (by simp [State.beginnings])]
      exact .inl (h.noArguments rfl hkind)
  | operator hstate =>
      rw [h.origin_eq (hcomplete hstate)]
      exact (h.operation hcurrent hstate hkind hoperators).imp_right .inr
  | argumentEnd hstate =>
      rw [h.origin_eq (hcomplete hstate)]
      exact (h.argumentEnd hcurrent hstate hkind).imp_right .inr
  | bracketEnd hstate =>
      rw [h.origin_eq (hcomplete hstate)]
      exact (h.bracketEnd hcurrent hstate hkind).imp_right .inr
  | statementEnd hstate =>
      exact .inr ((h.statementEnd hcurrent hstate hkind).imp_left fun h => ⟨rfl, rfl, h⟩)
  | assignment =>
      rw [h.origin_eq (by simp [State.beginnings])]
      exact .inl (h.assignment hcurrent rfl hkind)
  | declaration hstate => exact .inl (h.declaration hcurrent hstate hkind)
  | declaredName =>
      rw [h.origin_eq (by simp [State.beginnings])]
      exact .inl (h.declaredName hcurrent rfl hkind)
  | declaredType =>
      rw [h.origin_eq (by simp [State.beginnings])]
      exact .inl (h.declaredType hcurrent rfl hkind)
  | declaredValue =>
      rw [h.origin_eq (by simp [State.beginnings])]
      exact .inl (h.declaredValue rfl hkind)

end Stage

end Scriptlet
