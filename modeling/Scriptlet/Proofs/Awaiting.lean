/-
# What stands open during a parse

Between two lexemes the stack of a draft tells what has been read of the statement at hand. Each
open node stands for the lexemes that led to it: a bracket for its opening, a call also for the
arguments it has taken, an operator for the operand at its left. The innermost one either awaits an
operand or has just taken one in. Inside of a bracket, open operators bind the more tightly the
further in they are.

A stage ties such a stack to the state of the grammar. It depends on the lexeme that comes next in
one point: a name before a parenthesis is a call from the start.
-/

import Scriptlet.Proofs.Growth
import Scriptlet.Proofs.Transitions

namespace Scriptlet

open Mark

/-- A name before a parenthesis. The call stands where its name stands. -/
def Mark.callee (name : String) (position : Position) : Mark :=
  ⟨.identifier, .text name, [position, position]⟩

theorem Mark.describes_callee {name : String} {position : Position} {lexeme : Lexeme} :
    (callee name position).Describes lexeme ↔
      lexeme.kind = .identifier ∧ lexeme.value = name ∧ lexeme.position = position :=
  ⟨fun h => ⟨h.kind, h.content, h.places position (by simp [callee])⟩,
    fun h => ⟨h.1, h.2.1, by simpa [callee] using h.2.2⟩⟩

/-! ## Branches of expressions -/

namespace Branch

variable {operators : OperatorTable} {serial : Nat} {position : Position}

/-- A node without children builds what its form says. -/
theorem isFor_of_build {form : Form} {node : Node}
    (hbuild : build ⟨serial, form, position, []⟩ [] = .ok node)
    (hlevel : form.level? = node.level? operators)
    (hclosed : (form.isBracket || form.isLeaf) = true) :
    IsFor operators ⟨serial, form, position, []⟩ node :=
  ⟨(toNode_of_toNodes rfl).trans hbuild, hlevel, fun _ => hclosed⟩

theorem isFor_call {name : String} {children : List Branch} {arguments : List Node}
    (hchildren : toNodes children = .ok arguments) :
    IsFor operators ⟨serial, .call name, position, children⟩
      (.call ⟨name, position⟩ arguments position) :=
  ⟨toNode_of_toNodes hchildren, rfl, fun _ => rfl⟩

theorem IsFor.group {inner : Branch} {node : Node} (h : inner.IsFor operators node) :
    IsFor operators ⟨serial, .group, position, [inner]⟩ (.group node position) :=
  ⟨(toNode_of_toNodes (toNodes_cons_of_ok toNodes_nil h.toNode)).trans rfl, rfl, fun _ => rfl⟩

theorem IsFor.operator {symbol : String} {level : Level} {first second : Branch}
    {left right : Node} (hsymbol : operators.level? symbol = some level)
    (hfirst : first.IsFor operators left) (hsecond : second.IsFor operators right) :
    IsFor operators ⟨serial, .operator symbol level, position, [second, first]⟩
      (.operator symbol left right position) :=
  ⟨(toNode_of_toNodes (toNodes_cons_of_ok (toNodes_cons_of_ok toNodes_nil hfirst.toNode)
    hsecond.toNode)).trans rfl, hsymbol.symm, nofun⟩

end Branch

/-! ## Open nodes -/

section

variable (operators : OperatorTable) (start : Position)

/-- The innermost open node awaits an operand. The nodes around it follow, and the marks tell what
has been read since the start of the statement. -/
inductive Awaits : Branch → List Branch → List Mark → Prop
  | statement {serial} : Awaits ⟨serial, .statement, start, []⟩ [] []
  | declaration {serial position target valueType outer} :
      Awaits ⟨serial, .declaration (some target) (some valueType), position, []⟩
        [⟨outer, .statement, start, []⟩]
        [placed .letWord position, name target.identifier, name valueType.identifier, sign .equals]
  | assignment {serial position target outer} :
      Awaits ⟨serial, .assignment (some target), position, []⟩ [⟨outer, .statement, start, []⟩]
        [name target.identifier, placed .equals position]
  | group {serial position parent outer marks} (houter : Awaits parent outer marks) :
      Awaits ⟨serial, .group, position, []⟩ (parent :: outer)
        (marks ++ [placed .parenOpen position])
  /-- All arguments so far have been followed by a comma. -/
  | call {serial name position children arguments parent outer marks}
      (houter : Awaits parent outer marks) (hchildren : Branch.toNodes children = .ok arguments)
      (harguments : ∀ argument ∈ arguments, argument.IsExpression operators) :
      Awaits ⟨serial, .call name, position, children⟩ (parent :: outer)
        (marks ++ callee name position :: sign .parenOpen ::
          (arguments.map Node.marks).flatMap fun part => part ++ [sign .comma])
  /-- The operator binds at most as tightly as its left operand, and more tightly than the
  operator around it. -/
  | operator {serial symbol level position branch left parent outer marks}
      (houter : Awaits parent outer marks) (hsymbol : operators.level? symbol = some level)
      (hbranch : branch.IsFor operators left) (hleft : left.IsExpression operators)
      (hloose : ∀ inner ∈ left.level? operators, level ≤ inner)
      (hbelow : ∀ above ∈ parent.form.level?, above < level) :
      Awaits ⟨serial, .operator symbol level, position, [branch]⟩ (parent :: outer)
        (marks ++ (left.marks ++ [word .operator symbol position]))

/-- The innermost open node is looser than a bound, and has taken in an operand that is not. -/
inductive Settled (bound : Level) : List Branch → List Mark → Prop
  | intro {parent outer marks branch node} (houter : Awaits operators start parent outer marks)
      (hbranch : branch.IsFor operators node) (hnode : node.IsExpression operators)
      (habove : ∀ above ∈ parent.form.level?, above < bound)
      (hinner : ∀ inner ∈ node.level? operators, bound ≤ inner) :
      Settled bound (parent.enclose branch :: outer) (marks ++ node.marks)

/-- The innermost open node has taken in an operand, which is no operation. -/
inductive Completes : List Branch → List Mark → Prop
  | intro {parent outer marks branch node} (houter : Awaits operators start parent outer marks)
      (hbranch : branch.IsFor operators node) (hnode : node.IsExpression operators)
      (hlevel : node.level? operators = none) :
      Completes (parent.enclose branch :: outer) (marks ++ node.marks)

/-- The open nodes and what has been read of their statement, for each state of the grammar. -/
inductive Stage (upcoming : Option Kind) : Grammar.State → List Branch → List Mark → Prop
  | between {state} (hstate : state ∈ Grammar.State.beginnings) : Stage upcoming state [] []
  | awaiting {state parent outer marks}
      (hstate : state ∈ [.operator, .groupOpen, .comma, .assignment, .letEquals])
      (hawaits : Awaits operators start parent outer marks) (hmarks : marks ≠ []) :
      Stage upcoming state (parent :: outer) marks
  | opened {serial name position parent outer marks}
      (houter : Awaits operators start parent outer marks) :
      Stage upcoming .callOpen (⟨serial, .call name, position, []⟩ :: parent :: outer)
        (marks ++ [callee name position, sign .parenOpen])
  | complete {state stack marks}
      (hstate : state ∈ [.number, .quoted, .trueWord, .falseWord, .identifier, .parenClose])
      (hupcoming : state = .identifier → upcoming ≠ some .parenOpen)
      (hcompletes : Completes operators start stack marks) : Stage upcoming state stack marks
  /-- A name at the start of a statement, which may be assigned to. -/
  | target {serial value outer} (hupcoming : upcoming ≠ some .parenOpen) :
      Stage upcoming .statementIdentifier
        [⟨outer, .statement, start, [⟨serial, .identifier value, start, []⟩]⟩]
        [name ⟨value, start⟩]
  /-- A name that is called. -/
  | named {state serial name position parent outer marks}
      (hstate : state ∈ [.identifier, .statementIdentifier])
      (hupcoming : upcoming = some .parenOpen)
      (houter : Awaits operators start parent outer marks) :
      Stage upcoming state (⟨serial, .call name, position, []⟩ :: parent :: outer)
        (marks ++ [callee name position])
  | declaring {serial position outer} :
      Stage upcoming .letWord
        [⟨serial, .declaration none none, position, []⟩, ⟨outer, .statement, start, []⟩]
        [placed .letWord position]
  | declaringType {serial target position outer} :
      Stage upcoming .letIdentifier
        [⟨serial, .declaration (some target) none, position, []⟩, ⟨outer, .statement, start, []⟩]
        [placed .letWord position, name target.identifier]
  | declaringValue {serial target valueType position outer} :
      Stage upcoming .letTypeIdentifier
        [⟨serial, .declaration (some target) (some valueType), position, []⟩,
          ⟨outer, .statement, start, []⟩]
        [placed .letWord position, name target.identifier, name valueType.identifier]

end

variable {operators : OperatorTable} {start : Position}

theorem Awaits.takesAll {parent : Branch} {outer : List Branch} {marks : List Mark}
    (h : Awaits operators start parent outer marks) : parent.TakesAll := by
  cases h <;> exact fun _ => rfl

/-- Closing operators keeps what has been read, and stops at a node that is looser than the bound.
The induction goes outward along the stack, while the closed operand grows. -/
theorem Awaits.exists_folds {parent : Branch} {outer : List Branch} {marks : List Mark}
    (h : Awaits operators start parent outer marks) {bound : Level} {branch : Branch} {node : Node}
    (hbranch : branch.IsFor operators node) (hnode : node.IsExpression operators)
    (htight : ∀ above ∈ parent.form.level?, ∀ inner ∈ node.level? operators, above < inner)
    (hinner : ∀ inner ∈ node.level? operators, bound ≤ inner) :
    ∃ settled, Folds bound (parent.enclose branch :: outer) settled ∧
      Settled operators start bound settled (marks ++ node.marks) := by
  induction h generalizing branch node with
  | statement => exact ⟨_, .refl, .intro .statement hbranch hnode nofun hinner⟩
  | declaration => exact ⟨_, .refl, .intro .declaration hbranch hnode nofun hinner⟩
  | assignment => exact ⟨_, .refl, .intro .assignment hbranch hnode nofun hinner⟩
  | group houter => exact ⟨_, .refl, .intro (.group houter) hbranch hnode nofun hinner⟩
  | call houter hchildren harguments =>
      exact ⟨_, .refl, .intro (.call houter hchildren harguments) hbranch hnode nofun hinner⟩
  | @operator serial symbol level position first left parent outer marks houter hsymbol hfirst
      hleft hloose hbelow ih =>
      by_cases hbound : bound ≤ level
      · have htight := htight level rfl
        have hoperation : (⟨serial, .operator symbol level, position, [branch, first]⟩ :
            Branch).IsFor operators (.operator symbol left node position) :=
          hfirst.operator hsymbol hbranch
        have hlevel : (Node.operator symbol left node position).level? operators = some level :=
          hsymbol
        obtain ⟨settled, hfolds, hsettled⟩ := ih hoperation
          (.operator hsymbol hleft hnode hloose htight)
          (fun above habove inner hmem => by
            rw [hlevel, Option.mem_some_iff] at hmem
            exact hmem ▸ hbelow above habove)
          (fun inner hmem => by
            rw [hlevel, Option.mem_some_iff] at hmem
            exact hmem ▸ hbound)
        refine ⟨settled, .close rfl hbound (by simp [Branch.enclose]) hfolds, ?_⟩
        simpa [Node.marks] using hsettled
      · refine ⟨_, .refl, .intro (.operator houter hsymbol hfirst hleft hloose hbelow) hbranch hnode
          ?_ hinner⟩
        intro above habove
        rw [Form.level?_operator, Option.mem_some_iff] at habove
        exact habove ▸ Fin.not_le.1 hbound

theorem Completes.exists_folds {stack : List Branch} {marks : List Mark}
    (h : Completes operators start stack marks) (bound : Level) :
    ∃ settled, Folds bound stack settled ∧ Settled operators start bound settled marks := by
  obtain ⟨houter, hbranch, hnode, hlevel⟩ := h
  exact houter.exists_folds hbranch hnode (by simp [hlevel]) (by simp [hlevel])

namespace Stage

open Grammar

variable {upcoming : Option Kind} {state : State} {stack : List Branch} {marks : List Mark}

/-- Nothing is open where a statement may begin. -/
theorem eq_nil (h : Stage operators start upcoming state stack marks)
    (hstate : state ∈ State.beginnings) : stack = [] ∧ marks = [] := by
  cases h with
  | between => exact ⟨rfl, rfl⟩
  | awaiting h => cases state <;> simp_all [State.beginnings]
  | complete h => cases state <;> simp_all [State.beginnings]
  | named h => cases state <;> simp_all [State.beginnings]
  | _ => simp [State.beginnings] at hstate

/-- Anywhere else something has been read of the statement. -/
theorem marks_ne_nil (h : Stage operators start upcoming state stack marks)
    (hstate : state ∉ State.beginnings) : marks ≠ [] := by
  cases h with
  | between h => exact absurd h hstate
  | awaiting _ _ hmarks => exact hmarks
  | complete _ _ hcompletes =>
      obtain @⟨_, _, _, _, node, _, _, _, _⟩ := hcompletes
      obtain ⟨mark, rest, hmarks, -⟩ := node.exists_marks_eq_cons
      simp [hmarks]
  | _ => simp

/-- Where an operand is complete and no call begins, the stack has taken one in. -/
theorem completes (h : Stage operators start upcoming state stack marks)
    (hstate : state ∈ State.complete) (hupcoming : upcoming ≠ some .parenOpen) :
    Completes operators start stack marks := by
  cases h with
  | complete _ _ hcompletes => exact hcompletes
  | @target serial value outer =>
      have hname : (⟨serial, .identifier value, start, []⟩ : Branch).IsFor operators
          (.identifier ⟨value, start⟩) := Branch.isFor_of_build rfl rfl rfl
      exact .intro .statement hname .identifier rfl
  | named _ hparen => exact absurd hparen hupcoming
  | between h => cases state <;> simp_all [State.beginnings, State.complete]
  | awaiting h => cases state <;> simp_all [State.complete]
  | _ => simp [State.complete] at hstate

/-- Where an operand may begin, a new node finds one that awaits it. -/
theorem exists_awaits {draft : Draft} (h : Stage operators start upcoming state draft.stack marks)
    (hstate : state ∈ State.beginnings ++ State.expectant) (position : Position) :
    ∃ parent outer, draft.ground position = parent :: outer ∧
      Awaits operators (if marks = [] then position else start) parent outer marks := by
  generalize hstack : draft.stack = stack at h
  cases h with
  | between => exact ⟨_, _, Draft.ground_of_nil hstack position, .statement⟩
  | awaiting _ hawaits hmarks =>
      exact ⟨_, _, Draft.ground_of_cons hstack position, by rwa [if_neg hmarks]⟩
  | opened houter =>
      refine ⟨_, _, Draft.ground_of_cons hstack position, ?_⟩
      rw [if_neg (by simp)]
      exact .call houter Branch.toNodes_nil (by simp)
  | complete h => cases state <;> simp_all [State.beginnings, State.expectant]
  | named h => cases state <;> simp_all [State.beginnings, State.expectant]
  | _ => simp [State.beginnings, State.expectant] at hstate

end Stage

end Scriptlet
