/-
# Parsing what a canonical tree reads as

A parse of the lexemes that a canonical tree reads as gives the tree back. The induction is on the
tree and says what reading an expression does on top of any stack: afterwards the operators at its
right edge are open above what was open before, and closing them leaves the whole expression as the
latest child. What follows matters in one point only, as a name must not be taken for a call.
-/

import Mathlib.Data.List.Induction
import Scriptlet.Proofs.Awaiting

namespace Scriptlet

open Grammar Mark

namespace Grammar

variable {state next : State} {draft : Draft} {lexeme : Lexeme} {lexemes : List Lexeme}
  {rest : List Reading} {reached goal : State → Draft → Prop}

/-- Reading lexemes leads from a state and a draft to others with a property, and what follows is
read from there. -/
def Leads (state : State) (draft : Draft) (lexemes : List Lexeme) (rest : List Reading)
    (goal : State → Draft → Prop) : Prop :=
  ∀ machine last, IsAt machine state → ∃ machine' draft' last' state',
    run machine draft last (lexemes.map .ok ++ rest) = run machine' draft' last' rest ∧
      IsAt machine' state' ∧ goal state' draft'

theorem Leads.nil (h : goal state draft) : Leads state draft [] rest goal :=
  fun machine last hat => ⟨machine, draft, last, state, rfl, hat, h⟩

theorem Leads.cons {kind : Kind} {closed stack : List Branch} (hkind : lexeme.kind = kind)
    (hmove : Move state kind next)
    (hyields : Draft.Yields (deed kind next)
      (draft.feed lexeme (nextKind? (lexemes.map .ok ++ rest))) closed stack)
    (h : ∀ left : Draft, left.operators = draft.operators → left.closed = closed →
      left.stack = stack → Leads next left lexemes rest goal) :
    Leads state draft (lexeme :: lexemes) rest goal := by
  intro machine last hat
  subst hkind
  obtain ⟨left, hdeed, hoperators, hclosed, hstack⟩ := hyields
  obtain ⟨machine', draft', last', state', hrun, hat', hgoal⟩ :=
    h left hoperators hclosed hstack _ lexeme.position (hat.moved lexeme.kind next)
  refine ⟨machine', draft', last', state', ?_, hat', hgoal⟩
  rw [List.map_cons, List.cons_append, run_cons_of_ok hat hmove hdeed, hrun]

theorem Leads.mono (h : Leads state draft lexemes rest reached)
    (himp : ∀ state draft, reached state draft → goal state draft) :
    Leads state draft lexemes rest goal := by
  intro machine last hat
  obtain ⟨machine', draft', last', state', hrun, hat', hreached⟩ := h machine last hat
  exact ⟨machine', draft', last', state', hrun, hat', himp state' draft' hreached⟩

theorem Leads.append {further : List Lexeme}
    (hfirst : Leads state draft lexemes (further.map .ok ++ rest) reached)
    (hsecond : ∀ state draft, reached state draft → Leads state draft further rest goal) :
    Leads state draft (lexemes ++ further) rest goal := by
  intro machine last hat
  obtain ⟨machine', draft', last', state', hrun, hat', hreached⟩ := hfirst machine last hat
  obtain ⟨machine'', draft'', last'', state'', hrun', hat'', hgoal⟩ :=
    hsecond state' draft' hreached machine' last' hat'
  refine ⟨machine'', draft'', last'', state'', ?_, hat'', hgoal⟩
  rw [List.map_append, List.append_assoc, hrun, hrun']

end Grammar

/-! ## Expressions -/

section

variable (operators : OperatorTable) (closed : List Branch) (parent : Branch) (outer : List Branch)
  (node : Node)

/-- An expression has been read on top of a stack: its state is complete, and closing the operators
at its right edge leaves it as the latest child. -/
structure Bears (state : State) (draft : Draft) : Prop where
  state : state ∈ State.complete
  folds : ∀ bound, (∀ inner ∈ node.level? operators, bound ≤ inner) →
    ∃ branch : Branch, branch.IsFor operators node ∧
      Folds bound draft.stack (parent.enclose branch :: outer)
  operators : draft.operators = operators
  closed : draft.closed = closed

/-- Reading an expression where an operand is awaited bears the expression, on any stack whose
innermost node is looser and whatever follows but a parenthesis. -/
def Node.IsRead : Prop :=
  ∀ ⦃state : State⦄ ⦃draft : Draft⦄ ⦃lexemes : List Lexeme⦄ ⦃rest : List Reading⦄
    ⦃closed : List Branch⦄ ⦃parent : Branch⦄ ⦃outer : List Branch⦄,
    DescribeAll node.marks lexemes → state ∈ State.beginnings ++ State.expectant →
    draft.operators = operators → draft.closed = closed →
    draft.ground node.start = parent :: outer → parent.TakesAll →
    (∀ above ∈ parent.form.level?, ∀ inner ∈ node.level? operators, above < inner) →
    nextKind? rest ≠ some .parenOpen →
    Leads state draft lexemes rest (Bears operators closed parent outer node)

end

variable {operators : OperatorTable}

/-- What has become a child and is no operation is borne. -/
theorem Bears.of_stack {closed outer : List Branch} {parent branch : Branch} {node : Node}
    {state : State} {draft : Draft} (hstate : state ∈ State.complete)
    (hoperators : draft.operators = operators) (hclosed : draft.closed = closed)
    (hstack : draft.stack = parent.enclose branch :: outer)
    (hbranch : branch.IsFor operators node) :
    Bears operators closed parent outer node state draft :=
  ⟨hstate, fun _ _ => ⟨branch, hbranch, .of_eq hstack⟩, hoperators, hclosed⟩

/-- An operation is borne when its right operand is borne above its operator. -/
theorem Bears.operator {closed outer : List Branch} {parent branch : Branch} {serial : Nat}
    {symbol : String} {level : Level} {position : Position} {left right : Node} {state : State}
    {draft : Draft}
    (h : Bears operators closed ⟨serial, .operator symbol level, position, [branch]⟩
      (parent :: outer) right state draft) (hsymbol : operators.level? symbol = some level)
    (hbranch : branch.IsFor operators left)
    (htight : ∀ inner ∈ right.level? operators, level < inner) :
    Bears operators closed parent outer (.operator symbol left right position) state draft := by
  refine ⟨h.state, fun bound hbound => ?_, h.operators, h.closed⟩
  have hlevel : bound ≤ level := hbound level hsymbol
  obtain ⟨last, hlast, hfolds⟩ :=
    h.folds bound fun inner hinner => Fin.le_trans hlevel (Fin.le_of_lt (htight inner hinner))
  have hwhole : (Branch.enclose ⟨serial, .operator symbol level, position, [branch]⟩ last).IsFor
      operators (.operator symbol left right position) := hbranch.operator hsymbol hlast
  exact ⟨_, hwhole, hfolds.trans (.close rfl hlevel (by simp [Branch.enclose]) .refl)⟩

namespace Node

/-- A leaf is read from one lexeme. -/
theorem isRead_leaf {node : Node} {mark : Mark} {form : Form}
    (action : Action Draft ParseError) {choose : Draft → Lexeme → Except ParseError Form}
    (haction : action = Draft.create choose) (hmarks : node.marks = [mark])
    (hstart : node.start ∈ mark.places) (hleaf : form.isLeaf = true)
    (hlevel : node.level? operators = none)
    (hbuild : ∀ serial, Branch.build ⟨serial, form, node.start, []⟩ [] = .ok node)
    (hmove : ∀ {state : State}, state ∈ State.beginnings ++ State.expectant →
      ∃ next ∈ State.complete, Move state mark.kind next ∧ deed mark.kind next = action)
    (hform : ∀ {draft : Draft} {lexeme : Lexeme}, mark.Describes lexeme →
      draft.lookahead ≠ some .parenOpen → choose draft lexeme = .ok form) :
    node.IsRead operators := by
  intro state draft lexemes rest closed parent outer hlexemes hstate hoperators hclosed hground
    hparent _ hrest
  rw [hmarks] at hlexemes
  obtain ⟨lexeme, hmark, rfl⟩ := describeAll_singleton.1 hlexemes
  obtain ⟨next, hnext, hmove, hdeed⟩ := hmove hstate
  have hplace : lexeme.position = node.start := hmark.places _ hstart
  have hbranch : (⟨draft.created, form, lexeme.position, []⟩ : Branch).IsFor operators node := by
    apply Branch.isFor_of_build
    · rw [hplace]
      exact hbuild draft.created
    · rw [hlevel, Form.level?_of_isLeaf hleaf]
    · simp [hleaf]
  have hground' : (draft.feed lexeme (nextKind? rest)).ground lexeme.position =
      parent :: outer := by
    rw [Draft.ground_feed, hplace, hground]
  have hyields := Draft.yields_leaf rfl (hform hmark hrest) hleaf hground' (hparent _)
  rw [← haction, ← hdeed] at hyields
  apply Leads.cons hmark.kind hmove hyields
  intro left hleft hclosed' hstack
  exact .nil (.of_stack hnext (hleft.trans hoperators) (hclosed'.trans hclosed) hstack hbranch)

theorem isRead_identifier {target : Identifier} : (identifier target).IsRead operators := by
  apply @isRead_leaf _ _ (.name target) (.identifier target.name) Draft.createIdentifier _ rfl
    (by rw [marks]) (by simp [start, position, Mark.name, word]) rfl rfl (fun _ => rfl)
  · intro state hstate
    rcases List.mem_append.1 hstate with hstate | hstate
    · exact ⟨_, by simp [State.complete], .name hstate, rfl⟩
    · exact ⟨_, by simp [State.complete], .innerName hstate, rfl⟩
  · intro draft lexeme hmark hupcoming
    simp [hupcoming, (describes_word.1 hmark).2.1]

theorem isRead_string {value : String} {position : Position} :
    (string value position).IsRead operators := by
  apply @isRead_leaf _ _ (.word .quoted value position) (.string value) Draft.createString _ rfl
    (by rw [marks]) (by simp [start, Node.position, word]) rfl rfl (fun _ => rfl)
  · intro state hstate
    exact ⟨.quoted, by simp [State.complete], .literal hstate (by simp [literals, word]), rfl⟩
  · intro draft lexeme hmark _
    rw [(describes_word.1 hmark).2.1]

theorem isRead_number {value : Binary64} {position : Position} :
    (number value position).IsRead operators := by
  apply @isRead_leaf _ _ (.numeral value position) (.number value) Draft.createNumber _ rfl
    (by rw [marks]) (by simp [start, Node.position, numeral]) rfl rfl (fun _ => rfl)
  · intro state hstate
    exact ⟨.number, by simp [State.complete], .literal hstate (by simp [literals, numeral]), rfl⟩
  · intro draft lexeme hmark _
    simp [(describes_numeral.1 hmark).2.1]

theorem isRead_boolean {value : Bool} {position : Position} :
    (boolean value position).IsRead operators := by
  apply @isRead_leaf _ _ (.placed (if value then .trueWord else .falseWord) position)
    (.boolean value) Draft.createBoolean _ rfl (by rw [marks])
    (by simp [start, Node.position, placed]) rfl rfl (fun _ => rfl)
  · intro state hstate
    cases value with
    | true =>
        exact ⟨.trueWord, by simp [State.complete],
          .literal hstate (by simp [literals, placed]), rfl⟩
    | false =>
        exact ⟨.falseWord, by simp [State.complete],
          .literal hstate (by simp [literals, placed]), rfl⟩
  · intro draft lexeme hmark _
    cases value <;> simp [hmark.kind, placed]

/-- An expression is read up to the lexeme that ends it, where all its operators can be closed. -/
theorem IsRead.leads {node : Node} (h : node.IsRead operators) {state : State} {draft : Draft}
    {lexemes further : List Lexeme} {ending : Lexeme} {rest : List Reading}
    {closed outer : List Branch} {top : Branch} {goal : State → Draft → Prop}
    (hlexemes : DescribeAll node.marks lexemes)
    (hstate : state ∈ State.beginnings ++ State.expectant)
    (hoperators : draft.operators = operators) (hclosed : draft.closed = closed)
    (hground : draft.ground node.start = top :: outer) (htop : top.TakesAll)
    (hlevel : top.form.level? = none) (hending : ending.kind ≠ .parenOpen)
    (hgoal : ∀ state draft branch, state ∈ State.complete → draft.operators = operators →
      draft.closed = closed → Folds 0 draft.stack (top.enclose branch :: outer) →
      branch.IsFor operators node → Leads state draft (ending :: further) rest goal) :
    Leads state draft (lexemes ++ ending :: further) rest goal := by
  apply Leads.append
  · exact h hlexemes hstate hoperators hclosed hground htop (by simp [hlevel])
      (by simpa [nextKind?] using hending)
  · intro state' draft' hbears
    obtain ⟨branch, hbranch, hfolds⟩ := hbears.folds 0 fun _ _ => Nat.zero_le _
    exact hgoal state' draft' branch hbears.state hbears.operators hbears.closed hfolds hbranch

/-- A closing parenthesis bears what its bracket stands for. -/
theorem leads_parenClose {state : State} {draft : Draft} {closing : Lexeme} {rest : List Reading}
    {closed outer : List Branch} {parent bracket : Branch} {node : Node} {bound : Level}
    (hclose : closing.kind = .parenClose) (hmove : Move state .parenClose .parenClose)
    (hoperators : draft.operators = operators) (hclosed : draft.closed = closed)
    (hfolds : Folds bound draft.stack (bracket :: parent :: outer))
    (hbracket : bracket.form.isBracket = true) (hnode : bracket.IsFor operators node) :
    Leads state draft [closing] rest (Bears operators closed parent outer node) := by
  apply Leads.cons hclose hmove (Draft.yields_closeBracket hfolds hbracket)
  intro left hleft hclosed' hstack
  exact .nil (.of_stack (by simp [State.complete]) (hleft.trans hoperators)
    (hclosed'.trans hclosed) hstack hnode)

/-- A group is read between its parentheses. -/
theorem IsRead.group {inner : Node} {position : Position} (h : inner.IsRead operators) :
    (group inner position).IsRead operators := by
  intro state draft lexemes rest closed parent outer hlexemes hstate hoperators hclosed hground
    hparent _ _
  rw [marks] at hlexemes
  obtain ⟨opening, _, hopening, hfurther, rfl⟩ := describeAll_cons.1 hlexemes
  obtain ⟨inside, _, hinside, hlast, rfl⟩ := describeAll_append.1 hfurther
  obtain ⟨closing, hclosing, rfl⟩ := describeAll_singleton.1 hlast
  obtain ⟨hopen, rfl⟩ := describes_placed.1 hopening
  have hclose : closing.kind = .parenClose := describes_sign.1 hclosing
  apply Leads.cons hopen (.group hstate)
    (Draft.yields_group rfl ((Draft.ground_feed ..).trans hground) hparent)
  intro opened hopened hclosed' hstack
  apply h.leads hinside (by simp [State.expectant]) (hopened.trans hoperators)
    (hclosed'.trans hclosed) (Draft.ground_of_cons hstack _) (fun _ => rfl) rfl (by simp [hclose])
  intro state' borne branch hcomplete hborne hclosed'' hfolds hbranch
  exact leads_parenClose hclose (.bracketEnd hcomplete) hborne hclosed'' hfolds rfl hbranch.group

/-- What is left of the arguments of a call is read up to the closing parenthesis. The induction is
on the arguments, while the call takes one after the other in. -/
theorem leads_arguments {name : String} {position : Position} {arguments : List Node}
    (hne : arguments ≠ []) (hread : ∀ argument ∈ arguments, argument.IsRead operators)
    {state : State} {draft : Draft} {inside : List Lexeme} {closing : Lexeme}
    {rest : List Reading} {serial : Nat} {closed children outer : List Branch} {parent : Branch}
    {earlier : List Node}
    (hinside : DescribeAll ([sign .comma].intercalate (marksEach arguments)) inside)
    (hclose : closing.kind = .parenClose) (hstate : state ∈ [State.callOpen, .comma])
    (hoperators : draft.operators = operators) (hclosed : draft.closed = closed)
    (hstack : draft.stack = ⟨serial, .call name, position, children⟩ :: parent :: outer)
    (hchildren : Branch.toNodes children = .ok earlier) :
    Leads state draft (inside ++ [closing]) rest
      (Bears operators closed parent outer
        (.call ⟨name, position⟩ (earlier ++ arguments) position)) := by
  induction arguments generalizing state draft inside children earlier with
  | nil => contradiction
  | cons argument more ih =>
      have hexpectant : state ∈ State.beginnings ++ State.expectant := by
        simp only [List.mem_cons, List.not_mem_nil, or_false] at hstate
        rcases hstate with rfl | rfl <;> simp [State.expectant]
      have hargument : argument.IsRead operators := hread argument List.mem_cons_self
      have hground := Draft.ground_of_cons hstack argument.start
      by_cases hmore : more = []
      · subst hmore
        rw [marksEach_cons, marksEach_nil, List.intercalate_singleton] at hinside
        apply hargument.leads hinside hexpectant hoperators hclosed hground (fun _ => rfl) rfl
          (by simp [hclose])
        intro state' borne branch hcomplete hborne hclosed' hfolds hbranch
        exact leads_parenClose hclose (.bracketEnd hcomplete) hborne hclosed' hfolds rfl
          (Branch.isFor_call (Branch.toNodes_cons_of_ok hchildren hbranch.toNode))
      · have hparts : marksEach more ≠ [] := by simpa [marksEach_eq_map] using hmore
        rw [marksEach_cons, List.intercalate_cons_of_ne_nil hparts, List.append_assoc] at hinside
        obtain ⟨first, _, hfirst, hfurther, rfl⟩ := describeAll_append.1 hinside
        obtain ⟨comma, later, hcomma, hlater, rfl⟩ := describeAll_cons.1 hfurther
        have hseparate : comma.kind = .comma := describes_sign.1 hcomma
        have hothers : ∀ other ∈ more, other.IsRead operators :=
          fun other hother => hread other (List.mem_cons_of_mem _ hother)
        rw [List.append_assoc, List.cons_append, List.append_cons earlier]
        apply hargument.leads hfirst hexpectant hoperators hclosed hground (fun _ => rfl) rfl
          (by simp [hseparate])
        intro state' borne branch hcomplete hborne hclosed' hfolds hbranch
        apply Leads.cons hseparate (.argumentEnd hcomplete) (Draft.yields_closeArgument hfolds rfl)
        intro left hleft hclosed'' hstack'
        exact ih hmore hothers hlater (by simp) (hleft.trans hborne) (hclosed''.trans hclosed')
          hstack' (Branch.toNodes_cons_of_ok hchildren hbranch.toNode)

/-- A name may stand wherever an operand may begin. -/
theorem exists_move_identifier {state : State}
    (hstate : state ∈ State.beginnings ++ State.expectant) :
    ∃ next ∈ [State.identifier, .statementIdentifier], Move state .identifier next ∧
      deed .identifier next = Draft.createIdentifier := by
  rcases List.mem_append.1 hstate with hstate | hstate
  · exact ⟨_, by simp, .name hstate, rfl⟩
  · exact ⟨_, by simp, .innerName hstate, rfl⟩

/-- A call is read from its name to its closing parenthesis. -/
theorem isRead_call {name : String} {position : Position} {arguments : List Node}
    (harguments : ∀ argument ∈ arguments, argument.IsRead operators) :
    (call ⟨name, position⟩ arguments position).IsRead operators := by
  intro state draft lexemes rest closed parent outer hlexemes hstate hoperators hclosed hground
    hparent _ _
  rw [marks] at hlexemes
  obtain ⟨callee, _, hcallee, hfurther, rfl⟩ := describeAll_cons.1 hlexemes
  obtain ⟨opening, _, hopening, hlater, rfl⟩ := describeAll_cons.1 hfurther
  obtain ⟨inside, _, hinside, hlast, rfl⟩ := describeAll_append.1 hlater
  obtain ⟨closing, hclosing, rfl⟩ := describeAll_singleton.1 hlast
  obtain ⟨hname, rfl, rfl⟩ := describes_callee.1 hcallee
  have hopen : opening.kind = .parenOpen := describes_sign.1 hopening
  have hclose : closing.kind = .parenClose := describes_sign.1 hclosing
  obtain ⟨next, hnext, hmove, hdeed⟩ := exists_move_identifier hstate
  apply Leads.cons hname hmove
  · rw [hdeed]
    exact Draft.yields_call rfl (by simp [Draft.feed, nextKind?, hopen])
      ((Draft.ground_feed ..).trans hground) hparent
  intro named hnamed hclosed' hstack
  apply Leads.cons hopen (.arguments hnext) ⟨_, rfl, rfl, rfl, rfl⟩
  intro opened hopened hclosed'' hstack'
  have hoperators' : opened.operators = operators := (hopened.trans hnamed).trans hoperators
  have hkept : opened.closed = closed := (hclosed''.trans hclosed').trans hclosed
  by_cases hne : arguments = []
  · subst hne
    rw [marksEach_nil, List.intercalate_nil, describeAll_nil] at hinside
    subst hinside
    have hfolds : Folds 0 opened.stack _ := .of_eq (hstack'.trans hstack)
    exact leads_parenClose hclose .noArguments hoperators' hkept hfolds rfl
      (Branch.isFor_call Branch.toNodes_nil)
  · exact leads_arguments hne harguments hinside hclose (by simp) hoperators' hkept
      (hstack'.trans hstack) Branch.toNodes_nil

/-- An operation is read from its left operand to its right one. -/
theorem IsRead.operator {symbol : String} {level : Level} {left right : Node} {position : Position}
    (hsymbol : operators.level? symbol = some level) (hleft : left.IsRead operators)
    (hright : right.IsRead operators) (hloose : ∀ inner ∈ left.level? operators, level ≤ inner)
    (htight : ∀ inner ∈ right.level? operators, level < inner) :
    (operator symbol left right position).IsRead operators := by
  intro state draft lexemes rest closed parent outer hlexemes hstate hoperators hclosed hground
    hparent hbelow hrest
  rw [marks] at hlexemes
  obtain ⟨first, _, hfirst, hfurther, rfl⟩ := describeAll_append.1 hlexemes
  obtain ⟨sign, second, hsign, hsecond, rfl⟩ := describeAll_cons.1 hfurther
  obtain ⟨hkind, rfl, rfl⟩ := describes_word.1 hsign
  have habove : ∀ above ∈ parent.form.level?, above < level :=
    fun above habove => hbelow above habove level hsymbol
  apply Leads.append
  · exact hleft hfirst hstate hoperators hclosed hground hparent
      (fun above h inner hinner => Fin.lt_of_lt_of_le (habove above h) (hloose inner hinner))
      (by simp [nextKind?, hkind])
  intro state' borne hbears
  obtain ⟨branch, hbranch, hfolds⟩ := hbears.folds level hloose
  obtain ⟨hcomplete, -, rfl, hclosed'⟩ := hbears
  -- No operator of the left operand is looser, so the new one takes the whole of it over.
  apply Leads.cons hkind (.operator hcomplete)
    (Draft.yields_operator rfl hsymbol hfolds hbranch habove hloose hparent)
  intro opened hopened hclosed'' hstack
  apply Leads.mono
  · exact hright hsecond (by simp [State.expectant]) hopened (hclosed''.trans hclosed')
      (Draft.ground_of_cons hstack _) (fun _ => rfl)
      (fun above h => Option.mem_some_iff.1 h ▸ htight) hrest
  · exact fun _ _ hbears => hbears.operator hsymbol hbranch htight

/-- Every expression with its operators in place is read. -/
theorem IsExpression.isRead {node : Node} (h : node.IsExpression operators) :
    node.IsRead operators := by
  induction h with
  | identifier => exact isRead_identifier
  | string => exact isRead_string
  | number => exact isRead_number
  | boolean => exact isRead_boolean
  | call harguments ih => exact isRead_call ih
  | group hinner ih => exact ih.group
  | operator hsymbol hleft hright hloose htight ihleft ihright =>
      exact ihleft.operator hsymbol ihright hloose htight

end Node

/-! ## Statements and programs -/

/-- Statements have been read: nothing is open, and one more branch is closed for each. -/
structure Ends (operators : OperatorTable) (closed : List Branch) (statements : List Statement)
    (state : State) (draft : Draft) : Prop where
  state : state ∈ State.beginnings
  operators : draft.operators = operators
  stack : draft.stack = []
  closed : ∃ branches, draft.closed = branches ++ closed ∧
    List.Forall₂ Branch.Represents branches.reverse statements

theorem Ends.append {closed : List Branch} {earlier later : List Statement} {state state' : State}
    {draft draft' : Draft} (hearlier : Ends operators closed earlier state draft)
    (hlater : Ends operators draft.closed later state' draft') :
    Ends operators closed (earlier ++ later) state' draft' := by
  obtain ⟨before, hbefore, hfirst⟩ := hearlier.closed
  obtain ⟨after, hafter, hsecond⟩ := hlater.closed
  refine ⟨hlater.state, hlater.operators, hlater.stack, after ++ before, ?_, ?_⟩
  · rw [hafter, hbefore, List.append_assoc]
  · rw [List.reverse_append]
    exact List.rel_append hfirst hsecond

/-- A semicolon ends a statement that has borne its expression. -/
theorem leads_semiColon {state : State} {draft : Draft} {closing : Lexeme} {rest : List Reading}
    {closed : List Branch} {branch : Branch} {statement : Statement}
    (hclose : closing.kind = .semiColon) (hstate : state ∈ State.complete)
    (hoperators : draft.operators = operators) (hclosed : draft.closed = closed)
    (hyields : ∀ upcoming,
      Draft.Yields Draft.closeStatement (draft.feed closing upcoming) (branch :: draft.closed) [])
    (hbranch : branch.Represents statement) :
    Leads state draft [closing] rest (Ends operators closed [statement]) := by
  apply Leads.cons hclose (.statementEnd hstate) (hyields _)
  intro left hleft hclosed' hstack
  exact .nil ⟨by simp [State.beginnings], hleft.trans hoperators, hstack, [branch],
    by rw [hclosed', hclosed, List.singleton_append], .cons hbranch .nil⟩

namespace Node

section Line

variable {state : State} {draft : Draft} {lexemes : List Lexeme} {rest : List Reading}
  {closing : Lexeme} {closed : List Branch} (hclose : closing.kind = .semiColon)
  (hoperators : draft.operators = operators) (hclosed : draft.closed = closed)

include hclose hoperators hclosed

/-- The value of an assignment or a declaration is read up to the semicolon. -/
theorem IsRead.leads_value {value whole : Node} (h : value.IsRead operators) {serial : Nat}
    {line : Branch} {position : Position} (hlexemes : DescribeAll value.marks lexemes)
    (hstate : state ∈ State.expectant)
    (hstack : draft.stack = [line, ⟨serial, .statement, position, []⟩]) (hline : line.TakesAll)
    (hform : ¬ line.form.isBracket ∧ line.form ≠ .statement) (hlevel : line.form.level? = none)
    (hempty : line.children = [])
    (hbuild : ∀ branch, (line.enclose branch).build [value] = .ok whole) :
    Leads state draft (lexemes ++ [closing]) rest
      (Ends operators closed [⟨[whole], position⟩]) := by
  apply h.leads hlexemes (List.mem_append_right _ hstate) hoperators hclosed
    (Draft.ground_of_cons hstack _) hline hlevel (by simp [hclose])
  intro state' borne branch hcomplete hborne hclosed' hfolds hbranch
  have hchildren : Branch.toNodes (line.enclose branch).children = .ok [value] := by
    rw [Branch.enclose, hempty]
    exact Branch.toNodes_cons_of_ok Branch.toNodes_nil hbranch.toNode
  have hwhole := (Branch.toNode_of_toNodes hchildren).trans (hbuild branch)
  apply leads_semiColon hclose hcomplete hborne hclosed'
  · exact fun _ => Draft.yields_closeStatement_line hfolds hform rfl
  · exact ⟨Branch.toNodes_cons_of_ok Branch.toNodes_nil hwhole, rfl⟩

variable (hstate : state ∈ State.beginnings) (hstack : draft.stack = [])

include hstate hstack

theorem IsRead.leads_expression {node : Node} (h : node.IsRead operators)
    (hlexemes : DescribeAll node.marks lexemes) :
    Leads state draft (lexemes ++ [closing]) rest
      (Ends operators closed [⟨[node], node.start⟩]) := by
  apply h.leads hlexemes (List.mem_append_left _ hstate) hoperators hclosed
    (Draft.ground_of_nil hstack _) (fun _ => rfl) rfl (by simp [hclose])
  intro state' borne branch hcomplete hborne hclosed' hfolds hbranch
  apply leads_semiColon hclose hcomplete hborne hclosed'
  · exact fun _ => Draft.yields_closeStatement hfolds rfl
  · exact ⟨Branch.toNodes_cons_of_ok Branch.toNodes_nil hbranch.toNode, rfl⟩

theorem IsRead.leads_assignment {target : Identifier} {value : Node} {position : Position}
    (h : value.IsRead operators)
    (hlexemes : DescribeAll (Node.assignment target [value] position).marks lexemes) :
    Leads state draft (lexemes ++ [closing]) rest
      (Ends operators closed [⟨[.assignment target [value] position], target.position⟩]) := by
  rw [marks, marksEach_cons, marksEach_nil, List.flatten_singleton] at hlexemes
  obtain ⟨first, _, hfirst, hfurther, rfl⟩ := describeAll_cons.1 hlexemes
  obtain ⟨equals, later, hequals, hlater, rfl⟩ := describeAll_cons.1 hfurther
  obtain ⟨hname, htext, hplace⟩ := describes_word.1 hfirst
  obtain ⟨hkind, rfl⟩ := describes_placed.1 hequals
  obtain ⟨target, place⟩ := target
  subst htext hplace
  apply Leads.cons hname (.name hstate)
  · apply Draft.yields_name rfl (by simp [Draft.feed, nextKind?, hkind])
    · exact (Draft.ground_feed ..).trans (Draft.ground_of_nil hstack _)
    · rfl
  intro named hnamed hclosed₁ hstack₁
  apply Leads.cons hkind .assignment (Draft.yields_assignment rfl hstack₁)
  intro assigned hassigned hclosed₂ hstack₂
  have hoperators' : assigned.operators = operators := (hassigned.trans hnamed).trans hoperators
  have hkept : assigned.closed = closed := (hclosed₂.trans hclosed₁).trans hclosed
  exact h.leads_value hclose hoperators' hkept hlater (by simp [State.expectant]) hstack₂
    (fun _ => rfl) (by simp [Form.isBracket]) rfl rfl fun _ => rfl

theorem IsRead.leads_declaration {target valueType : Identifier} {value : Node}
    {position : Position} (h : value.IsRead operators)
    (hlexemes : DescribeAll (Node.declaration target valueType value position).marks lexemes) :
    Leads state draft (lexemes ++ [closing]) rest
      (Ends operators closed [⟨[.declaration target valueType value position], position⟩]) := by
  rw [marks] at hlexemes
  obtain ⟨word, _, hword, hfurther, rfl⟩ := describeAll_cons.1 hlexemes
  obtain ⟨first, _, hfirst, hremaining, rfl⟩ := describeAll_cons.1 hfurther
  obtain ⟨second, _, hsecond, hending, rfl⟩ := describeAll_cons.1 hremaining
  obtain ⟨equals, later, hequals, hlater, rfl⟩ := describeAll_cons.1 hending
  obtain ⟨hkind, rfl⟩ := describes_placed.1 hword
  obtain ⟨hname, htext, hplace⟩ := describes_word.1 hfirst
  obtain ⟨htype, htext', hplace'⟩ := describes_word.1 hsecond
  obtain ⟨target, place⟩ := target
  obtain ⟨valueType, place'⟩ := valueType
  subst htext hplace htext' hplace'
  apply Leads.cons hkind (.declaration hstate)
  · exact Draft.yields_declaration rfl
      ((Draft.ground_feed ..).trans (Draft.ground_of_nil hstack _)) fun _ => rfl
  intro opened hopened hclosed₁ hstack₁
  apply Leads.cons hname .declaredName
  · exact Draft.yields_bareName rfl
      ((Draft.ground_feed ..).trans (Draft.ground_of_cons hstack₁ _)) rfl
  intro named hnamed hclosed₂ hstack₂
  apply Leads.cons htype .declaredType
  · exact Draft.yields_bareName rfl
      ((Draft.ground_feed ..).trans (Draft.ground_of_cons hstack₂ _)) rfl
  intro typed htyped hclosed₃ hstack₃
  apply Leads.cons (describes_sign.1 hequals) .declaredValue ⟨_, rfl, rfl, rfl, rfl⟩
  intro left hleft hclosed₄ hstack₄
  have hoperators' : left.operators = operators :=
    (((hleft.trans htyped).trans hnamed).trans hopened).trans hoperators
  have hkept : left.closed = closed :=
    (((hclosed₄.trans hclosed₃).trans hclosed₂).trans hclosed₁).trans hclosed
  exact h.leads_value hclose hoperators' hkept hlater (by simp [State.expectant])
    (hstack₄.trans hstack₃) (fun _ => rfl) (by simp [Form.isBracket]) rfl rfl fun _ => rfl

end Line

/-- A statement is read up to its semicolon, whatever follows. -/
theorem IsLine.leads {child : Node} (h : child.IsLine operators) {state : State} {draft : Draft}
    {lexemes : List Lexeme} {rest : List Reading}
    (hlexemes : DescribeAll (child.marks ++ [sign .semiColon]) lexemes)
    (hstate : state ∈ State.beginnings) (hoperators : draft.operators = operators)
    (hstack : draft.stack = []) :
    Leads state draft lexemes rest (Ends operators draft.closed [⟨[child], child.start⟩]) := by
  obtain ⟨inside, _, hinside, hlast, rfl⟩ := describeAll_append.1 hlexemes
  obtain ⟨closing, hclosing, rfl⟩ := describeAll_singleton.1 hlast
  have hclose : closing.kind = .semiColon := describes_sign.1 hclosing
  cases h with
  | expression h => exact h.isRead.leads_expression hclose hoperators rfl hstate hstack hinside
  | assignment hvalue =>
      exact hvalue.isRead.leads_assignment hclose hoperators rfl hstate hstack hinside
  | declaration hvalue =>
      exact hvalue.isRead.leads_declaration hclose hoperators rfl hstate hstack hinside

end Node

/-- A canonical program is read statement by statement. -/
theorem Program.IsCanonical.leads {statements : List Statement}
    (h : Program.IsCanonical operators ⟨statements⟩) {lexemes : List Lexeme} {rest : List Reading}
    (hlexemes : DescribeAll (Program.marks ⟨statements⟩) lexemes) :
    Leads .start (.empty operators) lexemes rest (Ends operators [] statements) := by
  induction statements using List.reverseRecOn generalizing lexemes rest with
  | nil =>
      cases hlexemes
      exact .nil ⟨by simp [State.beginnings], rfl, rfl, [], rfl, .nil⟩
  | append_singleton earlier last ih =>
      obtain ⟨hearlier, child, hchildren, hline, hposition⟩ := isCanonical_concat.1 h
      rw [marks_concat] at hlexemes
      obtain ⟨before, after, hbefore, hafter, rfl⟩ := describeAll_append.1 hlexemes
      apply (ih hearlier hbefore).append
      intro state draft hends
      rw [Statement.marks, hchildren, List.flatMap_singleton] at hafter
      have hlast : last = ⟨[child], child.start⟩ := by
        rw [← hchildren, ← hposition]
      rw [hlast]
      exact (hline.leads (Node.describeAll_startAt.1 hafter).2 hends.state hends.operators
        hends.stack).mono fun state' draft' hlater => hends.append hlater

end Scriptlet
