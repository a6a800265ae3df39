/-
# How drafts grow

Of the many shapes that a stack of open nodes could have, a parse meets few. A new node hangs below
the innermost open node. An operator finds the operand that it takes over once the open operators
that bind at least as tightly have been closed, so looking outward for it comes to closing them
first. The closing lexemes pass over open operators in the same way. Both are said here by one
relation between stacks, and each action is then a short step from one stack to another.
-/

import Scriptlet.Proofs.Building
import Scriptlet.Proofs.Canonical

namespace Scriptlet

namespace Branch

/-- A branch that stands for an expression and can be taken over as an operand. -/
structure IsFor (operators : OperatorTable) (branch : Branch) (node : Node) : Prop where
  toNode : branch.toNode = .ok node
  level : branch.form.level? = node.level? operators
  closed : branch.form.level? = none → (branch.form.isBracket || branch.form.isLeaf) = true

/-- A branch without open fields. -/
def TakesAll (parent : Branch) : Prop :=
  ∀ child, parent.attach? child = some (parent.enclose child)

end Branch

/-- Closing open operators that bind at least as tightly as a bound, innermost first. -/
inductive Folds (bound : Level) : List Branch → List Branch → Prop
  | refl {stack} : Folds bound stack stack
  | close {node parent outer stack level} (hlevel : node.form.level? = some level)
      (hbound : bound ≤ level) (hchildren : node.children ≠ [])
      (hfolds : Folds bound (parent.enclose node :: outer) stack) :
      Folds bound (node :: parent :: outer) stack

theorem Folds.of_eq {bound : Level} {first second : List Branch} (h : first = second) :
    Folds bound first second :=
  h ▸ .refl

theorem Folds.trans {bound : Level} {first second third : List Branch}
    (hfirst : Folds bound first second) (hsecond : Folds bound second third) :
    Folds bound first third := by
  induction hfirst with
  | refl => exact hsecond
  | close hlevel hbound hchildren _ ih => exact .close hlevel hbound hchildren (ih hsecond)

/-! ## Taking over -/

theorem Form.level?_of_isLeaf {form : Form} (h : form.isLeaf = true) : form.level? = none := by
  cases form with
  | operator => cases h
  | _ => rfl

@[simp]
theorem Form.level?_operator (symbol : String) (level : Level) :
    (operator symbol level).level? = some level := rfl

namespace Takeover

variable {opened last : Form} {symbol : String} {level : Level}

/-- An operator passes over open operators that are not looser. -/
theorem of_passes {outer : Level} (hopened : opened.level? = some outer) (h : level ≤ outer) :
    Takeover.of opened last (.operator symbol level) = .passes := by
  have hnot : ¬ outer < level := Fin.not_lt.2 h
  simp [Takeover.of, hopened, hnot]

/-- An operator takes over an operand that is not looser from a node that is. -/
theorem of_takes (hopened : ∀ outer ∈ opened.level?, outer < level)
    (hlast : ∀ inner ∈ last.level?, level ≤ inner)
    (hclosed : last.level? = none → (last.isBracket || last.isLeaf) = true) :
    Takeover.of opened last (.operator symbol level) = .takes := by
  cases houter : opened.level? with
  | some outer =>
      have hlevel : outer < level := hopened outer houter
      simp [Takeover.of, houter, hlevel]
  | none =>
      cases hinner : last.level? with
      | some inner =>
          have hlevel : level ≤ inner := hlast inner hinner
          simp [Takeover.of, houter, hinner, hlevel]
      | none => simp [Takeover.of, houter, hinner, hclosed hinner]

end Takeover

theorem takeOver?_enclose (new : Form) (parent child : Branch) (outer : List Branch) :
    takeOver? new none (parent.enclose child :: outer) =
      takeOver? new (some child) (parent :: outer) := by
  simp only [takeOver?, Branch.enclose]

/-- Only operators and assignments take anything over. -/
theorem takeOver?_eq_none {new : Form} (hlevel : new.level? = none)
    (hnew : ∀ slot, new ≠ .assignment slot) (stack : List Branch) :
    takeOver? new none stack = none := by
  have hstops : ∀ opened last, Takeover.of opened last new = .stops := by
    intro opened last
    cases new with
    | operator => cases hlevel
    | assignment slot => exact absurd rfl (hnew slot)
    | _ => simp [Takeover.of, Form.level?]
  rcases stack with - | ⟨⟨serial, form, position, children⟩, outer⟩
  · rfl
  · cases children <;> simp [takeOver?, hstops]

/-- Closing the operators that an operator passes over does not change what it finds. -/
theorem takeOver?_of_folds {symbol : String} {level : Level} {stack folded : List Branch}
    (h : Folds level stack folded) :
    takeOver? (.operator symbol level) none stack =
      takeOver? (.operator symbol level) none folded := by
  induction h with
  | refl => rfl
  | @close node parent outer stack inner hlevel hbound hchildren _ ih =>
      rw [← ih, takeOver?_enclose]
      obtain ⟨serial, form, position, children⟩ := node
      obtain ⟨last, older, rfl⟩ := List.exists_cons_of_ne_nil hchildren
      have hpasses : Takeover.of form last.form (.operator symbol level) = .passes :=
        Takeover.of_passes hlevel hbound
      simp only [takeOver?, hpasses]

/-- An operator takes over the operand that is the last child once tighter operators are closed. -/
theorem takeOver?_operator {operators : OperatorTable} {symbol : String} {level : Level}
    {stack outer : List Branch} {parent last : Branch} {node : Node}
    (hfolds : Folds level stack (parent.enclose last :: outer)) (hlast : last.IsFor operators node)
    (hparent : ∀ above ∈ parent.form.level?, above < level)
    (hnode : ∀ inner ∈ node.level? operators, level ≤ inner) :
    takeOver? (.operator symbol level) none stack = some (last, parent :: outer) := by
  have htakes : Takeover.of parent.form last.form (.operator symbol level) = .takes :=
    Takeover.of_takes hparent (hlast.level ▸ hnode) hlast.closed
  rw [takeOver?_of_folds hfolds, takeOver?_enclose]
  cases parent
  simp only [takeOver?, htakes]

/-- What a node takes over fits into it: an assignment takes over names only. -/
theorem Takeover.attach?_isSome {opened : Form} {new last : Branch}
    (h : Takeover.of opened last.form new.form = .takes) : (new.attach? last).isSome := by
  obtain ⟨serial, form, position, children⟩ := new
  cases form with
  | declaration =>
      exfalso
      unfold Takeover.of at h
      split at h <;> simp_all [Form.level?]
  | assignment target =>
      cases target with
      | some => rfl
      | none =>
          obtain ⟨name, hname⟩ : ∃ name, last.form = .identifier name := by
            unfold Takeover.of at h
            split at h <;> simp_all [Form.level?]
            split at h <;> simp_all
          simp [Branch.attach?, Branch.toSlot?, hname]
  | _ => rfl

/-- A child that is found for a node to take over fits into the node. -/
theorem attach?_of_takeOver? {new last : Branch} {inner : Option Branch} {stack left : List Branch}
    (h : takeOver? new.form inner stack = some (last, left)) : (new.attach? last).isSome := by
  fun_induction takeOver? new.form inner stack with
  | case1 | case2 => cases h
  | case3 node outer child htakes | case6 node outer child older hchildren htakes =>
      cases h
      exact Takeover.attach?_isSome htakes
  | case4 node outer child hpasses ih | case7 node outer child older hchildren hpasses ih =>
      exact ih h
  | case5 | case8 => cases h

namespace Draft

/-- A new node takes in whatever it takes over. -/
theorem regroup?_ne_none (new : Branch) (stack : List Branch) : regroup? new stack ≠ none := by
  rw [regroup?]
  split
  · exact Option.some_ne_none _
  · next htake =>
      obtain ⟨grown, hgrown⟩ := Option.isSome_iff_exists.1 (attach?_of_takeOver? htake)
      rw [hgrown]
      exact Option.some_ne_none _

/-! ## Creating -/

/-- Whether an action succeeds and leaves given closed statements and open nodes. -/
def Yields (action : Action Draft ParseError) (draft : Draft) (closed stack : List Branch) : Prop :=
  ∃ left, action draft = (.ok (), left) ∧ left.operators = draft.operators ∧
    left.closed = closed ∧ left.stack = stack

/-- The open nodes that a new node finds, a statement if there were none. -/
def ground (draft : Draft) (position : Position) : List Branch :=
  (openStatement position { draft with created := draft.created + 1 }).stack

theorem ground_of_nil {draft : Draft} (h : draft.stack = []) (position : Position) :
    draft.ground position = [⟨draft.created + 1, .statement, position, []⟩] := by
  simp [ground, openStatement, h]

theorem ground_of_cons {draft : Draft} {top : Branch} {outer : List Branch}
    (h : draft.stack = top :: outer) (position : Position) :
    draft.ground position = top :: outer := by
  simp [ground, openStatement, h]

theorem ground_feed (draft : Draft) (lexeme : Lexeme) (lookahead : Option Kind)
    (position : Position) :
    (draft.feed lexeme lookahead).ground position = draft.ground position := by
  cases hstack : draft.stack with
  | nil =>
      exact (@ground_of_nil (draft.feed lexeme lookahead) hstack position).trans
        (ground_of_nil hstack position).symm
  | cons top outer =>
      exact (@ground_of_cons (draft.feed lexeme lookahead) _ _ hstack position).trans
        (ground_of_cons hstack position).symm

theorem openStatement_eq (position : Position) (draft : Draft) :
    ∃ created, openStatement position draft =
      { draft with created := created, stack := (openStatement position draft).stack } := by
  unfold openStatement
  split
  · exact ⟨_, rfl⟩
  · exact ⟨draft.created, rfl⟩

section Create

variable {choose : Draft → Lexeme → Except ParseError Form} {draft : Draft} {lexeme : Lexeme}
  {form : Form} {parent : Branch} {outer : List Branch}

theorem create_eq_place (hcurrent : draft.current = some lexeme)
    (hform : choose draft lexeme = .ok form) :
    create choose draft =
      place ⟨draft.created, form, lexeme.position, []⟩
        { draft with created := draft.created + 1 } := by
  simp only [create, hcurrent, hform]

/-- A leaf is put into the innermost open node. -/
theorem yields_leaf (hcurrent : draft.current = some lexeme)
    (hform : choose draft lexeme = .ok form) (hleaf : form.isLeaf = true)
    (hground : draft.ground lexeme.position = parent :: outer) {grown : Branch}
    (hgrown : parent.attach? ⟨draft.created, form, lexeme.position, []⟩ = some grown) :
    Yields (create choose) draft draft.closed (grown :: outer) := by
  obtain ⟨created, hopen⟩ :=
    openStatement_eq lexeme.position { draft with created := draft.created + 1 }
  have hstack : (openStatement lexeme.position { draft with created := draft.created + 1 }).stack =
      parent :: outer := hground
  rw [hstack] at hopen
  refine ⟨{ draft with created := created, stack := grown :: outer }, ?_, rfl, rfl, rfl⟩
  rw [create_eq_place hcurrent hform, place]
  simp only [hleaf, if_true, hopen, hang, hgrown]

/-- A name that no parenthesis follows is put into the innermost open node. -/
theorem yields_name (hcurrent : draft.current = some lexeme)
    (hname : draft.lookahead ≠ some .parenOpen)
    (hground : draft.ground lexeme.position = parent :: outer) {grown : Branch}
    (hgrown : parent.attach? ⟨draft.created, .identifier lexeme.value, lexeme.position, []⟩ =
      some grown) :
    Yields createIdentifier draft draft.closed (grown :: outer) :=
  yields_leaf hcurrent (by simp [hname]) rfl hground hgrown

theorem yields_bareName (hcurrent : draft.current = some lexeme)
    (hground : draft.ground lexeme.position = parent :: outer) {grown : Branch}
    (hgrown : parent.attach? ⟨draft.created, .identifier lexeme.value, lexeme.position, []⟩ =
      some grown) :
    Yields createBareIdentifier draft draft.closed (grown :: outer) :=
  yields_leaf hcurrent rfl rfl hground hgrown

/-- Any other node is put on the stack, above the node that will take it in. -/
theorem yields_open (hcurrent : draft.current = some lexeme)
    (hform : choose draft lexeme = .ok form) (hleaf : form.isLeaf = false) {grown : Branch}
    (hregroup : regroup? ⟨draft.created, form, lexeme.position, []⟩
      (draft.ground lexeme.position) = some (grown, parent :: outer))
    (hgrown : grown.form.isLeaf = false) (hparent : (parent.attach? grown).isSome) :
    Yields (create choose) draft draft.closed (grown :: parent :: outer) := by
  obtain ⟨created, hopen⟩ :=
    openStatement_eq lexeme.position { draft with created := draft.created + 1 }
  obtain ⟨taken, htaken⟩ := Option.isSome_iff_exists.1 hparent
  refine ⟨{ draft with created := created, stack := grown :: parent :: outer }, ?_, rfl, rfl, rfl⟩
  rw [create_eq_place hcurrent hform, place]
  rw [ground] at hregroup
  simp only [hleaf, hregroup, Bool.false_eq_true, if_false, hang, htaken, hgrown]
  rw [hopen]

/-- A node that takes nothing over is put on the stack as it is. -/
theorem yields_fresh (hcurrent : draft.current = some lexeme)
    (hform : choose draft lexeme = .ok form) (hleaf : form.isLeaf = false)
    (hlevel : form.level? = none) (hassignment : ∀ slot, form ≠ .assignment slot)
    (hground : draft.ground lexeme.position = parent :: outer) (hparent : parent.TakesAll) :
    Yields (create choose) draft draft.closed
      (⟨draft.created, form, lexeme.position, []⟩ :: parent :: outer) := by
  apply yields_open hcurrent hform hleaf _ hleaf (by simp [hparent _])
  rw [regroup?, takeOver?_eq_none hlevel hassignment, hground]

/-- A parenthesis in the place of an operand opens a group. -/
theorem yields_group (hcurrent : draft.current = some lexeme)
    (hground : draft.ground lexeme.position = parent :: outer) (hparent : parent.TakesAll) :
    Yields createGroup draft draft.closed
      (⟨draft.created, .group, lexeme.position, []⟩ :: parent :: outer) :=
  yields_fresh hcurrent rfl rfl rfl nofun hground hparent

/-- A name that a parenthesis follows opens a call. -/
theorem yields_call (hcurrent : draft.current = some lexeme)
    (hcall : draft.lookahead = some .parenOpen)
    (hground : draft.ground lexeme.position = parent :: outer) (hparent : parent.TakesAll) :
    Yields createIdentifier draft draft.closed
      (⟨draft.created, .call lexeme.value, lexeme.position, []⟩ :: parent :: outer) :=
  yields_fresh hcurrent (by simp [hcall]) rfl rfl nofun hground hparent

/-- A declaration is opened with all its fields empty. -/
theorem yields_declaration (hcurrent : draft.current = some lexeme)
    (hground : draft.ground lexeme.position = parent :: outer) (hparent : parent.TakesAll) :
    Yields createDeclaration draft draft.closed
      (⟨draft.created, .declaration none none, lexeme.position, []⟩ :: parent :: outer) :=
  yields_fresh hcurrent rfl rfl rfl nofun hground hparent

/-- A registered operator takes over the operand before it, as far as levels allow. -/
theorem yields_operator {level : Level} {last : Branch} {node : Node}
    (hcurrent : draft.current = some lexeme)
    (hsymbol : draft.operators.level? lexeme.value = some level)
    (hfolds : Folds level draft.stack (parent.enclose last :: outer))
    (hlast : last.IsFor draft.operators node)
    (hbelow : ∀ above ∈ parent.form.level?, above < level)
    (hnode : ∀ inner ∈ node.level? draft.operators, level ≤ inner) (hparent : parent.TakesAll) :
    Yields createOperator draft draft.closed
      (⟨draft.created, .operator lexeme.value level, lexeme.position, [last]⟩
        :: parent :: outer) := by
  have hne : draft.stack ≠ [] := by
    intro hnil
    rw [hnil] at hfolds
    cases hfolds
  obtain ⟨top, rest, hstack⟩ := List.exists_cons_of_ne_nil hne
  apply @yields_open _ draft lexeme (.operator lexeme.value level) parent outer hcurrent
    (by simp [hsymbol]) rfl _ _ rfl (by simp [hparent _])
  rw [ground_of_cons hstack, ← hstack, regroup?, takeOver?_operator hfolds hlast hbelow hnode]
  rfl

/-- An assignment takes over the name that it assigns to. -/
theorem yields_assignment {statement target : Nat} {start place : Position} {name : String}
    (hcurrent : draft.current = some lexeme)
    (hstack : draft.stack =
      [⟨statement, .statement, start, [⟨target, .identifier name, place, []⟩]⟩]) :
    Yields createAssignment draft draft.closed
      [⟨draft.created, .assignment (some ⟨target, ⟨name, place⟩⟩), lexeme.position, []⟩,
        ⟨statement, .statement, start, []⟩] := by
  apply @yields_open _ draft lexeme (.assignment none) _ _ hcurrent rfl rfl _ _ rfl rfl
  rw [ground_of_cons hstack]
  rfl

end Create

/-! ## Closing -/

section Close

variable {rule : Form → Closing} {draft : Draft} {node parent : Branch} {outer : List Branch}

theorem closeBy_closes (hstack : draft.stack = node :: outer) (hrule : rule node.form = .closes) :
    closeBy rule draft = closeNode draft := by
  rw [closeBy]
  split <;> simp_all

theorem closeBy_keeps (hstack : draft.stack = node :: outer) (hrule : rule node.form = .keeps) :
    closeBy rule draft = (.ok (), draft) := by
  rw [closeBy]
  split <;> simp_all

theorem closeBy_refuses (hstack : draft.stack = node :: outer) (hrule : rule node.form = .refuses) :
    closeBy rule draft = (.error draft.unexpected, draft) := by
  rw [closeBy]
  split <;> simp_all

theorem closeBy_passes (hstack : draft.stack = node :: parent :: outer)
    (hrule : rule node.form = .passes) :
    closeBy rule draft = closeBy rule { draft with stack := parent.enclose node :: outer } := by
  have hclose : (closeNode draft).2 = { draft with stack := parent.enclose node :: outer } := by
    simp [closeNode, hstack]
  rw [closeBy]
  split <;> simp_all

/-- A rule that passes over operators finds the same after they have been closed. -/
theorem closeBy_of_folds (hrule : ∀ symbol level, rule (.operator symbol level) = .passes)
    {bound : Level} {stack folded : List Branch} (h : Folds bound stack folded) :
    closeBy rule { draft with stack := stack } = closeBy rule { draft with stack := folded } := by
  induction h with
  | refl => rfl
  | @close node parent outer stack level hlevel _ _ _ ih =>
      have hpasses : rule node.form = .passes := by
        obtain ⟨serial, form, position, children⟩ := node
        cases form with
        | operator symbol level => exact hrule symbol level
        | _ => cases hlevel
      rw [closeBy_passes rfl hpasses]
      exact ih

variable {bound : Level} {line : Branch}

/-- A comma leaves the call open whose argument it ends. -/
theorem yields_closeArgument {name : String} (hfolds : Folds bound draft.stack (node :: outer))
    (hnode : node.form = .call name) :
    Yields closeArgument draft draft.closed (node :: outer) := by
  refine ⟨{ draft with stack := node :: outer }, ?_, rfl, rfl, rfl⟩
  rw [closeArgument]
  exact (closeBy_of_folds (fun _ _ => rfl) hfolds).trans (closeBy_keeps rfl (by rw [hnode]))

/-- A closing parenthesis puts the innermost bracket into the node around it. -/
theorem yields_closeBracket (hfolds : Folds bound draft.stack (node :: parent :: outer))
    (hnode : node.form.isBracket = true) :
    Yields closeBracket draft draft.closed (parent.enclose node :: outer) := by
  refine ⟨{ draft with stack := parent.enclose node :: outer }, ?_, rfl, rfl, rfl⟩
  rw [closeBracket]
  apply (closeBy_of_folds (fun _ _ => rfl) hfolds).trans
  apply closeBy_closes rfl
  cases hform : node.form <;> simp_all [Form.isBracket]

/-- A semicolon closes a statement that holds an expression. -/
theorem yields_closeStatement (hfolds : Folds bound draft.stack [node])
    (hnode : node.form = .statement) :
    Yields closeStatement draft (node :: draft.closed) [] := by
  refine ⟨{ draft with closed := node :: draft.closed, stack := [] }, ?_, rfl, rfl, rfl⟩
  rw [closeStatement]
  exact (closeBy_of_folds (fun _ _ => rfl) hfolds).trans (closeBy_closes rfl (by rw [hnode]))

/-- A semicolon closes a declaration or an assignment with its statement. -/
theorem yields_closeStatement_line (hfolds : Folds bound draft.stack [line, node])
    (hline : ¬ line.form.isBracket ∧ line.form ≠ .statement) (hnode : node.form = .statement) :
    Yields closeStatement draft (node.enclose line :: draft.closed) [] := by
  refine ⟨{ draft with closed := node.enclose line :: draft.closed, stack := [] },
    ?_, rfl, rfl, rfl⟩
  have hcloses : (node.enclose line).form = .statement := hnode
  rw [closeStatement]
  apply (closeBy_of_folds (fun _ _ => rfl) hfolds).trans
  rw [closeBy_passes rfl]
  · exact closeBy_closes rfl (by rw [hcloses])
  · cases hform : line.form <;> simp_all [Form.isBracket]

/-- Whether an action complains about the current lexeme. -/
def Refuses (action : Action Draft ParseError) (draft : Draft) : Prop :=
  ∃ left, action draft = (.error draft.unexpected, left)

/-- A rule refuses at the first node that is no operator. -/
theorem refuses_closeBy (hrule : ∀ symbol level, rule (.operator symbol level) = .passes)
    (hfolds : Folds bound draft.stack (node :: outer)) (hnode : rule node.form = .refuses) :
    Refuses (closeBy rule) draft :=
  ⟨_, (closeBy_of_folds hrule hfolds).trans (closeBy_refuses rfl hnode)⟩

/-- A rule refuses at the node around a declaration or an assignment. -/
theorem refuses_closeBy_line (hrule : ∀ symbol level, rule (.operator symbol level) = .passes)
    (hfolds : Folds bound draft.stack (line :: node :: outer)) (hline : rule line.form = .passes)
    (hnode : rule node.form = .refuses) : Refuses (closeBy rule) draft := by
  have hpassed := @closeBy_passes rule { draft with stack := line :: node :: outer } line node outer
    rfl hline
  exact ⟨_, (closeBy_of_folds hrule hfolds).trans (hpassed.trans (closeBy_refuses rfl hnode))⟩

end Close

end Draft

end Scriptlet
