/-
# Trees under construction

A draft is a syntax tree that is still growing. Its open nodes form a stack, innermost first, from
the statement that is being read up to the node that takes the next child. A node that is open is
kept apart from its parent, and put in among the children of the parent when it is closed.

New nodes go below the innermost open node. Before that an operator may take over the last child
of an open node as its left operand, and an assignment a name as the one assigned to; what was
open inside that child is closed by it. Looking for it, an operator passes outward over open
operators that bind at least as tightly as itself, so tighter operators end up deeper and equally
tight ones chain to the left.
-/

import Scriptlet.Action
import Scriptlet.Number.Read
import Scriptlet.OperatorTable
import Scriptlet.Syntax.Error
import Scriptlet.Syntax.Node

namespace Scriptlet

/-- A name that has been put into a field of a node; the serial tells which node it was. -/
structure Slot where
  serial : Nat
  identifier : Identifier
  deriving DecidableEq

/-- What a node of a draft is. -/
inductive Form
  | statement
  | call (name : String)
  | identifier (name : String)
  | string (value : String)
  | number (value : Binary64)
  | boolean (value : Bool)
  | operator (symbol : String) (level : Level)
  | declaration (identifier valueType : Option Slot)
  | assignment (identifier : Option Slot)
  | group
  deriving DecidableEq

namespace Form

/-- Whether a node never has children. -/
def isLeaf : Form → Bool
  | identifier _ | string _ | number _ | boolean _ => true
  | _ => false

/-- Whether a node stays open until a closing parenthesis. -/
def isBracket : Form → Bool
  | call _ | group => true
  | _ => false

/-- The level of an operator. -/
def level? : Form → Option Level
  | operator _ level => some level
  | _ => none

end Form

/-- A node of a draft with what is below it. Children are kept latest first. The serial counts the
nodes created before it. -/
structure Branch where
  serial : Nat
  form : Form
  position : Position
  children : List Branch

namespace Branch

/-- The branch as a name for a field, if it is one. -/
def toSlot? (branch : Branch) : Option Slot :=
  match branch.form with
  | .identifier name => some ⟨branch.serial, ⟨name, branch.position⟩⟩
  | _ => none

/-- Puts one more child in. -/
def enclose (parent child : Branch) : Branch :=
  { parent with children := child :: parent.children }

/-- Takes a new child in. The open fields of declarations and assignments come first, and take
names only. -/
def attach? (parent child : Branch) : Option Branch :=
  match parent.form with
  | .declaration none valueType =>
    child.toSlot?.map fun slot => { parent with form := .declaration (some slot) valueType }
  | .declaration (some identifier) none =>
    child.toSlot?.map fun slot =>
      { parent with form := .declaration (some identifier) (some slot) }
  | .assignment none =>
    child.toSlot?.map fun slot => { parent with form := .assignment (some slot) }
  | _ => some (parent.enclose child)

end Branch

/-- What a new node does at an open node that has a last child. -/
inductive Takeover
  /-- It takes over the last child. -/
  | takes
  /-- It looks at the next open node outward. -/
  | passes
  /-- It takes over nothing. -/
  | stops
  deriving DecidableEq

namespace Takeover

/-- What a new node does at an open node, given the last child of that node. -/
def of (opened last new : Form) : Takeover :=
  match opened.level?, last.level?, new.level? with
  | some level, _, some newLevel => if level < newLevel then takes else passes
  | none, some lastLevel, some newLevel => if newLevel ≤ lastLevel then takes else passes
  | _, _, _ =>
    match new, last with
    | .assignment _, .identifier _ => takes
    | .operator .., last => if last.isBracket || last.isLeaf then takes else stops
    | _, _ => stops

end Takeover

/-- Looks outward along the stack for the child that a new node takes over. `inner` is the branch
that is open below the first node of the stack, closed up. The result is that child and the stack
without it. -/
def takeOver? (new : Form) (inner : Option Branch) : List Branch → Option (Branch × List Branch)
  | [] => none
  | node :: outer =>
    match inner, node.children with
    | none, [] => none
    | some last, older =>
      match Takeover.of node.form last.form new with
      | .takes => some (last, { node with children := older } :: outer)
      | .passes => takeOver? new (some (node.enclose last)) outer
      | .stops => none
    | none, last :: older =>
      match Takeover.of node.form last.form new with
      | .takes => some (last, { node with children := older } :: outer)
      | .passes => takeOver? new (some node) outer
      | .stops => none

/-- A tree under construction, with the lexeme it is to work on. -/
structure Draft where
  operators : OperatorTable
  /-- The lexeme that is being read. -/
  current : Option Lexeme
  /-- The kind of the lexeme after it. -/
  lookahead : Option Kind
  /-- How many nodes have been created. -/
  created : Nat
  /-- The statements that are closed, latest first. -/
  closed : List Branch
  /-- The open nodes, innermost first, each without its open child. -/
  stack : List Branch

namespace Draft

/-- Nothing has been read. -/
def empty (operators : OperatorTable) : Draft := ⟨operators, none, none, 0, [], []⟩

/-- Turns to the next lexeme. -/
def feed (draft : Draft) (lexeme : Lexeme) (lookahead : Option Kind) : Draft :=
  { draft with current := some lexeme, lookahead := lookahead }

/-- The complaint that there is no lexeme to work on. -/
def noLexeme : ParseError := .malformedNode "lexeme stream" .start

/-- The complaint that the current lexeme cannot stand where it stands. -/
def unexpected (draft : Draft) : ParseError :=
  match draft.current with
  | some lexeme => .unexpectedToken lexeme ""
  | none => noLexeme

/-! ## New nodes -/

/-- Opens a statement, if none is open. -/
def openStatement (position : Position) (draft : Draft) : Draft :=
  match draft.stack with
  | [] =>
    { draft with
      created := draft.created + 1
      stack := [⟨draft.created, .statement, position, []⟩] }
  | _ :: _ => draft

/-- A new node with the child it takes over, and the stack without that child; nothing if the node
does not take in what it takes over. -/
def regroup? (new : Branch) (stack : List Branch) : Option (Branch × List Branch) :=
  match takeOver? new.form none stack with
  | none => some (new, stack)
  | some (last, left) => (new.attach? last).map fun grown => (grown, left)

/-- Puts a new node below the innermost open node; it is open itself unless it is a leaf. -/
def hang (new : Branch) : Action Draft ParseError := fun draft =>
  match draft.stack with
  | [] => (.error draft.unexpected, draft)
  | parent :: outer =>
    match parent.attach? new with
    | none => (.error draft.unexpected, draft)
    | some grown =>
      if new.form.isLeaf then (.ok (), { draft with stack := grown :: outer })
      else (.ok (), { draft with stack := new :: parent :: outer })

/-- Finds a place for a new node. -/
def place (new : Branch) : Action Draft ParseError := fun draft =>
  let started := draft.openStatement new.position
  if new.form.isLeaf then hang new started
  else
    match regroup? new started.stack with
    | none => (.error started.unexpected, started)
    | some (grown, left) => hang grown { started with stack := left }

/-- Creates the node that the current lexeme stands for. -/
def create (form : Draft → Lexeme → Except ParseError Form) : Action Draft ParseError :=
  fun draft =>
    match draft.current with
    | none => (.error noLexeme, draft)
    | some lexeme =>
      match form draft lexeme with
      | .error e => (.error e, draft)
      | .ok form =>
        place ⟨draft.created, form, lexeme.position, []⟩
          { draft with created := draft.created + 1 }

/-- A name, or a call if a parenthesis follows. -/
def createIdentifier : Action Draft ParseError :=
  create fun draft lexeme =>
    if draft.lookahead = some .parenOpen then .ok (.call lexeme.value)
    else .ok (.identifier lexeme.value)

/-- A name, whatever follows. -/
def createBareIdentifier : Action Draft ParseError :=
  create fun _ lexeme => .ok (.identifier lexeme.value)

/-- A string literal. -/
def createString : Action Draft ParseError :=
  create fun _ lexeme => .ok (.string lexeme.value)

/-- A number literal. -/
def createNumber : Action Draft ParseError :=
  create fun _ lexeme =>
    match Binary64.ofString? lexeme.value with
    | some value => .ok (.number value)
    | none => .error (.invalidNumber lexeme.text lexeme.position)

/-- A truth value. -/
def createBoolean : Action Draft ParseError :=
  create fun _ lexeme => .ok (.boolean (lexeme.kind = .trueWord))

/-- A registered operator. -/
def createOperator : Action Draft ParseError :=
  create fun draft lexeme =>
    match draft.operators.level? lexeme.value with
    | some level => .ok (.operator lexeme.value level)
    | none => .error (.unknownOperator lexeme.value lexeme.position)

/-- A declaration whose name and type are still to come. -/
def createDeclaration : Action Draft ParseError :=
  create fun _ _ => .ok (.declaration none none)

/-- An assignment to the name just read. -/
def createAssignment : Action Draft ParseError :=
  create fun _ _ => .ok (.assignment none)

/-- A group. -/
def createGroup : Action Draft ParseError :=
  create fun _ _ => .ok .group

/-! ## Closing nodes -/

/-- Closes the innermost open node. -/
def closeNode : Action Draft ParseError := fun draft =>
  match draft.stack with
  | [] => (.error draft.unexpected, draft)
  | [node] => (.ok (), { draft with closed := node :: draft.closed, stack := [] })
  | node :: parent :: outer => (.ok (), { draft with stack := parent.enclose node :: outer })

theorem length_stack_closeNode_lt {draft : Draft} (h : draft.stack ≠ []) :
    (closeNode draft).2.stack.length < draft.stack.length := by
  unfold closeNode
  split
  · contradiction
  · next e => simp [e]
  · next e => simp [e]

/-- What a closing lexeme does at an open node. -/
inductive Closing
  /-- It closes the node and is done. -/
  | closes
  /-- It leaves the node open and is done. -/
  | keeps
  /-- It is not allowed inside the node. -/
  | refuses
  /-- It closes the node and goes on to the next one outward. -/
  | passes
  deriving DecidableEq

/-- Closes open nodes, innermost first, as a rule says. A refusal leaves open the node that caused
it and what is outside of it. -/
def closeBy (rule : Form → Closing) (draft : Draft) : Except ParseError Unit × Draft :=
  match _h : draft.stack with
  | [] => (.error draft.unexpected, draft)
  | node :: _ =>
    match rule node.form with
    | .closes => closeNode draft
    | .keeps => (.ok (), draft)
    | .refuses => (.error draft.unexpected, draft)
    | .passes => closeBy rule (closeNode draft).2
termination_by draft.stack.length
decreasing_by exact length_stack_closeNode_lt (by simp [_h])

/-- Closes everything up to and including the statement. An open bracket is in the way. -/
def closeStatement : Action Draft ParseError :=
  closeBy fun
    | .statement => .closes
    | .call _ | .group => .refuses
    | _ => .passes

/-- Closes everything up to and including the innermost open bracket. -/
def closeBracket : Action Draft ParseError :=
  closeBy fun
    | .call _ | .group => .closes
    | .statement => .refuses
    | _ => .passes

/-- Closes everything inside the innermost open call, which takes the next argument. -/
def closeArgument : Action Draft ParseError :=
  closeBy fun
    | .call _ => .keeps
    | .group | .statement => .refuses
    | _ => .passes

end Draft

end Scriptlet
