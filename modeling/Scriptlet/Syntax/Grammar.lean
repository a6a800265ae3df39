/-
# The grammar of statements

The grammar is a machine that takes the kinds of lexemes as labels. A state is named after what
has just been read; entering it does one step on the draft. A semicolon or a comma first closes the
statement or the argument it ends. What the machine cannot see, the nesting of brackets, is
decided by the closing actions.
-/

import Scriptlet.Machine.Run
import Scriptlet.Syntax.Draft

namespace Scriptlet

namespace Grammar

/-- What has just been read. -/
inductive State
  | start
  | term
  | number
  | quoted
  | trueWord
  | falseWord
  | identifier
  | statementIdentifier
  | operator
  | groupOpen
  | callOpen
  | comma
  | parenClose
  | assignment
  | letWord
  | letIdentifier
  | letTypeIdentifier
  | letEquals
  deriving DecidableEq

namespace State

/-- The name of a state in routes. -/
def name : State → String
  | start => "start"
  | term => "term"
  | number => "number"
  | quoted => "quoted"
  | trueWord => "true"
  | falseWord => "false"
  | identifier => "identifier"
  | statementIdentifier => "statement-identifier"
  | operator => "operator"
  | groupOpen => "group-open"
  | callOpen => "call-open"
  | comma => "comma"
  | parenClose => "paren-close"
  | assignment => "assignment"
  | letWord => "let"
  | letIdentifier => "let-identifier"
  | letTypeIdentifier => "let-type-identifier"
  | letEquals => "let-equals"

instance : ToString State := ⟨name⟩

/-- The states a statement may begin from. -/
def beginnings : List State := [start, term]

/-- The states after which an operand must follow. -/
def expectant : List State := [operator, groupOpen, callOpen, comma, assignment, letEquals]

/-- The states that complete an operand. -/
def complete : List State :=
  [number, quoted, trueWord, falseWord, identifier, statementIdentifier, parenClose]

end State

/-- The blueprints of the grammar. -/
abbrev Plan := Blueprint State Kind Draft ParseError

open Blueprint State

/-- The literals, which are the same wherever an operand may stand. -/
def literals : List (Kind × State) :=
  [(.number, number), (.quoted, quoted), (.trueWord, trueWord), (.falseWord, falseWord)]

/-- How a statement may begin. -/
def statementPaths : List (Action Plan MachineError) :=
  literals.map (fun (kind, state) => pathsFrom beginnings kind state)
    ++ [pathsFrom beginnings .identifier statementIdentifier,
      pathsFrom beginnings .parenOpen groupOpen,
      pathsFrom beginnings .letWord letWord]

/-- How an operand inside an expression may begin. -/
def operandPaths : List (Action Plan MachineError) :=
  literals.map (fun (kind, state) => pathsFrom expectant kind state)
    ++ [pathsFrom expectant .identifier identifier, pathsFrom expectant .parenOpen groupOpen]

/-- What may follow a complete operand. -/
def followingPaths : List (Action Plan MachineError) :=
  [pathsFrom complete .operator operator, pathsFrom complete .semiColon term,
    pathsFrom complete .parenClose parenClose, pathsFrom complete .comma comma]

/-- Calls, assignments and declarations. -/
def namePaths : List (Action Plan MachineError) :=
  [pathsFrom [identifier, statementIdentifier] .parenOpen callOpen,
    path callOpen .parenClose parenClose,
    path statementIdentifier .equals assignment,
    path letWord .identifier letIdentifier,
    path letIdentifier .identifier letTypeIdentifier,
    path letTypeIdentifier .equals letEquals]

/-- What is done to the draft. -/
def actions : List (Action Plan MachineError) :=
  [whenEntering number Draft.createNumber,
    whenEntering quoted Draft.createString,
    whenEntering trueWord Draft.createBoolean,
    whenEntering falseWord Draft.createBoolean,
    whenEntering identifier Draft.createIdentifier,
    whenEntering statementIdentifier Draft.createIdentifier,
    whenEntering operator Draft.createOperator,
    whenEntering groupOpen Draft.createGroup,
    whenEntering parenClose Draft.closeBracket,
    whenEntering assignment Draft.createAssignment,
    whenEntering letWord Draft.createDeclaration,
    whenEntering letIdentifier Draft.createBareIdentifier,
    whenEntering letTypeIdentifier Draft.createBareIdentifier,
    whenTaking .semiColon Draft.closeStatement,
    whenTaking .comma Draft.closeArgument]

/-- All of the grammar. A source may end where a statement may begin. -/
def declarations : Action Plan MachineError :=
  Action.all (statementPaths ++ operandPaths ++ followingPaths ++ namePaths ++ actions
    ++ [accept start, accept term])

/-- The grammar under way. -/
abbrev Running := Machine State Kind Draft ParseError

/-- The grammar before anything is read. -/
def machine : Except MachineError Running :=
  match declarations .empty with
  | (.ok (), blueprint) => blueprint.start start
  | (.error e, _) => .error e

end Grammar

end Scriptlet
