/-
# Syntax trees

A program is a list of statements, and a statement holds the nodes read before its semicolon.
Names in declarations, assignments and calls are fields of their node and not children of it. The
compact form writes an operation with its operator in front and a group in square brackets.
-/

import Scriptlet.Number.Style
import Scriptlet.Position

namespace Scriptlet

/-- A name and where it stands. -/
structure Identifier where
  name : String
  position : Position
  deriving DecidableEq

/-- What can stand in a statement. -/
inductive Node
  | call (callee : Identifier) (arguments : List Node) (position : Position)
  | identifier (identifier : Identifier)
  | string (value : String) (position : Position)
  | number (value : Binary64) (position : Position)
  | boolean (value : Bool) (position : Position)
  | operator (symbol : String) (left right : Node) (position : Position)
  | declaration (identifier valueType : Identifier) (value : Node) (position : Position)
  | assignment (identifier : Identifier) (children : List Node) (position : Position)
  | group (inner : Node) (position : Position)

/-- What stands before one semicolon, and where it starts. -/
structure Statement where
  children : List Node
  position : Position

/-- The statements of a source, in order. -/
structure Program where
  statements : List Statement

namespace Node

/-- Where a node stands: at its operator, bracket, equals sign or reserved word, if it has one. -/
def position : Node → Position
  | call _ _ position => position
  | identifier name => name.position
  | string _ position => position
  | number _ position => position
  | boolean _ position => position
  | operator _ _ _ position => position
  | declaration _ _ _ position => position
  | assignment _ _ position => position
  | group _ position => position

/-- The nodes directly inside a node. -/
def children : Node → List Node
  | call _ arguments _ => arguments
  | operator _ left right _ => [left, right]
  | declaration _ _ value _ => [value]
  | assignment _ children _ => children
  | group inner _ => [inner]
  | identifier _ | string .. | number .. | boolean .. => []

mutual

/-- The compact form of a node. -/
def compact : Node → String
  | identifier name => name.name
  | string value _ => "\"" ++ value ++ "\""
  | number value _ => Number.Style.plain.write value
  | boolean value _ => toString value
  | call callee arguments _ => "(" ++ callee.name ++ compactAll arguments ++ ")"
  | operator symbol left right _ =>
    "(" ++ symbol ++ " " ++ left.compact ++ " " ++ right.compact ++ ")"
  | declaration name valueType value _ =>
    "(let " ++ name.name ++ " " ++ valueType.name ++ " " ++ value.compact ++ ")"
  | assignment name children _ => "(= " ++ name.name ++ compactAll children ++ ")"
  | group inner _ => "[" ++ inner.compact ++ "]"

/-- The compact forms of nodes, each after a space. -/
def compactAll : List Node → String
  | [] => ""
  | node :: rest => " " ++ node.compact ++ compactAll rest

end

mutual

/-- A node and all nodes inside it, each before its children and with its depth. -/
def preorder (depth : Nat) : Node → List (Nat × Node)
  | call callee arguments position =>
    (depth, call callee arguments position) :: preorderAll (depth + 1) arguments
  | operator symbol left right position =>
    (depth, operator symbol left right position)
      :: (preorder (depth + 1) left ++ preorder (depth + 1) right)
  | declaration name valueType value position =>
    (depth, declaration name valueType value position) :: preorder (depth + 1) value
  | assignment name children position =>
    (depth, assignment name children position) :: preorderAll (depth + 1) children
  | group inner position => (depth, group inner position) :: preorder (depth + 1) inner
  | identifier name => [(depth, identifier name)]
  | string value position => [(depth, string value position)]
  | number value position => [(depth, number value position)]
  | boolean value position => [(depth, boolean value position)]

/-- All nodes in and inside a list, each before its children and with its depth. -/
def preorderAll (depth : Nat) : List Node → List (Nat × Node)
  | [] => []
  | node :: rest => preorder depth node ++ preorderAll depth rest

end

end Node

namespace Statement

/-- The compact form of a statement. -/
def compact (statement : Statement) : String :=
  " ".intercalate (statement.children.map Node.compact) ++ ";"

end Statement

namespace Program

/-- The compact form of a program, one statement a line. -/
def compact (program : Program) : String :=
  "\n".intercalate (program.statements.map Statement.compact)

end Program

end Scriptlet
