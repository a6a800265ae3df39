/-
# Programs and lexemes as structured values

The fields of every object come in a fixed order. A node starts with its type; where it stands
comes last.
-/

import Scriptlet.Json.Value
import Scriptlet.Lexeme.Basic
import Scriptlet.Syntax.Node

namespace Scriptlet

open Json (Value)

namespace Position

/-- A position as a structured value. -/
def toJson (position : Position) : Value :=
  .object [("line", .natural position.line), ("column", .natural position.column)]

end Position

namespace Lexeme

/-- A lexeme as a structured value. -/
def toJson (lexeme : Lexeme) : Value :=
  .object [("kind", .string lexeme.kind.name), ("text", .string lexeme.text),
    ("value", .string lexeme.value), ("line", .natural lexeme.position.line),
    ("column", .natural lexeme.position.column)]

end Lexeme

namespace Identifier

/-- A name as a structured value. -/
def toJson (identifier : Identifier) : Value :=
  .object [("name", .string identifier.name), ("position", identifier.position.toJson)]

end Identifier

namespace Node

mutual

/-- A node as a structured value. -/
def toJson : Node → Value
  | call callee arguments position =>
    .object [("type", .string "function-call"), ("identifier", callee.toJson),
      ("arguments", .array (toJsonAll arguments)), ("position", position.toJson)]
  | identifier name =>
    .object [("type", .string "identifier"), ("name", .string name.name),
      ("position", name.position.toJson)]
  | string value position =>
    .object [("type", .string "string"), ("value", .string value), ("position", position.toJson)]
  | number value position =>
    .object [("type", .string "number"), ("value", .float value), ("position", position.toJson)]
  | boolean value position =>
    .object [("type", .string "boolean"), ("value", .boolean value),
      ("position", position.toJson)]
  | operator symbol left right position =>
    .object [("type", .string "operator"), ("symbol", .string symbol),
      ("operands", .array [toJson left, toJson right]), ("position", position.toJson)]
  | declaration name valueType value position =>
    .object [("type", .string "declaration"), ("identifier", name.toJson),
      ("value_type", valueType.toJson), ("value", toJson value), ("position", position.toJson)]
  | assignment name children position =>
    .object [("type", .string "assignment"), ("identifier", name.toJson),
      ("children", .array (toJsonAll children)), ("position", position.toJson)]
  | group inner position =>
    .object [("type", .string "group"), ("inner", toJson inner), ("position", position.toJson)]

/-- Nodes as structured values. -/
def toJsonAll : List Node → List Value
  | [] => []
  | node :: rest => toJson node :: toJsonAll rest

end

end Node

namespace Statement

/-- A statement as a structured value. -/
def toJson (statement : Statement) : Value :=
  .object [("children", .array (Node.toJsonAll statement.children)),
    ("position", statement.position.toJson)]

end Statement

namespace Program

/-- A program as a structured value. -/
def toJson (program : Program) : Value :=
  .object [("statements", .array (program.statements.map Statement.toJson))]

end Program

end Scriptlet
