/-
# Operators and their levels

An operator table gives each registered operator a level. The higher the level, the tighter the
operator binds. Symbols are listed in the order of their characters.
-/

import Std.Data.TreeMap
import Scriptlet.Dialect.Error

namespace Scriptlet

/-- How tightly an operator binds. -/
abbrev Level := Fin 256

/-- The registered operators with their levels. -/
structure OperatorTable where
  levels : Std.TreeMap String Level

/-- An operator that is not registered. -/
structure UnknownOperator where
  symbol : String
  deriving DecidableEq

namespace UnknownOperator

/-- What a message says about an operator that is not registered. -/
def message (e : UnknownOperator) : String := s!"Unknown operator: {e.symbol}"

end UnknownOperator

namespace OperatorTable

/-- No operators. -/
def empty : OperatorTable := ⟨∅⟩

/-- A table from a list of operators; of two entries for one symbol the later one counts. -/
def ofList (entries : List (String × Level)) : OperatorTable := ⟨Std.TreeMap.ofList entries⟩

/-- The operators of the stock language. -/
def stock : OperatorTable :=
  ofList [("||", 0), ("&&", 1), ("==", 2), ("!=", 2), ("<", 3), ("<=", 3), (">", 3), (">=", 3),
    ("+", 4), ("-", 4), ("*", 5), ("/", 5), ("%", 5), ("^", 6)]

variable (table : OperatorTable)

/-- The level of an operator. -/
def level? (symbol : String) : Option Level := table.levels[symbol]?

/-- The registered symbols, in order. -/
def symbols : List String := table.levels.keys

/-- The registered symbols with their levels, in order. -/
def toList : List (String × Level) := table.levels.toList

/-- Registers an operator that is not registered yet. -/
def register (symbol : String) (level : Level) : Except DialectError OperatorTable :=
  if symbol ∈ table.levels then .error (.duplicateOperator symbol)
  else .ok ⟨table.levels.insert symbol level⟩

/-- The level of an operator, or the complaint that it has none. -/
def level (symbol : String) : Except UnknownOperator Level :=
  match table.level? symbol with
  | some level => .ok level
  | none => .error ⟨symbol⟩

/-- Whether one operator binds strictly tighter than another. -/
def takesPrecedence (symbol other : String) : Except UnknownOperator Bool := do
  let tight ← table.level symbol
  let loose ← table.level other
  return loose < tight

end OperatorTable

end Scriptlet
