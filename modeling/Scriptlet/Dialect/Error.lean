/-
# Errors of dialects

What can be wrong with the definition of a dialect.
-/

namespace Scriptlet

/-- A fault in the definition of a dialect. -/
inductive DialectError
  /-- The operator has a level already. -/
  | duplicateOperator (symbol : String)
  /-- The operator would not be read as one operator. -/
  | unlexableOperator (symbol : String)
  /-- The assignment symbol is no operator symbol. -/
  | assignmentNotOperator (symbol : Char)
  /-- The definition cannot be read from its file. -/
  | unreadable (reason : String)
  /-- The definition has the wrong form. -/
  | malformed (reason : String)
  deriving DecidableEq

namespace DialectError

/-- What a message says about a dialect error. -/
def message : DialectError → String
  | duplicateOperator symbol => s!"Operator \"{symbol}\" is already registered"
  | unlexableOperator symbol =>
    s!"Operator \"{symbol}\" contains symbols the lexer does not treat as operators"
  | assignmentNotOperator symbol => s!"Assignment symbol '{symbol}' is not an operator symbol"
  | unreadable reason => s!"Cannot read dialect file: {reason}"
  | malformed reason => s!"Invalid dialect definition: {reason}"

/-- The code that identifies a dialect error. -/
def code : DialectError → String
  | duplicateOperator _ => "jaslang::dialect::duplicate_operator"
  | unlexableOperator _ => "jaslang::dialect::unlexable_operator"
  | assignmentNotOperator _ => "jaslang::dialect::assignment"
  | unreadable _ => "jaslang::dialect::io"
  | malformed _ => "jaslang::dialect::yaml"

/-- Advice on a dialect error. -/
def help? : DialectError → Option String
  | unlexableOperator _ => some "add the missing characters to `operator_symbols`"
  | _ => none

end DialectError

end Scriptlet
