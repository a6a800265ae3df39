/-
# Dialects

A dialect is a lexicon with an operator table. In a valid dialect the two agree: the assignment
symbol is an operator symbol, and every registered operator is a run of operator symbols that is
not taken for an assignment.
-/

import Scriptlet.Lexeme.Lexicon
import Scriptlet.OperatorTable

namespace Scriptlet

/-- The tables that a language is cut and parsed with. -/
structure Dialect where
  lexicon : Lexicon
  operators : OperatorTable

namespace Dialect

/-- The stock language. -/
def stock : Dialect := ⟨.stock, .stock⟩

variable (dialect : Dialect)

/-- Whether a symbol, standing alone, can be read as one operator. -/
def isLexable (symbol : String) : Bool :=
  !symbol.isEmpty && symbol != String.singleton dialect.lexicon.assignment
    && symbol.toList.all dialect.lexicon.isOperatorSymbol

/-- Checks that the tables agree. The assignment symbol is looked at first, then the operators in
order. -/
def validate : Except DialectError Unit :=
  if !dialect.lexicon.isOperatorSymbol dialect.lexicon.assignment then
    .error (.assignmentNotOperator dialect.lexicon.assignment)
  else
    match dialect.operators.symbols.find? (!dialect.isLexable ·) with
    | some symbol => .error (.unlexableOperator symbol)
    | none => .ok ()

end Dialect

end Scriptlet
