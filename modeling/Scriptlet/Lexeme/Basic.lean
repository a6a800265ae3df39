/-
# Lexemes

A lexeme is a classified piece of the source with the position of its first character. Its text is
what stands in the source; its value is what that text denotes, which differs only for string
literals.
-/

import Scriptlet.Lexeme.Kind
import Scriptlet.Position

namespace Scriptlet

/-- A classified piece of source text. -/
structure Lexeme where
  kind : Kind
  text : String
  value : String
  position : Position
  deriving DecidableEq

namespace Lexeme

/-- A lexeme that denotes its own text. -/
def plain (kind : Kind) (text : String) (position : Position) : Lexeme :=
  ⟨kind, text, text, position⟩

/-- How a lexeme reads in a message. -/
def describe (lexeme : Lexeme) : String :=
  s!"\"{lexeme.value}\" ({lexeme.kind}) at position {lexeme.position.line}:{lexeme.position.column}"

end Lexeme

end Scriptlet
