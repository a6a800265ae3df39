/-
# Parsing

A parse feeds the lexemes of a source, white space left out, to the grammar one by one, and turns
the draft into a program at the end. The first error ends it. A lexeme that is rejected, by the
grammar or by an action, is reported with the route taken up to it.
-/

import Scriptlet.Dialect.Basic
import Scriptlet.Syntax.Build
import Scriptlet.Syntax.Grammar

namespace Scriptlet

namespace StepError

/-- The error of a step of the grammar, without a route. -/
def toParseError : StepError ParseError → ParseError
  | refused e => .machine e
  | failed e => e

/-- The error of a step of the grammar on a lexeme, with the route up to it. -/
def onLexeme (lexeme : Lexeme) (route : String) : StepError ParseError → ParseError
  | refused (.noPath ..) => .unexpectedToken lexeme route
  | failed (.unexpectedToken lexeme "") => .unexpectedToken lexeme route
  | e => e.toParseError

end StepError

namespace Grammar

/-- Whether a reading takes part in the grammar. -/
def matters : Reading → Bool
  | .ok lexeme => lexeme.kind ≠ .whitespace
  | .error _ => true

/-- The kind of the first reading, if it is a lexeme. -/
def nextKind? : List Reading → Option Kind
  | .ok lexeme :: _ => some lexeme.kind
  | _ => none

/-- Reads lexemes to the end. `last` is the position of the latest one. -/
def run (machine : Running) (draft : Draft) (last : Position) :
    List Reading → Except ParseError (Running × Draft × Position)
  | [] => .ok (machine, draft, last)
  | .error e :: _ => .error (.scan e)
  | .ok lexeme :: rest =>
    match machine.step lexeme.kind (draft.feed lexeme (nextKind? rest)) with
    | (.error e, moved, _) => .error (e.onLexeme lexeme moved.route)
    | (.ok (), moved, grown) => run moved grown lexeme.position rest

end Grammar

namespace Dialect

/-- Parses readings, white space among them. -/
def parseReadings (dialect : Dialect) (readings : List Reading) : Except ParseError Program :=
  match Grammar.machine with
  | .error e => .error (.machine e)
  | .ok machine => do
    let (machine, draft, last) ←
      Grammar.run machine (.empty dialect.operators) .start (readings.filter Grammar.matters)
    match machine.finish.1 with
    | .error (.notAccepting _) => .error (.unterminatedStatement last)
    | .error e => .error (.machine e)
    | .ok () => draft.toProgram

/-- Parses a source. -/
def parse (dialect : Dialect) (source : String) : Except ParseError Program :=
  dialect.parseReadings (dialect.lexicon.readings source)

end Dialect

end Scriptlet
