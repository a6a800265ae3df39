/-
# Errors of parsing

What can stop a parse. A rejected lexeme comes with the route that the grammar took up to it,
which is empty until the parser fills it in.
-/

import Scriptlet.Lexeme.Cursor
import Scriptlet.Machine.Error

namespace Scriptlet

/-- What stops a parse. -/
inductive ParseError
  /-- A lexeme that cannot stand where it stands. -/
  | unexpectedToken (lexeme : Lexeme) (route : String)
  /-- A number lexeme that denotes no number. -/
  | invalidNumber (text : String) (position : Position)
  /-- The source ends inside a statement. -/
  | unterminatedStatement (position : Position)
  /-- An operator without a level. -/
  | unknownOperator (symbol : String) (position : Position)
  /-- A node that lacks a part. -/
  | malformedNode (construct : String) (position : Position)
  /-- The source cannot be cut into lexemes. -/
  | scan (e : LexError)
  /-- The grammar machine refuses. -/
  | machine (e : MachineError)
  deriving DecidableEq

namespace ParseError

/-- What a message says about a parse error. -/
def message : ParseError → String
  | unexpectedToken lexeme _ =>
    s!"Unexpected token \"{lexeme.text}\" ({lexeme.kind}) at {lexeme.position.describe}"
  | invalidNumber text position => s!"Invalid number \"{text}\" at {position.describe}"
  | unterminatedStatement position => s!"Unterminated statement at {position.describe}"
  | unknownOperator symbol position => s!"Unknown operator: {symbol} at {position.describe}"
  | malformedNode construct position => s!"Malformed {construct} at {position.describe}"
  | scan e => e.message
  | machine e => e.message

/-- The code that identifies a parse error. -/
def code : ParseError → String
  | unexpectedToken .. => "jaslang::parse::unexpected_token"
  | invalidNumber .. => "jaslang::parse::invalid_number"
  | unterminatedStatement _ => "jaslang::parse::unterminated_statement"
  | unknownOperator .. => "jaslang::parse::unknown_operator"
  | malformedNode .. => "jaslang::parse::malformed"
  | scan e => e.code
  | machine e => e.code

/-- Advice on a parse error. -/
def help? : ParseError → Option String
  | invalidNumber .. => some "numbers may contain at most one decimal point"
  | unterminatedStatement _ => some "statements end with a semi-colon"
  | scan e => e.help?
  | _ => none

/-- Where the error is, if it has a place in the source. -/
def position? : ParseError → Option Position
  | unexpectedToken lexeme _ => some lexeme.position
  | invalidNumber _ position => some position
  | unterminatedStatement position => some position
  | unknownOperator _ position => some position
  | malformedNode _ position => some position
  | scan e => some e.position
  | machine _ => none

/-- How many characters of the source the error is about; at least one. -/
def width (e : ParseError) : Nat :=
  let characters :=
    match e with
    | unexpectedToken lexeme _ => lexeme.text.length
    | invalidNumber text _ => text.length
    | unknownOperator symbol _ => symbol.length
    | _ => 1
  max characters 1

/-- The route up to a rejected lexeme, once it is known. -/
def route? : ParseError → Option String
  | unexpectedToken _ route => if route.isEmpty then none else some route
  | _ => none

end ParseError

end Scriptlet
