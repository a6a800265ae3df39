/-
# Errors and the text they are about

A position in a source is found again by reading up to it, and its offset counts the bytes of what
was read. A diagnosis ties a parse error to the source: it labels the characters that the error is
about, if its position is in the source.
-/

import Scriptlet.Syntax.Error

namespace Scriptlet

namespace Source

/-- The number of bytes that characters take in the source. -/
def byteLength : List Char → Nat
  | [] => 0
  | c :: rest => c.utf8Size + byteLength rest

/-- The number of bytes up to a position and what is left there, for a text that starts at
`cursor`. The position after the last character counts as one of the text. -/
def locate? (target cursor : Position) : List Char → Option (Nat × List Char)
  | [] => if cursor = target then some (0, []) else none
  | c :: rest =>
    if cursor = target then some (0, c :: rest)
    else (locate? target (cursor.advance c) rest).map fun (offset, left) =>
      (c.utf8Size + offset, left)

/-- The number of bytes before a position of the source. -/
def offset? (source : String) (position : Position) : Option Nat :=
  (locate? position .start source.toList).map (·.1)

end Source

/-- A labelled stretch of a source, in bytes. -/
structure Span where
  offset : Nat
  length : Nat
  label : String
  deriving DecidableEq

namespace ParseError

/-- What a label says at the place of the error. -/
def label : ParseError → String
  | unexpectedToken .. => "unexpected here"
  | invalidNumber .. => "invalid number"
  | unterminatedStatement _ => "statement not terminated"
  | unknownOperator .. => "unknown operator"
  | malformedNode .. => "malformed here"
  | scan _ => "cannot scan"
  | machine _ => "here"

/-- The stretch of the source that the error is about; one byte long at the end of the source. -/
def span? (source : String) (e : ParseError) : Option Span := do
  let position ← e.position?
  let (offset, rest) ← Source.locate? position .start source.toList
  return ⟨offset, max (Source.byteLength (rest.take e.width)) 1, e.label⟩

end ParseError

/-- A parse error with its place in the source. -/
structure Diagnosis where
  error : ParseError
  span : Option Span
  deriving DecidableEq

namespace Diagnosis

/-- The diagnosis of a parse error of a source. -/
def of (source : String) (error : ParseError) : Diagnosis := ⟨error, error.span? source⟩

/-- What a message says. -/
def message (diagnosis : Diagnosis) : String := diagnosis.error.message

/-- The code that identifies errors of a source. -/
def code : String := "jaslang::parse"

/-- Advice. -/
def help? (diagnosis : Diagnosis) : Option String := diagnosis.error.help?

end Diagnosis

end Scriptlet
