/-
# Reading a source lexeme by lexeme

A cursor is what is left of a source, with the position of its first character. Each reading takes
one lexeme off and moves the position over its text; a fault is reported where the lexeme would
have started, and nothing is left after it. So a source is a finite list of lexemes, with at most
one fault at its end.
-/

import Scriptlet.Lexeme.Basic
import Scriptlet.Lexeme.Scan

namespace Scriptlet

/-- A fault of the source, at the position of the lexeme it spoils. -/
structure LexError where
  fault : Fault
  position : Position
  deriving DecidableEq

namespace LexError

/-- What a message says about a scan error. -/
def message (e : LexError) : String :=
  match e.fault with
  | .unterminatedString => s!"Unterminated string starting at {e.position.describe}"
  | .unexpectedSymbol symbol => s!"Unexpected token: {symbol} at {e.position.describe}"

/-- The code that identifies a scan error. -/
def code (e : LexError) : String :=
  match e.fault with
  | .unterminatedString => "jaslang::lex::unterminated_string"
  | .unexpectedSymbol _ => "jaslang::lex::unexpected_token"

/-- Advice on a scan error. -/
def help? (e : LexError) : Option String :=
  match e.fault with
  | .unterminatedString =>
    some "close the string with the same quote character it was opened with"
  | .unexpectedSymbol _ => none

end LexError

/-- One reading of a source: a lexeme or the fault that ends it. -/
abbrev Reading := Except LexError Lexeme

/-- What is left of a source, and the position of its first character. -/
structure Cursor where
  rest : List Char
  position : Position

namespace Cursor

/-- The cursor at the start of a source. -/
def ofString (source : String) : Cursor := ⟨source.toList, .start⟩

variable (lexicon : Lexicon)

/-- Takes one lexeme off, or reports the fault that ends the source. Nothing is read at the end. -/
def next? (cursor : Cursor) : Option (Reading × Cursor) :=
  match cursor.rest with
  | [] => none
  | c :: rest =>
    match lexicon.scan c rest with
    | .error fault => some (.error ⟨fault, cursor.position⟩, ⟨[], cursor.position⟩)
    | .ok cut =>
      some (.ok ⟨cut.kind, String.ofList cut.text, String.ofList cut.value, cursor.position⟩,
        ⟨cut.rest, cursor.position.after cut.text⟩)

variable {lexicon}

theorem length_rest_lt_of_next? {cursor after : Cursor} {reading : Reading}
    (h : cursor.next? lexicon = some (reading, after)) :
    after.rest.length < cursor.rest.length := by
  unfold next? at h
  split at h
  · cases h
  · next c rest e =>
    split at h
    · cases h
      simp [e]
    · next cut hcut =>
      cases h
      rw [e]
      exact Lexicon.length_rest_lt hcut

variable (lexicon)

/-- Everything there is to read from a cursor on. -/
def readings (cursor : Cursor) : List Reading :=
  match _h : cursor.next? lexicon with
  | none => []
  | some (reading, after) => reading :: after.readings
termination_by cursor.rest.length
decreasing_by exact length_rest_lt_of_next? _h

end Cursor

namespace Lexicon

variable (lexicon : Lexicon)

/-- The readings of a whole source. -/
def readings (source : String) : List Reading := (Cursor.ofString source).readings lexicon

/-- The lexemes of a whole source, or its fault. -/
def lexemes (source : String) : Except LexError (List Lexeme) :=
  (lexicon.readings source).mapM id

end Lexicon

end Scriptlet
