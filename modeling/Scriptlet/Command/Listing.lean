/-
# Listings

A lexeme is listed on one line: its position, its kind and its text between quotes, in columns.
-/

import Scriptlet.Lexeme.Basic
import Scriptlet.Text.Quoted

namespace Scriptlet.Command

/-- A text with blanks in front, to a width. -/
def padLeft (width : Nat) (text : String) : String :=
  String.ofList (List.replicate (width - text.length) ' ') ++ text

/-- A text with blanks behind, to a width. -/
def padRight (width : Nat) (text : String) : String :=
  text ++ String.ofList (List.replicate (width - text.length) ' ')

/-- The line of a lexeme. -/
def lexemeLine (lexeme : Lexeme) : String :=
  padLeft 4 (toString lexeme.position.line) ++ ":"
    ++ padRight 4 (toString lexeme.position.column) ++ " " ++ padRight 12 lexeme.kind.name ++ " "
    ++ Text.quote lexeme.text ++ "\n"

/-- The lines of lexemes. -/
def listing (lexemes : List Lexeme) : String := String.join (lexemes.map lexemeLine)

end Scriptlet.Command
