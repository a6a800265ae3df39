/-
# Positions in a text

A position is a line and a column, both counted from one. Columns count characters, whatever
their width in bytes. A position is advanced over the characters that are read: a line feed
starts the next line, and every other character takes one column.
-/

namespace Scriptlet

/-- A line and a column of a text, both counted from one. -/
structure Position where
  line : Nat
  column : Nat
  deriving DecidableEq

namespace Position

/-- The position of the first character of any text. -/
def start : Position := ⟨1, 1⟩

/-- The position after one more character. -/
def advance (p : Position) (c : Char) : Position :=
  if c = '\n' then ⟨p.line + 1, 1⟩ else ⟨p.line, p.column + 1⟩

/-- The position after a run of characters. -/
def after (p : Position) (text : List Char) : Position := text.foldl advance p

@[simp]
theorem after_nil (p : Position) : p.after [] = p := rfl

@[simp]
theorem after_cons (p : Position) (c : Char) (text : List Char) :
    p.after (c :: text) = (p.advance c).after text := rfl

theorem after_append (p : Position) (first second : List Char) :
    p.after (first ++ second) = (p.after first).after second := by
  simp [after, List.foldl_append]

/-- How a position reads in a message. -/
def describe (p : Position) : String := s!"line {p.line}, column {p.column}"

end Position

end Scriptlet
