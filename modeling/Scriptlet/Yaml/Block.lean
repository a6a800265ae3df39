/-
# Block scalars

A block scalar is a header and the lines below it that are indented as far as its first line, or as
far as the header says. Literal text keeps its line ends; in folded text the gap between two lines
is folded, unless one of them starts with a space. The header says what becomes of the line ends
after the last line.
-/

import Scriptlet.Yaml.Text

namespace Scriptlet.Yaml

/-- What becomes of the line ends after the last line. -/
inductive Chomping
  /-- None is kept. -/
  | strip
  /-- The first one is kept. -/
  | clip
  /-- All are kept. -/
  | keep

/-- The line ends that are kept. -/
def Chomping.apply : Chomping → List Char → List Char
  | strip, _ => []
  | clip, breaks => breaks.take 1
  | keep, breaks => breaks

/-- The header of a block scalar. -/
structure Header where
  chomping : Option Chomping
  /-- How much further the text is indented than what it belongs to. -/
  indentation : Option Nat

/-- Reads the sign that tells how to chomp. -/
def readChomping : List Placed → Option Chomping × List Placed
  | ⟨'-', _⟩ :: rest => (some .strip, rest)
  | ⟨'+', _⟩ :: rest => (some .keep, rest)
  | text => (none, text)

/-- Reads the digit that tells the indentation. -/
def readIndentation : List Placed → Except String (Option Nat × List Placed)
  | [] => .ok (none, [])
  | c :: rest =>
    if c.char == '0' then .error "an indentation of zero"
    else if c.char.isDigit then .ok (some (c.char.toNat - '0'.toNat), rest)
    else .ok (none, c :: rest)

/-- Reads a header, whose sign and digit may come in either order, with the end of its line. -/
def readHeader (text : List Placed) : Except String (Header × List Placed) := do
  let (chomping, text) := readChomping text
  let (indentation, text) ← readIndentation text
  let (chomping, text) :=
    match chomping with
    | some chomping => (some chomping, text)
    | none => readChomping text
  return (⟨chomping, indentation⟩, ← endLine text)

/-- The width of the indentation before the first line that holds more than spaces, or before a line
of spaces above it if that is wider; at least `width`. `spaces` is the indentation that has been
read of the line that the text goes on with. -/
def widestIndentation (width spaces : Nat) : List Placed → Except String Nat
  | [] => .ok (max width spaces)
  | c :: rest =>
    if c.char == ' ' then widestIndentation width (spaces + 1) rest
    else if c.char == '\t' then .error "a tab indents a line"
    else if isBreak c.char then widestIndentation (max width spaces) 0 rest
    else .ok (max width spaces)

/-- Reads the line ends before the next line, without the indentation of the lines. -/
def blockBreaks (indentation : Nat) : List Placed → Except String (List Char × List Placed)
  | [] => .ok ([], [])
  | c :: rest =>
    if isBreak c.char then onto [c.char] <$> blockBreaks indentation rest
    else if indentation ≤ c.place.column then .ok ([], c :: rest)
    else if c.char == ' ' then blockBreaks indentation rest
    else if c.char == '\t' then .error "a tab indents a line"
    else .ok ([], c :: rest)

/-- A line of a block scalar, and the line ends up to the next one. -/
structure BlockLine where
  text : List Char
  breaks : List Char

/-- Reads the lines of a block scalar, at most `fuel` of them. -/
def blockLines (indentation : Nat) :
    Nat → List Placed → Except String (List BlockLine × List Placed)
  | _, [] => .ok ([], [])
  | 0, _ => .error "the scalar is too long"
  | fuel + 1, c :: rest =>
    if c.place.column != indentation then .ok ([], c :: rest)
    else do
      let line := (c :: rest).takeWhile (!isBreak ·.char)
      let (breaks, rest) ← blockBreaks indentation ((c :: rest).dropWhile (!isBreak ·.char))
      let (lines, rest) ← blockLines indentation fuel rest
      return (⟨line.map (·.char), breaks⟩ :: lines, rest)

namespace BlockLine

/-- Whether a line is indented further than the block. -/
def startsBlank (line : BlockLine) : Bool := (line.text.head?.map isSpace).getD false

/-- The lines of a block in one text. -/
def join (folded : Bool) (chomping : Chomping) : List BlockLine → List Char
  | [] => []
  | [line] => line.text ++ chomping.apply line.breaks
  | line :: next :: lines =>
    line.text
      ++ (if folded && !line.startsBlank && !next.startsBlank then foldGap line.breaks
        else line.breaks)
      ++ join folded chomping (next :: lines)

end BlockLine

/-- Reads a block scalar after its indicator. `column?` is the column of the collection that it
belongs to. -/
def blockText (folded : Bool) (column? : Option Nat) (text : List Placed) :
    Except String (List Char × List Placed) := do
  let (header, text) ← readHeader text
  let chomping := header.chomping.getD .clip
  let indentation ←
    match header.indentation with
    | some indentation => pure (column?.getD 0 + indentation)
    | none => widestIndentation (column?.getD 0 + 1) 0 text
  let (breaks, text) ← blockBreaks indentation text
  let (lines, rest) ← blockLines indentation text.length text
  match lines with
  | [] => return (if header.chomping matches some .keep then breaks else [], rest)
  | lines => return (breaks ++ BlockLine.join folded chomping lines, rest)

end Scriptlet.Yaml
