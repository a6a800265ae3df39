/-
# Characters of YAML

A source is read as a list of characters, each with its place: line, column and byte, counted from
zero. The three ways to end a line with controls are brought to one, the line feed; the separators
of lines and of paragraphs end a line too, but remain what they are. A gap is a stretch of spaces
and line ends between two words; inside a scalar it is folded.
-/

namespace Scriptlet.Yaml

/-- Whether a character may stand in a document. -/
def isAllowed (c : Char) : Bool :=
  c == '\t' || c == '\n' || c == '\r' || c == '\u0085' || (0x20 ≤ c.toNat && c.toNat ≤ 0x7E)
    || (0xA0 ≤ c.toNat && c.toNat ≤ 0xFFFD) || 0x10000 ≤ c.toNat

/-- Writes a line end that is made of controls as a line feed. -/
def unifyBreaks : List Char → List Char
  | [] => []
  | '\r' :: '\n' :: rest => '\n' :: unifyBreaks rest
  | c :: rest => (if c == '\r' || c == '\u0085' then '\n' else c) :: unifyBreaks rest

/-- Whether a character ends a line. -/
def isBreak (c : Char) : Bool := c == '\n' || c == '\u2028' || c == '\u2029'

/-- Whether a character separates words of a line. -/
def isSpace (c : Char) : Bool := c == ' ' || c == '\t'

/-- Whether a character separates words. -/
def isGap (c : Char) : Bool := isSpace c || isBreak c

/-- The place of a character. -/
structure Place where
  line : Nat
  column : Nat
  /-- How many bytes stand before the character. -/
  offset : Nat
  deriving DecidableEq

namespace Place

/-- The place after one more character. -/
def advance (place : Place) (c : Char) : Place :=
  if isBreak c then ⟨place.line + 1, 0, place.offset + c.utf8Size⟩
  else ⟨place.line, place.column + 1, place.offset + c.utf8Size⟩

end Place

/-- A character with its place. -/
structure Placed where
  char : Char
  place : Place
  deriving DecidableEq

/-- The characters of a text that starts at a place. -/
def placed (place : Place) : List Char → List Placed
  | [] => []
  | c :: rest => ⟨c, place⟩ :: placed (place.advance c) rest

/-- The characters of a source. A mark of the byte order at its start is left out, but takes up a
column. -/
def characters (source : String) : Except String (List Placed) :=
  let text := source.toList
  if !text.all isAllowed then .error "a control character"
  else
    match unifyBreaks text with
    | '\uFEFF' :: rest => .ok (placed ((⟨0, 0, 0⟩ : Place).advance '\uFEFF') rest)
    | text => .ok (placed ⟨0, 0, 0⟩ text)

/-- Whether a text starts with a character of a kind. -/
def startsWith (kind : Char → Bool) : List Placed → Bool
  | [] => false
  | c :: _ => kind c.char

/-- Whether no word goes on in a text. -/
def atGap (text : List Placed) : Bool := text.isEmpty || startsWith isGap text

/-- Whether a text starts with one of the marks between documents, which stand at the start of a
line. -/
def atDocumentMark : List Placed → Bool
  | a :: b :: c :: rest =>
    a.place.column == 0 && a.char == b.char && b.char == c.char
      && (a.char == '-' || a.char == '.') && atGap rest
  | _ => false

/-- A gap inside a scalar, folded: without line ends it remains, one line feed becomes a space, and
the first of several line feeds is left out. -/
def foldGap (gap : List Char) : List Char :=
  match gap.filter isBreak with
  | [] => gap
  | ['\n'] => [' ']
  | '\n' :: breaks => breaks
  | breaks => breaks

/-- Leaves out the spaces at the start of a text. -/
def dropSpaces (text : List Placed) : List Placed := text.dropWhile (isSpace ·.char)

/-- Leaves out the rest of a line, on which at most a comment may stand. -/
def endLine (text : List Placed) : Except String (List Placed) :=
  let text := dropSpaces text
  let text := if startsWith (· == '#') text then text.dropWhile (!isBreak ·.char) else text
  match text with
  | [] => .ok []
  | c :: rest => if isBreak c.char then .ok rest else .error "the line should end"

/-- Puts text in front of what has been read. -/
def onto (front : List Char) (read : List Char × List Placed) : List Char × List Placed :=
  (front ++ read.1, read.2)

/-- The value of a hexadecimal digit. -/
def hexDigit? (c : Char) : Option Nat :=
  if c.isDigit then some (c.toNat - '0'.toNat)
  else if 'a' ≤ c ∧ c ≤ 'f' then some (c.toNat - 'a'.toNat + 10)
  else if 'A' ≤ c ∧ c ≤ 'F' then some (c.toNat - 'A'.toNat + 10)
  else none

/-- The value of a number in hexadecimal. -/
def hexValue? (digits : List Char) : Option Nat := do
  let values ← digits.mapM hexDigit?
  return values.foldl (fun n digit => 16 * n + digit) 0

end Scriptlet.Yaml
