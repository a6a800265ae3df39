/-
# Unquoted scalars

An unquoted scalar goes on until something ends it: a colon before a gap, a comment after a gap, a
line that is not indented enough, the end of the document, and between brackets anything that
structures a collection. It may go on over several lines, whose gaps are folded.
-/

import Scriptlet.Yaml.Text

namespace Scriptlet.Yaml

/-- The characters that structure collections between brackets. -/
def isBracketing (c : Char) : Bool := [',', '[', ']', '{', '}'].contains c

/-- Whether an unquoted scalar can start with a character, given what follows it. -/
def startsPlain (inside : Bool) (c : Char) (rest : List Placed) : Bool :=
  if c == '-' then !startsWith isSpace rest
  else if c == '?' || c == ':' then !inside && !atGap rest
  else
    !isGap c && !isBracketing c
      && !(['#', '&', '*', '!', '|', '>', '\'', '"', '%', '@', '`'].contains c)

/-- Whether an unquoted scalar ends before a character that is no gap. `margin` is the first column
that a line may start in, `afterGap` tells whether a gap stands before the character. -/
def endsPlain (inside : Bool) (margin : Nat) (afterGap : Bool) (c : Placed)
    (rest : List Placed) : Bool :=
  atDocumentMark (c :: rest)
    || (afterGap && (c.char == '#' || (!inside && c.place.column < margin)))
    || (c.char == ':' && atGap rest) || (inside && isBracketing c.char)

/-- What has been read of an unquoted scalar. -/
structure PlainText where
  text : List Char
  /-- Whether the line has ended after the text. -/
  ended : Bool
  rest : List Placed

/-- Reads an unquoted scalar on, after a gap. -/
def plainText (inside : Bool) (margin : Nat) (gap : List Char) :
    List Placed → Except String PlainText
  | [] => .ok ⟨[], gap.any isBreak, []⟩
  | c :: rest =>
    if isGap c.char then
      if c.char == '\t' && gap.any isBreak && c.place.column < margin then
        .error "a tab indents a line"
      else plainText inside margin (gap ++ [c.char]) rest
    else if endsPlain inside margin (!gap.isEmpty) c rest then .ok ⟨[], gap.any isBreak, c :: rest⟩
    else if inside && c.char == ':' && startsWith (fun d => isBracketing d || d == '?') rest then
      .error "a colon runs into a bracket"
    else do
      let more ← plainText inside margin [] rest
      return { more with text := foldGap gap ++ c.char :: more.text }

end Scriptlet.Yaml
