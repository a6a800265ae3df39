/-
# Quoted scalars

Text between quotes may go on over several lines, whose gaps are folded, but not past the end of the
document. Single quotes know one escape, the quote written twice. Double quotes have escapes by
letter and by code point, and a backslash at the end of a line joins it to the next one.
-/

import Scriptlet.Yaml.Text

namespace Scriptlet.Yaml

/-- The character that an escape by letter stands for. -/
def escaped? : Char → Option Char
  | '0' => some '\x00'
  | 'a' => some '\x07'
  | 'b' => some '\x08'
  | 't' => some '\t'
  | '\t' => some '\t'
  | 'n' => some '\n'
  | 'v' => some '\x0b'
  | 'f' => some '\x0c'
  | 'r' => some '\r'
  | 'e' => some '\x1b'
  | ' ' => some ' '
  | '"' => some '"'
  | '/' => some '/'
  | '\\' => some '\\'
  | 'N' => some '\u0085'
  | '_' => some '\u00a0'
  | 'L' => some '\u2028'
  | 'P' => some '\u2029'
  | _ => none

/-- The character of a code point in hexadecimal. -/
def hexChar? (digits : List Placed) : Option Char := do
  let code ← hexValue? (digits.map (·.char))
  if code.isValidChar then some (Char.ofNat code) else none

/-- Text after an opening single quote, up to the closing one; a gap has been read before it. -/
def singleQuoted (gap : List Char) : List Placed → Except String (List Char × List Placed)
  | [] => .error "a quoted scalar is not closed"
  | c :: rest =>
    if atDocumentMark (c :: rest) then .error "a document ends inside quotes"
    else if isGap c.char then singleQuoted (gap ++ [c.char]) rest
    else if c.char == '\'' then
      match rest with
      | ⟨'\'', _⟩ :: rest => onto (foldGap gap ++ ['\'']) <$> singleQuoted [] rest
      | rest => .ok (foldGap gap, rest)
    else onto (foldGap gap ++ [c.char]) <$> singleQuoted [] rest

/-- A gap inside double quotes, folded. If a backslash ended the line before the gap, only the line
ends of the gap count. -/
def foldJoined (joined : Bool) (gap : List Char) : List Char :=
  if joined then gap.filter isBreak else foldGap gap

/-- Text after an opening double quote, up to the closing one. A gap has been read before it, and
possibly a backslash that ended a line before that gap. -/
def doubleQuoted (joined : Bool) (gap : List Char) :
    List Placed → Except String (List Char × List Placed)
  | [] => .error "a quoted scalar is not closed"
  | c :: rest =>
    let before := foldJoined joined gap
    if atDocumentMark (c :: rest) then .error "a document ends inside quotes"
    else if isGap c.char then doubleQuoted joined (gap ++ [c.char]) rest
    else if c.char == '"' then .ok (before, rest)
    else if c.char == '\\' then
      match rest with
      | ⟨'x', _⟩ :: d₁ :: d₂ :: rest =>
        match hexChar? [d₁, d₂] with
        | some code => onto (before ++ [code]) <$> doubleQuoted false [] rest
        | none => .error "unknown escape"
      | ⟨'u', _⟩ :: d₁ :: d₂ :: d₃ :: d₄ :: rest =>
        match hexChar? [d₁, d₂, d₃, d₄] with
        | some code => onto (before ++ [code]) <$> doubleQuoted false [] rest
        | none => .error "unknown escape"
      | ⟨'U', _⟩ :: d₁ :: d₂ :: d₃ :: d₄ :: d₅ :: d₆ :: d₇ :: d₈ :: rest =>
        match hexChar? [d₁, d₂, d₃, d₄, d₅, d₆, d₇, d₈] with
        | some code => onto (before ++ [code]) <$> doubleQuoted false [] rest
        | none => .error "unknown escape"
      | d :: rest =>
        if isBreak d.char then onto before <$> doubleQuoted true [] rest
        else
          match escaped? d.char with
          | some meant => onto (before ++ [meant]) <$> doubleQuoted false [] rest
          | none => .error "unknown escape"
      | [] => .error "a quoted scalar is not closed"
    else onto (before ++ [c.char]) <$> doubleQuoted false [] rest

end Scriptlet.Yaml
