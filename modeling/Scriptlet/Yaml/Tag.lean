/-
# Names of YAML

A node may carry an anchor, by which it can be named again, and a tag, which says what it is. A tag
is written as a handle and a suffix; the handle stands for a longer text, and directives at the top
of a document give handles their meaning.
-/

import Scriptlet.Yaml.Text

namespace Scriptlet.Yaml

/-- Whether a character may stand in a name. -/
def isWord (c : Char) : Bool := c.isAlphanum || c == '_' || c == '-'

/-- The longest name at the start of a text, and what follows. -/
def splitWord (text : List Placed) : List Char × List Placed :=
  ((text.takeWhile (isWord ·.char)).map (·.char), text.dropWhile (isWord ·.char))

/-- Reads the name of an anchor. -/
def readAnchor (text : List Placed) : Except String (String × List Placed) :=
  let (name, rest) := splitWord text
  if name.isEmpty then .error "an anchor has no name"
  else if atGap rest || startsWith ['?', ':', ',', ']', '}', '%', '@', '`'].contains rest then
    .ok (String.ofList name, rest)
  else .error "a character cannot stand in the name of an anchor"

/-- Whether a character may stand in a tag. -/
def isTagChar (bracketed : Bool) (c : Char) : Bool :=
  isWord c
    || [';', '/', '?', ':', '@', '&', '=', '+', '$', '.', '!', '~', '*', '\'', '(', ')'].contains c
    || (bracketed && [',', '[', ']'].contains c)

/-- The bytes of the longest text of a tag, where a percent sign stands before a byte in
hexadecimal. -/
def tagBytes (bracketed : Bool) : List Placed → Except String (List UInt8 × List Placed)
  | ⟨'%', _⟩ :: d₁ :: d₂ :: rest =>
    match hexValue? [d₁.char, d₂.char] with
    | some byte => do
      let (bytes, rest) ← tagBytes bracketed rest
      return (UInt8.ofNat byte :: bytes, rest)
    | none => .error "a byte is expected"
  | c :: rest =>
    if c.char == '%' then .error "a byte is expected"
    else if isTagChar bracketed c.char then do
      let (bytes, rest) ← tagBytes bracketed rest
      return (UInt8.ofNat c.char.toNat :: bytes, rest)
    else .ok ([], c :: rest)
  | [] => .ok ([], [])

/-- Reads a text of a tag. -/
def readTagText (bracketed : Bool) (text : List Placed) :
    Except String (String × List Placed) := do
  let (bytes, rest) ← tagBytes bracketed text
  match String.fromUTF8? ⟨bytes.toArray⟩ with
  | some text => return (text, rest)
  | none => .error "a tag is no text"

/-- A tag as it is written. -/
structure TagName where
  handle : String
  suffix : String
  deriving DecidableEq

/-- Reads a tag after its exclamation mark, up to what has to follow it. -/
def readTagName (text : List Placed) : Except String (TagName × List Placed) := do
  match text with
  | ⟨'<', _⟩ :: text =>
    match ← readTagText true text with
    | (suffix, ⟨'>', _⟩ :: rest) =>
      if suffix.isEmpty then .error "a tag is empty" else return (⟨"", suffix⟩, rest)
    | _ => .error "a tag is not closed"
  | text =>
    let (word, rest) := splitWord text
    match rest with
    | ⟨'!', _⟩ :: rest =>
      let (suffix, rest) ← readTagText false rest
      if suffix.isEmpty then .error "a tag is empty"
      else return (⟨"!" ++ String.ofList word ++ "!", suffix⟩, rest)
    | rest =>
      let (more, rest) ← readTagText false rest
      let suffix := String.ofList word ++ more
      return (if suffix.isEmpty then ⟨"", "!"⟩ else ⟨"!", suffix⟩, rest)

/-- Reads a tag after its exclamation mark. -/
def readTag (inside : Bool) (text : List Placed) : Except String (TagName × List Placed) := do
  let (tag, rest) ← readTagName text
  if atGap rest || (inside && startsWith (· == ',') rest) then return (tag, rest)
  else .error "a tag should end"

/-- What stands above a document. -/
inductive Directive
  /-- The version of the format. -/
  | version (major minor : Nat)
  /-- What a handle stands for. -/
  | handle (name meaning : String)
  deriving DecidableEq

/-- Reads a number of at most nine digits. -/
def readNumber (text : List Placed) : Except String (Nat × List Placed) :=
  let digits := (text.takeWhile (·.char.isDigit)).map (·.char)
  if digits.isEmpty || 9 < digits.length then .error "a number is expected"
  else .ok (digits.foldl (fun n c => 10 * n + (c.toNat - '0'.toNat)) 0,
    text.dropWhile (·.char.isDigit))

/-- Reads the handle that a directive is about. -/
def readHandle : List Placed → Except String (String × List Placed)
  | ⟨'!', _⟩ :: text =>
    match splitWord text with
    | (word, ⟨'!', _⟩ :: rest) => .ok ("!" ++ String.ofList word ++ "!", rest)
    | ([], rest) => .ok ("!", rest)
    | _ => .error "a handle is not closed"
  | _ => .error "a handle is expected"

/-- Reads a directive after its percent sign, up to the end of its line. -/
def readDirective (text : List Placed) : Except String (Directive × List Placed) := do
  let (name, rest) := splitWord text
  if name.isEmpty || !atGap rest then .error "a directive has no name"
  else if name = ['Y', 'A', 'M', 'L'] then
    match ← readNumber (dropSpaces rest) with
    | (major, ⟨'.', _⟩ :: rest) =>
      let (minor, rest) ← readNumber rest
      return (.version major minor, ← endLine rest)
    | _ => .error "a version is expected"
  else if name = ['T', 'A', 'G'] then
    let (handle, rest) ← readHandle (dropSpaces rest)
    if !startsWith isSpace rest then .error "a space is expected"
    else
      let (meaning, rest) ← readTagText true (dropSpaces rest)
      if meaning.isEmpty || !atGap rest then .error "a tag is expected"
      else return (.handle handle meaning, ← endLine rest)
  else .error "unknown directive"

end Scriptlet.Yaml
