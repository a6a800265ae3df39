/-
# Tokens of YAML

A document is cut into scalars and indicators. Collections in brackets are structured by the
brackets; blocks are structured by columns, and here their ends and beginnings become tokens of
their own. A block is open as long as what follows is not further left than its column.

The key of an entry is written before it can be known to be one. So the start of everything that may
turn out to be a key is kept, and the tokens that announce the entry are put in there when the colon
is met. Such a key has to end on its line, within 1024 bytes.
-/

import Scriptlet.Yaml.Block
import Scriptlet.Yaml.Plain
import Scriptlet.Yaml.Quoted
import Scriptlet.Yaml.Tag

namespace Scriptlet.Yaml

/-- How a scalar is written. -/
inductive Style
  | plain
  | quoted
  | literal
  | folded
  deriving DecidableEq

/-- Scalars and indicators. -/
inductive Token
  | directive (directive : Directive)
  | documentStart
  | documentEnd
  | blockSequence
  | blockMapping
  | blockEnd
  | openSequence
  | closeSequence
  | openMapping
  | closeMapping
  | dash
  | comma
  | key
  | value
  | alias (name : String)
  | anchor (name : String)
  | tag (name : TagName)
  | scalar (style : Style) (text : String)
  deriving DecidableEq

/-- The start of what may turn out to be a key. -/
structure KeyStart where
  place : Place
  /-- How many tokens stand before it. -/
  serial : Nat
  /-- Whether it stands in the column of a block, where nothing but a key can stand. -/
  required : Bool

namespace KeyStart

/-- Whether a key that goes on at a place has become too long. -/
def isStale (start : KeyStart) (place : Place) : Bool :=
  start.place.line < place.line || start.place.offset + 1024 < place.offset

end KeyStart

/-- What has been read of a document. -/
structure Layout where
  tokens : Array Token
  /-- The columns of the open blocks, innermost first. -/
  columns : List Nat
  /-- The possible key between the innermost brackets. -/
  start : Option KeyStart
  /-- The possible keys further out, one for each open bracket. -/
  outer : List (Option KeyStart)
  /-- Whether a key may start here. -/
  keyAllowed : Bool

namespace Layout

/-- Nothing has been read. -/
def empty : Layout := ⟨#[], [], none, [], true⟩

variable (layout : Layout)

/-- Whether brackets are open. -/
def inside : Bool := !layout.outer.isEmpty

/-- The first column in which the text of the innermost block may stand. -/
def margin : Nat :=
  match layout.columns with
  | [] => 0
  | column :: _ => column + 1

/-- Adds a token. -/
def push (token : Token) : Layout := { layout with tokens := layout.tokens.push token }

/-- Adds an indicator, after which a key may start or not. -/
def mark (token : Token) (keyAllowed : Bool) : Layout :=
  { layout.push token with keyAllowed }

/-- Gives up the possible key. -/
def dropKey : Except String Layout :=
  if layout.start.any (·.required) then .error "a colon is expected"
  else .ok { layout with start := none }

/-- Keeps the start of what may turn out to be a key. -/
def saveKey (place : Place) : Except String Layout :=
  if layout.keyAllowed then do
    let required := !layout.inside && layout.columns.head? == some place.column
    return { ← layout.dropKey with start := some ⟨place, layout.tokens.size, required⟩ }
  else .ok layout

/-- Gives up a possible key that has become too long. -/
def expire? (place : Place) : Option KeyStart → Except String (Option KeyStart)
  | none => .ok none
  | some start =>
    if !start.isStale place then .ok (some start)
    else if start.required then .error "a colon is expected"
    else .ok none

/-- Gives up the possible keys that have become too long. -/
def expire (place : Place) : Except String Layout := do
  return { layout with
    start := ← expire? place layout.start
    outer := ← layout.outer.mapM (expire? place) }

/-- Opens a block in a column unless it is open. Its token goes before the token of a serial. -/
def openBlock (token : Token) (column serial : Nat) : Layout :=
  if layout.inside || column < layout.margin then layout
  else
    { layout with
      tokens := layout.tokens.insertIdxIfInBounds serial token
      columns := column :: layout.columns }

/-- Closes blocks for as long as their columns are not admitted. -/
def closeBlocks (admitted : Nat → Bool) : Layout :=
  if layout.inside then layout
  else
    let closed := layout.columns.takeWhile (!admitted ·)
    { layout with
      tokens := layout.tokens ++ closed.map fun _ => Token.blockEnd
      columns := layout.columns.dropWhile (!admitted ·) }

/-- Adds a mark between documents or a directive. -/
def separate (token : Token) : Except String Layout := do
  return (← (layout.closeBlocks fun _ => false).dropKey).mark token false

/-- Adds an opening bracket. -/
def openBracket (token : Token) (place : Place) : Except String Layout := do
  let layout ← layout.saveKey place
  return { layout.mark token true with start := none, outer := layout.start :: layout.outer }

/-- Adds a closing bracket. -/
def closeBracket (token : Token) : Except String Layout := do
  let layout ← layout.dropKey
  match layout.outer with
  | [] => return layout.mark token false
  | start :: outer => return { layout.mark token false with start, outer }

/-- Adds the indicator of an item or of a key, which may open a block. -/
def markEntry (token block : Token) (place : Place) (keyAllowed : Bool) : Except String Layout :=
  if !layout.inside && !layout.keyAllowed then .error "an entry cannot start here"
  else do
    let layout ← (layout.openBlock block place.column layout.tokens.size).dropKey
    return layout.mark token keyAllowed

/-- Adds the indicator of a value: it turns the possible key into a key, or belongs to a key that
has an indicator of its own. -/
def markValue (place : Place) : Except String Layout :=
  match layout.start with
  | some start =>
    let announced :=
      { layout with tokens := layout.tokens.insertIdxIfInBounds start.serial .key, start := none }
    .ok ((announced.openBlock .blockMapping start.place.column start.serial).mark .value false)
  | none =>
    if !layout.inside && !layout.keyAllowed then .error "a value cannot start here"
    else
      .ok ((layout.openBlock .blockMapping place.column layout.tokens.size).mark .value
        !layout.inside)

/-- Adds a scalar or what belongs to it, if it can be read. -/
def add (place : Place) (read : Except String (Token × List Placed)) :
    Except String (Layout × List Placed) := do
  let layout ← layout.saveKey place
  let (token, rest) ← read
  return (layout.mark token false, rest)

/-- Adds an unquoted scalar. After the end of a line, a key may start. -/
def addPlain (text : List Placed) (place : Place) : Except String (Layout × List Placed) := do
  let layout ← layout.saveKey place
  let read ← plainText layout.inside layout.margin [] text
  return (layout.mark (.scalar .plain (String.ofList read.text)) read.ended, read.rest)

/-- Adds a block scalar. -/
def addBlock (folded : Bool) (rest : List Placed) : Except String (Layout × List Placed) := do
  let layout ← layout.dropKey
  let (text, rest) ← blockText folded layout.columns.head? rest
  return (layout.mark (.scalar (if folded then .folded else .literal) (String.ofList text)) true,
    rest)

end Layout

/-- Leaves out spaces, comments and line ends, and tells whether a key may start after them. Outside
of brackets, a line that may start with a key may not be indented by a tab. -/
def skipGap (inside keyAllowed comment : Bool) : List Placed → Bool × List Placed
  | [] => (keyAllowed, [])
  | c :: rest =>
    if isBreak c.char then skipGap inside (keyAllowed || !inside) false rest
    else if comment || c.char == '#' then skipGap inside keyAllowed true rest
    else if c.char == ' ' || (c.char == '\t' && (inside || !keyAllowed)) then
      skipGap inside keyAllowed false rest
    else (keyAllowed, c :: rest)

/-- Cuts a token off a text that starts with a character. -/
def cut (layout : Layout) (c : Placed) (rest : List Placed) :
    Except String (Layout × List Placed) := do
  let text := c :: rest
  if c.place.column == 0 && c.char == '%' then
    let (directive, rest) ← readDirective rest
    return (← layout.separate (.directive directive), rest)
  else if atDocumentMark text then
    return (← layout.separate (if c.char == '-' then .documentStart else .documentEnd),
      rest.drop 2)
  else if c.char == '-' && atGap rest then
    return (← layout.markEntry .dash .blockSequence c.place true, rest)
  else if c.char == '?' && (layout.inside || atGap rest) then
    return (← layout.markEntry .key .blockMapping c.place !layout.inside, rest)
  else if c.char == ':' && (layout.inside || atGap rest) then
    return (← layout.markValue c.place, rest)
  else
    match c.char with
    | '[' => return (← layout.openBracket .openSequence c.place, rest)
    | '{' => return (← layout.openBracket .openMapping c.place, rest)
    | ']' => return (← layout.closeBracket .closeSequence, rest)
    | '}' => return (← layout.closeBracket .closeMapping, rest)
    | ',' => return ((← layout.dropKey).mark .comma true, rest)
    | '*' => layout.add c.place ((fun (name, rest) => (.alias name, rest)) <$> readAnchor rest)
    | '&' => layout.add c.place ((fun (name, rest) => (.anchor name, rest)) <$> readAnchor rest)
    | '!' =>
      layout.add c.place ((fun (name, rest) => (.tag name, rest)) <$> readTag layout.inside rest)
    | '\'' => layout.add c.place (quoted <$> singleQuoted [] rest)
    | '"' => layout.add c.place (quoted <$> doubleQuoted false [] rest)
    | _ =>
      if !layout.inside && (c.char == '|' || c.char == '>') then
        layout.addBlock (c.char == '>') rest
      else if startsPlain layout.inside c.char rest then layout.addPlain text c.place
      else .error "a character cannot start a token"
where
  /-- The token of quoted text. -/
  quoted (read : List Char × List Placed) : Token × List Placed :=
    (.scalar .quoted (String.ofList read.1), read.2)

/-- The tokens of a text; at most `fuel` of them are cut off. -/
def tokensFrom (fuel : Nat) (layout : Layout) (text : List Placed) :
    Except String (List Token) :=
  match fuel with
  | 0 => .error "the document is too long"
  | fuel + 1 =>
    let (keyAllowed, text) := skipGap layout.inside layout.keyAllowed false text
    match text with
    | [] => do return (← layout.dropKey).closeBlocks (fun _ => false) |>.tokens.toList
    | c :: rest => do
      let layout ← ({ layout with keyAllowed } : Layout).expire c.place
      let (layout, rest) ← cut (layout.closeBlocks (· ≤ c.place.column)) c rest
      tokensFrom fuel layout rest

/-- The tokens of a document. -/
def tokens (source : String) : Except String (List Token) := do
  let text ← characters source
  tokensFrom (text.length + 1) .empty text

end Scriptlet.Yaml
