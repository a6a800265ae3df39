/-
# Documents of YAML

A document is a scalar, a sequence or a mapping, whose keys are nodes as well. What is not written
is the empty unquoted scalar. A node that carries an anchor can be named again after it has started;
the alias stands for the same node, unless it stands inside of that node.
-/

import Scriptlet.Yaml.Token

namespace Scriptlet.Yaml

/-- A piece of text. -/
structure Scalar where
  text : String
  style : Style
  tag : Option String
  deriving DecidableEq

/-- What a document holds. -/
inductive Node
  | scalar (scalar : Scalar)
  | sequence (items : List Node)
  | mapping (entries : List (Node × Node))
  /-- An alias inside of the node that it names. -/
  | loop

namespace Node

/-- The value that is not written. -/
def absent : Node := .scalar ⟨"", .plain, none⟩

/-- What is left of a document while it is read. -/
structure Reading where
  tokens : List Token
  /-- What the handles of tags stand for. -/
  handles : List (String × String)
  /-- The anchors, the last one first, with their nodes as far as they have ended. -/
  anchors : List (String × Option Node)

/-- A part of a document that is read off, or why it cannot be. -/
abbrev Read := StateT Reading (Except String)

/-- The next token. -/
def next? : Read (Option Token) := do return (← get).tokens.head?

/-- Leaves the next token out. -/
def skip : Read Unit := modify fun reading => { reading with tokens := reading.tokens.tail }

/-- Whether the next token is one of these; there is none at the end. -/
def nextIn (tokens : List Token) : Read Bool := do return (← next?).any tokens.contains

/-- The node that an anchor names. -/
def named (name : String) : Read Node := do
  match (← get).anchors.lookup name with
  | some node => return node.getD .loop
  | none => throw "unknown anchor"

/-- Keeps an anchor whose node starts. -/
def startNamed (name : String) : Read Unit :=
  modify fun reading => { reading with anchors := (name, none) :: reading.anchors }

/-- Keeps the node of an anchor, unless the anchor has been used for another node since. -/
def endNamed (node : Node) (name : String) : Read Unit :=
  modify fun reading =>
    match reading.anchors.lookup name with
    | some none => { reading with anchors := (name, some node) :: reading.anchors }
    | _ => reading

/-- What a tag stands for. -/
def tagNamed (tag : TagName) : Read String := do
  if tag.handle.isEmpty then return tag.suffix
  else
    match (← get).handles.lookup tag.handle with
    | some meaning => return meaning ++ tag.suffix
    | none => throw "unknown handle"

/-- The anchor and the tag of a node, in either order. -/
def properties : Read (Option String × Option String) := do
  match ← next? with
  | some (.anchor name) =>
    skip
    match ← next? with
    | some (.tag tag) =>
      skip
      return (some name, some (← tagNamed tag))
    | _ => return (some name, none)
  | some (.tag tag) =>
    skip
    match ← next? with
    | some (.anchor name) =>
      skip
      return (some name, some (← tagNamed tag))
    | _ => return (none, some (← tagNamed tag))
  | _ => return (none, none)

mutual

/-- A node, in a place that may admit blocks, and as the value of an entry also items in the column
of the entry. -/
def node : Nat → Bool → Bool → Read Node
  | 0, _, _ => throw "the nesting is too deep"
  | fuel + 1, block, indentless => do
    match ← next? with
    | some (.alias name) =>
      skip
      named name
    | _ =>
      let (anchor, tag) ← properties
      anchor.forM startNamed
      let node ← content fuel block indentless (anchor.isSome || tag.isSome) tag
      anchor.forM (endNamed node)
      return node

/-- A node without its anchor and tag. Only a node that has one of these may be left out. -/
def content : Nat → Bool → Bool → Bool → Option String → Read Node
  | 0, _, _, _, _ => throw "the nesting is too deep"
  | fuel + 1, block, indentless, marked, tag => do
    match ← next?, block, indentless with
    | some .dash, _, true => .sequence <$> indentlessItems fuel
    | some (.scalar style text), _, _ =>
      skip
      return .scalar ⟨text, style, tag.filter (· != "!")⟩
    | some .openSequence, _, _ =>
      skip
      .sequence <$> items fuel true
    | some .openMapping, _, _ =>
      skip
      .mapping <$> entries fuel true
    | some .blockSequence, true, _ =>
      skip
      .sequence <$> blockItems fuel
    | some .blockMapping, true, _ =>
      skip
      .mapping <$> blockEntries fuel
    | _, _, _ =>
      if marked then return .scalar ⟨"", .plain, tag⟩ else throw "a value is expected"

/-- A node between brackets that is absent before some tokens. -/
def optional : Nat → List Token → Read Node
  | 0, _ => throw "the nesting is too deep"
  | fuel + 1, ends => do
    if ← nextIn ends then return .absent else node fuel false false

/-- The value of an entry between brackets, with its colon. -/
def value : Nat → List Token → Read Node
  | 0, _ => throw "the nesting is too deep"
  | fuel + 1, ends => do
    if ← nextIn [.value] then
      skip
      optional fuel ends
    else return .absent

/-- The items of a sequence up to its closing bracket. The first one has no comma before it. -/
def items : Nat → Bool → Read (List Node)
  | 0, _ => throw "the nesting is too deep"
  | fuel + 1, first => do
    if ← nextIn [.closeSequence] then
      skip
      return []
    else
      if !first then
        if ← nextIn [.comma] then skip else throw "a comma or a closing bracket is expected"
      if ← nextIn [.closeSequence] then
        skip
        return []
      else
        let item ← item fuel
        return item :: (← items fuel false)

/-- One item of a sequence between brackets; a single entry stands for a mapping. If the key of that
entry is left out, the token in its place is passed over. -/
def item : Nat → Read Node
  | 0 => throw "the nesting is too deep"
  | fuel + 1 => do
    if ← nextIn [.key] then
      skip
      let key ←
        if ← nextIn [.value, .comma, .closeSequence] then do
          skip
          pure .absent
        else node fuel false false
      return .mapping [(key, ← value fuel [.comma, .closeSequence])]
    else node fuel false false

/-- The entries of a mapping up to its closing bracket. The first one has no comma before it. A key
that is not announced has no value. -/
def entries : Nat → Bool → Read (List (Node × Node))
  | 0, _ => throw "the nesting is too deep"
  | fuel + 1, first => do
    if ← nextIn [.closeMapping] then
      skip
      return []
    else
      if !first then
        if ← nextIn [.comma] then skip else throw "a comma or a closing bracket is expected"
      if ← nextIn [.closeMapping] then
        skip
        return []
      else if ← nextIn [.key] then
        skip
        let key ← optional fuel [.value, .comma, .closeMapping]
        let value ← value fuel [.comma, .closeMapping]
        return (key, value) :: (← entries fuel false)
      else
        let key ← node fuel false false
        return (key, .absent) :: (← entries fuel false)

/-- The items of a block of its own. -/
def blockItems : Nat → Read (List Node)
  | 0 => throw "the nesting is too deep"
  | fuel + 1 => do
    if ← nextIn [.dash] then
      skip
      let item ← if ← nextIn [.dash, .blockEnd] then pure .absent else node fuel true false
      return item :: (← blockItems fuel)
    else if ← nextIn [.blockEnd] then
      skip
      return []
    else throw "a dash is expected"

/-- The items in the column of the entry that they are the value of. -/
def indentlessItems : Nat → Read (List Node)
  | 0 => throw "the nesting is too deep"
  | fuel + 1 => do
    if ← nextIn [.dash] then
      skip
      let item ←
        if ← nextIn [.dash, .key, .value, .blockEnd] then pure .absent else node fuel true false
      return item :: (← indentlessItems fuel)
    else return []

/-- The entries of a block. -/
def blockEntries : Nat → Read (List (Node × Node))
  | 0 => throw "the nesting is too deep"
  | fuel + 1 => do
    if ← nextIn [.key] then
      skip
      let key ← blockPart fuel
      let value ←
        if ← nextIn [.value] then
          skip
          blockPart fuel
        else pure .absent
      return (key, value) :: (← blockEntries fuel)
    else if ← nextIn [.blockEnd] then
      skip
      return []
    else throw "a key is expected"

/-- The key or the value of an entry of a block. -/
def blockPart : Nat → Read Node
  | 0 => throw "the nesting is too deep"
  | fuel + 1 => do
    if ← nextIn [.key, .value, .blockEnd] then return .absent else node fuel true true

end

/-- Reads the directives above a document. There is at most one version, which has to be known, and
a handle gets at most one meaning. -/
def directives (versioned : Bool) : List Token → Read Unit
  | .directive (.version major minor) :: rest => do
    if versioned then throw "a second version"
    else if major != 1 || (minor != 1 && minor != 2) then throw "an unknown version"
    else
      skip
      directives true rest
  | .directive (.handle name meaning) :: rest => do
    if ((← get).handles.lookup name).isSome then throw "a handle with two meanings"
    else
      modify fun reading => { reading with handles := (name, meaning) :: reading.handles }
      skip
      directives versioned rest
  | _ => return

/-- What handles stand for, unless a directive says so. -/
def commonHandles : List (String × String) := [("!", "!"), ("!!", "tag:yaml.org,2002:")]

/-- Whether a token is about documents and not part of one. -/
def isOutside : Token → Bool
  | .directive _ | .documentStart | .documentEnd => true
  | _ => false

/-- Reads one document, if there is one, which directives and a mark may announce. -/
def document (fuel : Nat) : Read (Option Node) := do
  match ← next? with
  | none => return none
  | some token =>
    let announced := token matches .directive _ | .documentStart
    if announced then
      directives false (← get).tokens
      if ← nextIn [.documentStart] then skip else throw "the start of a document is expected"
    modify fun reading => { reading with handles := reading.handles ++ commonHandles }
    let empty := announced && (← next?).all isOutside
    if empty then return some .absent else some <$> node fuel true false

/-- The document of a source, if there is one. There may not be another one after it. -/
def ofString (source : String) : Except String (Option Node) := do
  let tokens ← tokens source
  let (document, reading) ← (document (4 * tokens.length + 4)).run ⟨tokens, [], []⟩
  if reading.tokens.all (· = .documentEnd) then return document
  else throw "the document goes on after its end"

end Node

end Scriptlet.Yaml
