/-
# Dialects from YAML

A dialect is written as a mapping. What is left out keeps its stock value, and what is not known is
ignored; a table that is given replaces the stock table. A field of a dialect may be given once,
while in a table the last entry of a word or symbol counts.
-/

import Scriptlet.Dialect.Basic
import Scriptlet.Number.Read
import Scriptlet.Yaml.Node

namespace Scriptlet

namespace Dialect

/-- A part of a definition, or why it has the wrong form. -/
abbrev Read (α : Type) := Except String α

/-- The entries of a mapping; an absent value has none. -/
def readEntries : Yaml.Node → Read (List (Yaml.Node × Yaml.Node))
  | .mapping entries => .ok entries
  | .scalar ⟨"", .plain, _⟩ => .ok []
  | _ => .error "a mapping is expected"

/-- Any scalar, as text. -/
def readText : Yaml.Node → Read String
  | .scalar scalar => .ok scalar.text
  | _ => .error "a scalar is expected"

/-- A text of one character. -/
def readChar (node : Yaml.Node) : Read Char := do
  match (← readText node).toList with
  | [c] => return c
  | _ => .error "one character is expected"

/-- The name that a tag of one document consists of, after its exclamation mark. -/
def localName? (tag : String) : Option String :=
  match tag.toList with
  | '!' :: c :: name => some (String.ofList (c :: name))
  | _ => none

/-- Whether a scalar stands for nothing. -/
def isNull (scalar : Yaml.Scalar) : Bool :=
  scalar.style == .plain && ["", "~", "null", "Null", "NULL"].contains scalar.text

/-- The name of a kind, as a scalar or as the tag of nothing. -/
def readKindName (node : Yaml.Node) : Read String :=
  match node with
  | .scalar scalar =>
    match scalar.tag.bind localName? with
    | none => .ok scalar.text
    | some name => if isNull scalar then .ok name else .error "a kind has no value"
  | _ => .error "a kind is expected"

/-- A kind. -/
def readKind (node : Yaml.Node) : Read Kind := do
  match Kind.ofName? (← readKindName node) with
  | some kind => return kind
  | none => .error "a kind is expected"

/-- The digits of a number in a radix, if all of them are valid. -/
def naturalIn? (radix : Nat) (digits : List Char) : Option Nat := do
  if digits.isEmpty then none
  else
    let values ← digits.mapM Yaml.hexDigit?
    if values.all (· < radix) then some (values.foldl (fun n digit => radix * n + digit) 0)
    else none

/-- An unquoted natural number: an optional plus sign, then decimal digits without leading zeros,
or digits in another radix after the mark of that radix. -/
def natural? (text : List Char) : Option Nat :=
  match
    match text with
    | '+' :: rest => rest
    | text => text with
  | '0' :: 'x' :: rest => naturalIn? 16 rest
  | '0' :: 'o' :: rest => naturalIn? 8 rest
  | '0' :: 'b' :: rest => naturalIn? 2 rest
  | '0' :: _ :: _ => none
  | digits => naturalIn? 10 digits

/-- Whether a scalar can be a number: it is not quoted, or it is a literal block with the tag of
whole numbers. -/
def isNumeric (scalar : Yaml.Scalar) : Bool :=
  scalar.style == .plain
    || (scalar.style == .literal && scalar.tag == some "tag:yaml.org,2002:int")

/-- A level. -/
def readLevel : Yaml.Node → Read Level
  | .scalar scalar =>
    match if isNumeric scalar then natural? scalar.text.toList else none with
    | some level => if h : level < 256 then .ok ⟨level, h⟩ else .error "a level is expected"
    | none => .error "a level is expected"
  | _ => .error "a level is expected"

/-- A table of words. -/
def readWords (node : Yaml.Node) : Read WordTable := do
  let entries ← (← readEntries node).mapM fun (word, kind) =>
    return (← readText word, ← readKind kind)
  return Std.TreeMap.ofList entries

/-- A table of operators. -/
def readOperators (node : Yaml.Node) : Read OperatorTable := do
  let entries ← (← readEntries node).mapM fun (symbol, level) =>
    return (← readText symbol, ← readLevel level)
  return .ofList entries

/-- The fields of a structure. -/
def readFields (node : Yaml.Node) : Read (List (String × Yaml.Node)) := do
  (← readEntries node).mapM fun (name, value) => return (← readText name, value)

/-- The value of a field that may be given once, or its stock value. -/
def readField (fields : List (String × Yaml.Node)) (name : String) (stock : α)
    (read : Yaml.Node → Read α) : Read α :=
  match fields.filter fun field => field.1 = name with
  | [] => .ok stock
  | [(_, node)] => read node
  | _ => .error "a field is given twice"

/-- A lexicon. -/
def readLexicon (node : Yaml.Node) : Read Lexicon := do
  let fields ← readFields node
  let stock := Lexicon.stock
  return {
    operatorSymbols := ← readField fields "operator_symbols" stock.operatorSymbols readText
    assignment := ← readField fields "assignment" stock.assignment readChar
    keywords := ← readField fields "keywords" stock.keywords readWords
    literals := ← readField fields "literals" stock.literals readWords }

/-- A dialect. -/
def readDialect (node : Yaml.Node) : Read Dialect := do
  let fields ← readFields node
  return {
    lexicon := ← readField fields "lexer" Lexicon.stock readLexicon
    operators := ← readField fields "operators" OperatorTable.stock readOperators }

/-- Reads a dialect and checks it. A source without a document is the stock language. -/
def ofYaml (source : String) : Except DialectError Dialect := do
  let node ← (Yaml.Node.ofString source).mapError DialectError.malformed
  let dialect ← (readDialect (node.getD .absent)).mapError DialectError.malformed
  dialect.validate
  return dialect

end Dialect

end Scriptlet
