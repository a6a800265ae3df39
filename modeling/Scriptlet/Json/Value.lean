/-
# Structured text

A value is written in JSON with an indentation of two spaces for each level and one item a line;
an empty array or object takes no line of its own. Strings escape what has to be escaped and
nothing else. Numbers keep a fraction, and those that are not finite have no form but `null`.
-/

import Scriptlet.Number.Style

namespace Scriptlet.Json

/-- A structured value. The fields of an object keep their order. -/
inductive Value
  | boolean (value : Bool)
  | natural (value : Nat)
  | float (value : Binary64)
  | string (value : String)
  | array (items : List Value)
  | object (fields : List (String × Value))

/-- Numbers are written in positions from `0.00001` up to sixteen digits before the point, and
keep a point; of two equally near decimals the even one is taken. -/
def numberStyle : Number.Style where
  tie := .even
  positional place := -5 < place && place ≤ 16
  keepsPoint := true
  infinity _ := "null"
  undefined := "null"

/-- How one character is written inside a string. -/
def escapeChar (c : Char) : List Char :=
  if c = '"' then ['\\', '"']
  else if c = '\\' then ['\\', '\\']
  else if c = '\n' then ['\\', 'n']
  else if c = '\t' then ['\\', 't']
  else if c = '\r' then ['\\', 'r']
  else if c = '\x08' then ['\\', 'b']
  else if c = '\x0c' then ['\\', 'f']
  else if c.toNat < 16 then ['\\', 'u', '0', '0', '0'] ++ Nat.toDigits 16 c.toNat
  else if c.toNat < 32 then ['\\', 'u', '0', '0'] ++ Nat.toDigits 16 c.toNat
  else [c]

/-- A string between quotes. -/
def quote (text : String) : String :=
  String.ofList ('"' :: (text.toList.flatMap escapeChar ++ ['"']))

/-- The start of a new line at a level. -/
def line (level : Nat) : String := String.ofList ('\n' :: List.replicate (2 * level) ' ')

/-- Items between brackets, one a line. -/
def block (opening closing : String) (level : Nat) (items : List String) : String :=
  match items with
  | [] => opening ++ closing
  | _ :: _ =>
    opening ++ line (level + 1) ++ ("," ++ line (level + 1)).intercalate items ++ line level
      ++ closing

namespace Value

mutual

/-- The text of a value that stands at a level. -/
def render (level : Nat) : Value → String
  | boolean value => toString value
  | natural value => toString value
  | float value => numberStyle.write value
  | string value => quote value
  | array items => block "[" "]" level (renderAll (level + 1) items)
  | object fields => block "\x7b" "\x7d" level (renderFields (level + 1) fields)

/-- The texts of the items of an array. -/
def renderAll (level : Nat) : List Value → List String
  | [] => []
  | value :: rest => render level value :: renderAll level rest

/-- The texts of the fields of an object. -/
def renderFields (level : Nat) : List (String × Value) → List String
  | [] => []
  | (name, value) :: rest => (quote name ++ ": " ++ render level value) :: renderFields level rest

end

/-- The text of a value. -/
def text (value : Value) : String := value.render 0

end Value

end Scriptlet.Json
