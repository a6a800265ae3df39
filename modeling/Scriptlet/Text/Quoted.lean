/-
# Quoted text

A text is shown between double quotes on one line: the quote, the backslash and the usual controls
are escaped by a letter, and every other character that would not be seen by itself is escaped by
its code point in hexadecimal.
-/

import Scriptlet.Text.PrintableTable

namespace Scriptlet.Text

/-- Whether a character shows a glyph of its own. -/
def isVisible (c : Char) : Bool := !extendingRuns.contains c && !unprintableRuns.contains c

/-- The escape that names a character by its code point. -/
def codePointEscape (c : Char) : List Char :=
  ['\\', 'u', '{'] ++ Nat.toDigits 16 c.toNat ++ ['}']

/-- How one character is written between double quotes. -/
def quoteChar (c : Char) : List Char :=
  if c = '\x00' then ['\\', '0']
  else if c = '\t' then ['\\', 't']
  else if c = '\r' then ['\\', 'r']
  else if c = '\n' then ['\\', 'n']
  else if c = '"' then ['\\', '"']
  else if c = '\\' then ['\\', '\\']
  else if isVisible c then [c]
  else codePointEscape c

/-- A text between double quotes, on one line. -/
def quote (text : String) : String :=
  String.ofList ('"' :: (text.toList.flatMap quoteChar ++ ['"']))

end Scriptlet.Text
