/-
# Lower case

A word is brought to lower case character by character, with two departures from the one-character
mappings: the capital I with a dot above becomes two characters, and a capital sigma becomes the
final small sigma at the end of a word. The end of a word is judged by the nearest characters on
either side that are not passed over: cased before, and not cased after.
-/

import Scriptlet.Text.CaseTable

namespace Scriptlet.Text

/-- A letter with an upper, lower or title case form. -/
def isCased (c : Char) : Bool := casedRuns.contains c

/-- A mark that is passed over when the context of a letter is inspected. -/
def isCaseIgnorable (c : Char) : Bool := caseIgnorableRuns.contains c

namespace LowerRun

/-- Whether the run has a mapping for a character. -/
def covers (run : LowerRun) (c : Char) : Bool :=
  run.first ≤ c.toNat && c.toNat ≤ run.last && (c.toNat - run.first) % run.step == 0

/-- The lower case form of a character that the run covers. -/
def image (run : LowerRun) (c : Char) : Char :=
  Char.ofNat ((c.toNat : Int) + run.distance).toNat

end LowerRun

/-- The lower case form of a character taken by itself. -/
def lowerChar (c : Char) : List Char :=
  if c = 'İ' then ['i', '\u0307'] else
    match lowerRuns.find? (·.covers c) with
    | some run => [run.image c]
    | none => [c]

/-- Whether the first character that is not passed over is a cased letter. -/
def meetsCased (text : List Char) : Bool :=
  ((text.dropWhile isCaseIgnorable).head?.map isCased).getD false

/-- A sigma between these surroundings ends a word; `before` is read backwards. -/
def endsWord (before after : List Char) : Bool := meetsCased before && !meetsCased after

/-- Lower case of the rest of a text, given what stands before it, nearest character first. -/
def lowerFrom (before : List Char) : List Char → List Char
  | [] => []
  | c :: rest =>
    (if c = 'Σ' then [if endsWord before rest then 'ς' else 'σ'] else lowerChar c)
      ++ lowerFrom (c :: before) rest

/-- A text in lower case. -/
def lowerCase (text : String) : String := String.ofList (lowerFrom [] text.toList)

end Scriptlet.Text
