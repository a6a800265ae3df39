/-
# Reading numbers

A number is written in decimal with an optional sign, an optional point and an optional exponent;
there is at least one digit before the exponent. Infinity and the undefined number are written as
words, in any case. What is read is the nearest number to what is written.
-/

import Scriptlet.Number.Binary64

namespace Scriptlet

namespace Number

/-- The natural number that a run of decimal digits denotes. -/
def ofDigits (digits : List Char) : Nat :=
  digits.foldl (fun n c => 10 * n + (c.toNat - '0'.toNat)) 0

/-- Takes an optional sign off; the flag says whether it is a minus. -/
def splitSign : List Char → Bool × List Char
  | '-' :: rest => (true, rest)
  | '+' :: rest => (false, rest)
  | text => (false, text)

/-- The exponent that ends a number: nothing, or a letter and a signed run of digits. -/
def readExponent? : List Char → Option Int
  | [] => some 0
  | c :: rest =>
    if c = 'e' ∨ c = 'E' then
      let (negative, digits) := splitSign rest
      if digits ≠ [] ∧ digits.all Char.isDigit then
        some (if negative then -(ofDigits digits : Int) else ofDigits digits)
      else none
    else none

/-- An unsigned decimal: its digits as one whole number, and the power of ten they count. -/
def readDecimal? (text : List Char) : Option (Nat × Int) :=
  let whole := text.takeWhile Char.isDigit
  let (fraction, after) :=
    match text.dropWhile Char.isDigit with
    | '.' :: rest => (rest.takeWhile Char.isDigit, rest.dropWhile Char.isDigit)
    | rest => ([], rest)
  if whole = [] ∧ fraction = [] then none
  else (readExponent? after).map fun e => (ofDigits (whole ++ fraction), e - fraction.length)

end Number

namespace Binary64

open Number

/-- The number that a text denotes, if it denotes one. -/
def ofString? (text : String) : Option Binary64 :=
  let (negative, unsigned) := splitSign text.toList
  match String.ofList (unsigned.map Char.toLower) with
  | "inf" | "infinity" => some (infinite negative)
  | "nan" => some notANumber
  | _ => (readDecimal? unsigned).map fun (digits, e) => ofDecimal negative digits e

end Binary64

end Scriptlet
