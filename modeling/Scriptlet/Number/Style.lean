/-
# Writing numbers

A style settles how the shortest digits of a number are laid out: whether they are written in
positions or with an exponent, whether a whole number keeps a zero after the point, which of two
equally near decimals is taken, and what stands for infinity and the undefined number.
-/

import Scriptlet.Number.Shortest

namespace Scriptlet

namespace Number

/-- How numbers are written. -/
structure Style where
  /-- Which of two equally near shortest decimals is taken. -/
  tie : Tie
  /-- Whether digits are written in positions, given how many of them stand before the point. -/
  positional : Int → Bool
  /-- Whether a whole number in positions ends in a point and a zero. -/
  keepsPoint : Bool
  /-- What stands for the infinity of a sign. -/
  infinity : Bool → String
  /-- What stands for the undefined number. -/
  undefined : String

/-- A decimal with one digit before the point and a signed exponent. -/
def withExponent (digits : List Char) (place : Int) : List Char :=
  let mantissa :=
    match digits with
    | first :: second :: rest => first :: '.' :: second :: rest
    | short => short
  let e := place - 1
  mantissa ++ ['e', if e < 0 then '-' else '+'] ++ Nat.toDigits 10 e.natAbs

namespace Style

variable (style : Style)

/-- Ends a whole number. -/
def point : List Char := if style.keepsPoint then ['.', '0'] else []

/-- A decimal in positions, with `place` digits before the point. -/
def inPositions (digits : List Char) (place : Int) : List Char :=
  if place ≤ 0 then ['0', '.'] ++ List.replicate (-place).toNat '0' ++ digits
  else if digits.length ≤ place then
    digits ++ List.replicate (place - digits.length).toNat '0' ++ style.point
  else digits.take place.toNat ++ ['.'] ++ digits.drop place.toNat

/-- A decimal in the style. -/
def decimal (d : Decimal) : List Char :=
  let digits := Nat.toDigits 10 d.digits
  let place := digits.length + d.exponent
  if style.positional place then style.inPositions digits place
  else withExponent digits place

/-- A number in the style. -/
def write : Binary64 → String
  | .notANumber => style.undefined
  | .infinite negative => style.infinity negative
  | .finite negative rank =>
    let digits :=
      if rank.val = 0 then '0' :: style.point
      else style.decimal (shortest style.tie rank)
    String.ofList (if negative then '-' :: digits else digits)

/-- Plain digits, never an exponent and no point after a whole number. -/
def plain : Style where
  tie := .up
  positional _ := true
  keepsPoint := false
  infinity negative := if negative then "-inf" else "inf"
  undefined := "NaN"

end Style

end Number

end Scriptlet
