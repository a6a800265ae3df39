/-
# The shortest decimal of a number

Of all decimals that read back as a given number the shortest are those with the fewest digits,
and of these the nearest is chosen. On the grid of decimals with a given count of digits only the
two neighbours of the number matter: if any point of the grid reads back, one of them does.
-/

import Scriptlet.Number.Binary64

namespace Scriptlet.Number

/-- A positive decimal, `digits * 10 ^ exponent`. -/
structure Decimal where
  digits : Nat
  exponent : Int
  deriving DecidableEq

/-- Which of two equally near neighbours is taken. -/
inductive Tie
  /-- The greater one. -/
  | up
  /-- The one with an even last digit. -/
  | even
  deriving DecidableEq

namespace Decimal

/-- A decimal as a fraction. -/
def toFraction (d : Decimal) : Nat × Nat := unscale 10 d.digits 1 (-d.exponent)

/-- The rank of the number that a decimal reads back as. -/
def rank (d : Decimal) : Nat := nearestRank d.toFraction.1 d.toFraction.2

/-- The same decimal without zeros at its end. -/
def trim (d : Decimal) : Decimal :=
  if d.digits ≠ 0 ∧ d.digits % 10 = 0 then trim ⟨d.digits / 10, d.exponent + 1⟩ else d
termination_by d.digits
decreasing_by omega

end Decimal

/-- The exponent of the least power of ten that is greater than a positive fraction. -/
def decimalOrder (num den : Nat) : Int :=
  let guess : Int := ((Nat.toDigits 10 num).length : Int) - (Nat.toDigits 10 den).length
  let (n, d) := unscale 10 num den guess
  if d ≤ n then guess + 1 else guess

/-- The neighbour of the fraction on the grid of decimals of `count` digits that reads back as the
number of the given rank; the nearer one, if both do. -/
def onGrid? (tie : Tie) (rank num den count : Nat) : Option Decimal :=
  let exponent := decimalOrder num den - count
  let (n, d) := unscale 10 num den exponent
  let low := n / d
  let twice := 2 * (n % d)
  let below : Decimal := ⟨low, exponent⟩
  let above : Decimal := ⟨low + 1, exponent⟩
  let nearer :=
    if twice < d then below
    else if d < twice then above
    else match tie with
      | .up => above
      | .even => if low % 2 = 0 then below else above
  if nearer.rank = rank then some nearer
  else if below.rank = rank then some below
  else if above.rank = rank then some above
  else none

/-- The number of a given rank, written out in full. -/
def exactDecimal (rank : Nat) : Decimal :=
  match Binary64.exponent rank with
  | .ofNat e => ⟨Binary64.significand rank * Nat.pow 2 e, 0⟩
  | .negSucc e => ⟨Binary64.significand rank * Nat.pow 5 (e + 1), .negSucc e⟩

/-- The shortest decimal that reads back as the number of the given rank, which is not zero.
Seventeen digits always suffice. -/
def shortest (tie : Tie) (rank : Nat) : Decimal :=
  let (num, den) := Binary64.magnitude rank
  let found := (List.range' 1 17).findSome? (onGrid? tie rank num den)
  (found.getD (exactDecimal rank)).trim

end Scriptlet.Number
