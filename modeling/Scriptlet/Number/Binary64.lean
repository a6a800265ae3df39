/-
# Binary floating-point numbers of 64 bits

The finite numbers of one sign are counted upwards from zero: the rank of a number is the number
of smaller magnitudes. Counting makes one kind of subnormal and normal numbers, since each rank
stands for one significand and one power of two; and the rank is what the format stores beside the
sign. All that is not a number is one value.

Rounding an exact fraction gives the number nearest to it, and of two equally near ones that with
the even significand. Beyond the largest rank the result is infinite.
-/

namespace Scriptlet

namespace Number

/-- The natural number nearest to a fraction; a half goes to the even neighbour. -/
def roundHalfEven (num den : Nat) : Nat :=
  let low := num / den
  let twice := 2 * (num % den)
  if twice < den then low
  else if den < twice then low + 1
  else if low % 2 = 0 then low else low + 1

/-- A fraction divided by a power of a base, with a whole numerator and denominator again. -/
def unscale (base num den : Nat) (exponent : Int) : Nat × Nat :=
  match exponent with
  | .ofNat e => (num, den * base.pow e)
  | .negSucc e => (num * base.pow (e + 1), den)

/-- The exponent of the greatest power of two that is at most a positive fraction. -/
def binaryOrder (num den : Nat) : Int :=
  let guess : Int := (num.log2 : Int) - den.log2
  let (n, d) := unscale 2 num den guess
  if d ≤ n then guess else guess - 1

/-- How many numbers share one power of two. -/
def binadeSize : Nat := 0x10000000000000

/-- The rank of the number nearest to a fraction, as if there were no largest number. -/
def nearestRank (num den : Nat) : Nat :=
  if num = 0 then 0
  else
    let exponent := max (binaryOrder num den - 52) (-1074)
    let (n, d) := unscale 2 num den exponent
    (exponent + 1074).toNat * binadeSize + roundHalfEven n d

end Number

/-- A binary floating-point number of 64 bits. -/
inductive Binary64
  | notANumber
  | infinite (negative : Bool)
  | finite (negative : Bool) (rank : Fin 0x7FF0000000000000)
  deriving DecidableEq

namespace Binary64

open Number

/-- The rank that would stand for infinity. -/
def infinityRank : Nat := 0x7FF0000000000000

/-- The significand of a finite number of a given rank. -/
def significand (rank : Nat) : Nat :=
  if rank < binadeSize then rank else binadeSize + rank % binadeSize

/-- The power of two that the significand of a given rank counts. -/
def exponent (rank : Nat) : Int := (max (rank / binadeSize) 1 : Nat) - 1075

/-- The magnitude of a given rank, as a fraction. -/
def magnitude (rank : Nat) : Nat × Nat := unscale 2 (significand rank) 1 (-exponent rank)

/-- The number of a sign and a rank; ranks beyond the last are infinite. -/
def ofRank (negative : Bool) (rank : Nat) : Binary64 :=
  if h : rank < 0x7FF0000000000000 then finite negative ⟨rank, h⟩ else infinite negative

/-- The number nearest to a fraction. -/
def ofFraction (negative : Bool) (num den : Nat) : Binary64 :=
  ofRank negative (nearestRank num den)

/-- The number nearest to `digits * 10 ^ exponent`. Exponents that certainly overflow or vanish
are not worked out. -/
def ofDecimal (negative : Bool) (digits : Nat) (exponent : Int) : Binary64 :=
  if digits = 0 ∨ exponent + digits.log2 < -400 then ofRank negative 0
  else if 400 < exponent then infinite negative
  else
    let (num, den) := unscale 10 digits 1 (-exponent)
    ofFraction negative num den

/-- The bit that stores the sign. -/
def signBit (negative : Bool) : Nat := if negative then 0x8000000000000000 else 0

/-- The stored form of a number. -/
def bits : Binary64 → Nat
  | notANumber => 0x7FF8000000000000
  | infinite negative => signBit negative + infinityRank
  | finite negative rank => signBit negative + rank

end Binary64

end Scriptlet
