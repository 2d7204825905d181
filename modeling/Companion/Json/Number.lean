/-!
# Number literals

A literal keeps the difference between `1` and `1.0`, and between `0` and `-0`.

`Number.isInRange` tells whether a literal can be kept as a binary double. A literal is taken
apart into leading digits that fit a word of 64 bits, with zeros for the digits behind them,
and a power of ten; both are rounded to doubles, and their product must not overflow. So a
literal just above the largest double is out of range even where all of its digits, rounded
at once, would give that double.
-/

namespace Companion.Json

/-- A number literal. An integer is written without fraction and exponent; a decimal stands
for `digits * 10 ^ exponent`. The sign is kept apart, so that `-0` differs from `0`. -/
inductive Number where
  | integer (negative : Bool) (magnitude : Nat)
  | decimal (negative : Bool) (digits : Nat) (exponent : Int)
deriving Repr, DecidableEq

namespace Number

/-- The integer a literal denotes. A literal with a fraction or an exponent denotes none, and
neither does `-0`. -/
def toInt? : Number → Option Int
  | .integer false n => some n
  | .integer true 0 => none
  | .integer true n => some (-n)
  | .decimal .. => none

/-- The number of values of a word of 64 bits. -/
def wordSize : Nat := 18446744073709551616

/-- The leading digits that fit a word of 64 bits, and the power of ten that puts them in their
place. -/
def leadingDigits (digits : Nat) (exponent : Int) : Nat × Int :=
  if digits < wordSize then (digits, exponent) else leadingDigits (digits / 10) (exponent + 1)
termination_by digits
decreasing_by simp only [wordSize] at *; omega

/-- A natural number rounded to the nearest one with at most 53 binary digits in front of its
trailing zeros; a tie goes to the even neighbour. -/
def roundToDouble (n : Nat) : Nat :=
  let unit := Nat.pow 2 (n.log2 - 52)
  let below := n / unit
  let rest := 2 * (n % unit)
  let up := unit < rest || (rest == unit && below % 2 == 1)
  (if up then below + 1 else below) * unit

/-- Halfway between the largest double and the next power of two: the least value that no
longer rounds to a double. -/
def overflowBound : Nat := Nat.pow 2 1024 - Nat.pow 2 970

/-- The greatest power of ten that is a double. -/
def greatestPower : Int := 308

/-- Whether `digits * 10 ^ exponent` can be kept as a double. Small values are rounded to zero, so
a negative power is always in range, and no huge power is ever computed. -/
def fitsDouble (digits : Nat) (exponent : Int) : Bool :=
  let (leading, power) := leadingDigits digits exponent
  leading == 0 || power < 0 ||
    (power ≤ greatestPower &&
      roundToDouble leading * roundToDouble (Nat.pow 10 power.toNat) < overflowBound)

/-- Whether the literal can be kept: as a word if it is an integer that fits one, and else as a
double. -/
def isInRange : Number → Bool
  | .integer _ n => n < wordSize || fitsDouble n 0
  | .decimal _ n e => fitsDouble n e

end Number

end Companion.Json
