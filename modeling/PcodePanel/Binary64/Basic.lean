import PcodePanel.Fault

/-!
# Binary64 numbers

The numbers of the 64-bit binary floating-point format, as exact values. An operation computes
exactly and rounds once, to nearest with ties to even.

* `Binary64.round` rounds an exact value to the format;
* `Binary64.add` and `Binary64.mul` are the rounded sum and product;
* `Binary64.truncate` and `Binary64.nearest` give integers, and refuse what is none.

The sign of a zero is kept where a number is read, and dropped by arithmetic.
-/

namespace PcodePanel

-- Powers are those of core, whatever else is in scope.
attribute [local instance (10000)] instPowNat

/-- A quotient rounded to the nearest integer, a half to the even neighbour. -/
def nearestEven (num den : Nat) : Nat :=
  let quotient := num / den
  match compare (2 * (num % den)) den with
  | .lt => quotient
  | .gt => quotient + 1
  | .eq => quotient + quotient % 2

/-- A 64-bit binary floating-point number. -/
inductive Binary64
  | nan
  | infinite (negative : Bool)
  | negativeZero
  | finite (value : Dyadic)
deriving DecidableEq

namespace Binary64

/-- The least exponent of a last place. -/
def leastExponent : Int := -1074

/-- How many bits a significand has. -/
def precision : Nat := 53

/-- The binary logarithm that a finite number stays below. -/
def exponentLimit : Int := 1024

/-- The number `magnitude * 2 ^ exponent` with a sign, or infinity if it is too large. -/
def ofScaled (negative : Bool) (magnitude : Nat) (exponent : Int) : Binary64 :=
  if magnitude ≠ 0 ∧ exponentLimit ≤ magnitude.log2 + exponent then infinite negative
  else finite (.ofIntWithPrec (if negative then -(magnitude : Int) else magnitude) (-exponent))

/-- The number nearest to an exact value; of two, the one with an even significand. -/
def round : Dyadic → Binary64
  | .zero => finite .zero
  | .ofOdd n k _ =>
    let magnitude := n.natAbs
    let last := max leastExponent (magnitude.log2 - k - (precision - 1))
    if last + k ≤ 0 then ofScaled (n < 0) magnitude (-k)
    else ofScaled (n < 0) (nearestEven magnitude (2 ^ (last + k).toNat)) last

/-- The exact value of a finite number. -/
def value : Binary64 → Dyadic
  | finite value => value
  | _ => .zero

/-- The sum, where `round` turns an exact sum into a number. -/
def addWith (round : Dyadic → Binary64) : Binary64 → Binary64 → Binary64
  | nan, _ => nan
  | _, nan => nan
  | infinite s, infinite t => if s = t then infinite s else nan
  | infinite s, _ => infinite s
  | _, infinite t => infinite t
  | x, y => round (x.value + y.value)

/-- The sum. -/
def add : Binary64 → Binary64 → Binary64 :=
  addWith round

/-- The number with the other sign. -/
def neg : Binary64 → Binary64
  | nan => nan
  | infinite s => infinite !s
  | negativeZero => finite .zero
  | finite value => finite (-value)

/-- The sign of the number, with no sign for zero; `none` for what is not a number. -/
def sign? : Binary64 → Option Int
  | nan => none
  | infinite true => some (-1)
  | infinite false => some 1
  | negativeZero => some 0
  | finite .zero => some 0
  | finite (.ofOdd n _ _) => some n.sign

/-- Whether the number is infinite. -/
def isInfinite : Binary64 → Bool
  | infinite _ => true
  | _ => false

/-- The product. Infinity times zero is not a number. -/
def mul (x y : Binary64) : Binary64 :=
  match x.sign?, y.sign? with
  | some s, some t =>
    if x.isInfinite || y.isInfinite then
      if s * t = 0 then nan else infinite (s * t < 0)
    else round (x.value * y.value)
  | _, _ => nan

/-- The number nearest to an integer, if the integer is within range. -/
def ofInt (n : Int) : Except Fault Binary64 :=
  match round (.ofIntWithPrec n 0) with
  | infinite _ => .error .integerTooLarge
  | x => .ok x

/-- The number one. -/
def one : Binary64 :=
  finite (.ofIntWithPrec 1 0)

/-- The integer that `choose` makes of the magnitude of a finite number, given as a quotient. -/
def toIntBy (choose : Nat → Nat → Nat) : Binary64 → Except Fault Int
  | nan => .error .notANumber
  | infinite _ => .error .infiniteNumber
  | negativeZero => .ok 0
  | finite .zero => .ok 0
  | finite (.ofOdd n k _) =>
    .ok (n.sign * choose (n.natAbs * 2 ^ (-k).toNat) (2 ^ k.toNat))

/-- The integer next to a number on the side of zero. -/
def truncate : Binary64 → Except Fault Int :=
  toIntBy (· / ·)

/-- The integer nearest to a number; of two, the even one. -/
def nearest : Binary64 → Except Fault Int :=
  toIntBy nearestEven

end Binary64

end PcodePanel
