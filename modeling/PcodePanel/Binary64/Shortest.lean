import PcodePanel.Binary64.Basic
import PcodePanel.Numeral.Basic

/-!
# Shortest decimals

The decimal with the fewest digits that reads back as a given number; of several, the one nearest
to it, and of two equally near the one with an even last digit.

* `Significand.readsBack` says which decimals read back as a number: those between the points
  half way to its neighbours, these included if its significand is even.
* `Significand.shortest` searches the decimal grids from coarse to fine. On each it need only try
  the two neighbours of the number.
-/

namespace PcodePanel.Binary64

-- Powers are those of core, whatever else is in scope.
attribute [local instance (10000)] instPowNat

/-- A positive finite number, `m * 2 ^ q`. -/
structure Significand where
  m : Nat
  q : Int
deriving DecidableEq, Repr

/-- The decimal number `digits * 10 ^ exponent`. -/
structure Decimal where
  digits : Nat
  exponent : Int
deriving DecidableEq, Repr

/-- Compares `a * 10 ^ i` with `b * 2 ^ j`. -/
def compareScaled (a : Nat) (i : Int) (b : Nat) (j : Int) : Ordering :=
  compare (a * 10 ^ i.toNat * 2 ^ (-j).toNat) (b * 2 ^ j.toNat * 10 ^ (-i).toNat)

namespace Significand

/-- The significand of a positive number `n * 2 ^ (-k)` of the format, filled to the precision as
far as the exponent allows. -/
def ofDyadic (n : Nat) (k : Int) : Significand :=
  let q := max leastExponent (n.log2 - k - (precision - 1))
  ⟨n * 2 ^ (-k - q).toNat, q⟩

/-- Whether the number below is only half as far away as the number above. -/
def isNarrow (x : Significand) : Bool :=
  x.m = 2 ^ (precision - 1) && leastExponent < x.q

/-- Whether a decimal reads back as the number. The ends of the interval are compared in quarters
of the last place. -/
def readsBack (x : Significand) (d : Decimal) : Bool :=
  let low := if x.isNarrow then 4 * x.m - 1 else 4 * x.m - 2
  let even := x.m % 2 == 0
  let fromLow := compareScaled d.digits d.exponent low (x.q - 2)
  let fromHigh := compareScaled d.digits d.exponent (4 * x.m + 2) (x.q - 2)
  (fromLow == .gt || even && fromLow == .eq) && (fromHigh == .lt || even && fromHigh == .eq)

/-- The number as a quotient. -/
def quotient (x : Significand) : Nat × Nat :=
  (x.m * 2 ^ x.q.toNat, 2 ^ (-x.q).toNat)

/-- The least exponent of a power of ten above the number. -/
def scale (x : Significand) : Int :=
  let (num, den) := x.quotient
  if den ≤ num then (Nat.toDigits 10 (num / den)).length
  else 1 - (Nat.toDigits 10 ((den + num - 1) / num - 1)).length

/-- The decimal below the number on the grid of multiples of `10 ^ exponent`. -/
def below (x : Significand) (exponent : Int) : Nat :=
  let (num, den) := x.quotient
  num * 10 ^ (-exponent).toNat / (den * 10 ^ exponent.toNat)

/-- The nearer of the grid points `digits` and `digits + 1`; of two equally near the even one. -/
def nearer (x : Significand) (digits : Nat) (exponent : Int) : Nat :=
  match compareScaled (2 * digits + 1) exponent (2 * x.m) x.q with
  | .lt => digits + 1
  | .gt => digits
  | .eq => digits + digits % 2

/-- The grid point that reads back as the number, if there is one. -/
def onGrid? (x : Significand) (exponent : Int) : Option Decimal :=
  let low := x.below exponent
  match x.readsBack ⟨low, exponent⟩, x.readsBack ⟨low + 1, exponent⟩ with
  | true, true => some ⟨x.nearer low exponent, exponent⟩
  | true, false => some ⟨low, exponent⟩
  | false, true => some ⟨low + 1, exponent⟩
  | false, false => none

/-- The exact value of the number. -/
def exact (x : Significand) : Decimal :=
  ⟨x.m * 2 ^ x.q.toNat * 5 ^ (-x.q).toNat, min 0 x.q⟩

/-- The most digits that the search tries; that many always suffice. -/
def mostDigits : Nat := 17

/-- The shortest decimal that reads back as the number. -/
def shortest (x : Significand) : Decimal :=
  let grids := (List.range mostDigits).map fun (n : Nat) => x.scale - (n + 1 : Int)
  (grids.findSome? x.onGrid?).getD x.exact

end Significand

end PcodePanel.Binary64
