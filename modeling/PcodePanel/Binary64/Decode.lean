import PcodePanel.Binary64.Basic

/-!
# Binary formats

The bits of a floating-point number: a sign, a biased exponent and a fraction. Numbers of the
32-bit format are numbers of the 64-bit format too.
-/

namespace PcodePanel

-- Powers are those of core, whatever else is in scope.
attribute [local instance (10000)] instPowNat

/-- The widths of the fields of a format. -/
structure BinaryFormat where
  exponentBits : Nat
  fractionBits : Nat
deriving DecidableEq, Repr

namespace BinaryFormat

/-- The 32-bit format. -/
def single : BinaryFormat := ⟨8, 23⟩

/-- The 64-bit format. -/
def double : BinaryFormat := ⟨11, 52⟩

/-- The number that bits denote. The greatest exponent stands for infinity and for what is not a
number; the least one for numbers without a leading one. -/
def decode (format : BinaryFormat) (bits : Nat) : Binary64 :=
  let fraction := bits % 2 ^ format.fractionBits
  let exponent := bits / 2 ^ format.fractionBits % 2 ^ format.exponentBits
  let negative := bits / 2 ^ (format.fractionBits + format.exponentBits) % 2 = 1
  let bias : Int := 2 ^ (format.exponentBits - 1) - 1
  if exponent + 1 = 2 ^ format.exponentBits then
    if fraction = 0 then .infinite negative else .nan
  else if exponent = 0 ∧ fraction = 0 then
    if negative then .negativeZero else .finite .zero
  else
    let significand := if exponent = 0 then fraction else 2 ^ format.fractionBits + fraction
    .ofScaled negative significand (max 1 exponent - bias - format.fractionBits)

end BinaryFormat

end PcodePanel
