/-!
# Numerals

How integers are written. Hexadecimal numerals have lower-case digits; a sign stands in front of
the digits.

* `Numeral.decimal` and `Numeral.hex` write any integer;
* `Numeral.Short` says that an integer has few enough decimal digits to be shown;
* `Numeral.Word` says that a machine word holds an integer.
-/

namespace PcodePanel.Numeral

-- Powers are those of core, whatever else is in scope.
attribute [local instance (10000)] instPowNat

/-- The sign of a numeral: nothing for zero and above. -/
def sign (n : Int) : String :=
  if n < 0 then "-" else ""

/-- The digits of a natural number in a base, without leading zeros. -/
def digits (base n : Nat) : String :=
  String.ofList (Nat.toDigits base n)

/-- The decimal numeral of an integer. -/
def decimal (n : Int) : String :=
  sign n ++ digits 10 n.natAbs

/-- The hexadecimal numeral of an integer, without a base prefix. -/
def hex (n : Int) : String :=
  sign n ++ digits 16 n.natAbs

/-- A byte as two hexadecimal digits. -/
def hexByte (b : UInt8) : String :=
  String.ofList [Nat.digitChar (b.toNat / 16), Nat.digitChar (b.toNat % 16)]

/-- Decimal numerals with more digits than this are neither written nor read. -/
def digitLimit : Nat := 4300

/-- An integer whose decimal numeral keeps to `digitLimit`. -/
def Short (n : Int) : Prop :=
  n.natAbs < 10 ^ digitLimit

instance (n : Int) : Decidable (Short n) :=
  inferInstanceAs (Decidable (_ < _))

/-- `Short` counts the digits that are written, and not the sign. -/
theorem short_iff_length {n : Int} :
    Short n ↔ (Nat.toDigits 10 n.natAbs).length ≤ digitLimit :=
  (Nat.length_toDigits_le_iff (by decide) (by decide)).symm

/-- An integer that a signed machine word holds. -/
def Word (n : Int) : Prop :=
  -2 ^ (63 : Nat) ≤ n ∧ n < 2 ^ (63 : Nat)

instance (n : Int) : Decidable (Word n) :=
  inferInstanceAs (Decidable (_ ∧ _))

end PcodePanel.Numeral
