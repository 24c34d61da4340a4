import PcodePanel.Fault

/-!
# Widths

Numbers of a given width. A width is counted in bytes, and a residue in bits.

* `Width.bits?` counts the bits of a width, and refuses a width that no number has: a negative one,
  or one of more digits than can be counted. Memory is as large as a number needs;
* `Width.low` keeps the low bits of a number, and `Width.signed` reads them in two's complement.
  A number that has the width already is its own residue, and no power of two is built for it.
-/

namespace PcodePanel.Width

-- Powers are those of core, whatever else is in scope.
attribute [local instance (10000)] instPowNat

/-- The greatest width of a number whose digits can be counted. They are digits of 30 bits; a
machine word counts the bytes that these take, four for each, and a header of 24. -/
def countable : Int :=
  30 * ((2 ^ (63 : Nat) - 1 - 24) / 4 - 1) / 8

/-- A width that a number can have. -/
def Fits (size : Int) : Prop :=
  0 ≤ size ∧ size ≤ countable

instance (size : Int) : Decidable (Fits size) :=
  inferInstanceAs (Decidable (_ ∧ _))

/-- How many bits a number of a width has. -/
def bits? (size : Int) : Except Fault Nat :=
  if size < 0 then .error .negativeWidth
  else if countable < size then .error .uncountableWidth
  else .ok (8 * size.toNat)

theorem bits?_of_fits {size : Int} (fits : Fits size) : bits? size = .ok (8 * size.toNat) := by
  obtain ⟨nonneg, counted⟩ := fits
  rw [bits?, if_neg (by omega), if_neg (by omega)]

theorem bits?_of_neg {size : Int} (negative : size < 0) : bits? size = .error .negativeWidth :=
  if_pos negative

theorem bits?_of_wide {size : Int} (nonneg : 0 ≤ size) (wide : ¬ Fits size) :
    bits? size = .error .uncountableWidth := by
  have beyond : countable < size := by
    unfold Fits at wide
    omega
  rw [bits?, if_neg (by omega), if_pos beyond]

theorem bits?_of_not_fits {size : Int} (unfit : ¬ Fits size) :
    ∃ fault, bits? size = .error fault := by
  rcases Int.lt_or_le size 0 with negative | nonneg
  · exact ⟨_, bits?_of_neg negative⟩
  · exact ⟨_, bits?_of_wide nonneg unfit⟩

/-- The low bits of a number. -/
def low (bits : Nat) (x : Int) : Int :=
  if 0 ≤ x ∧ x.toNat.log2 < bits then x else x % 2 ^ bits

/-- The low bits of a number in two's complement. -/
def signed (bits : Nat) (x : Int) : Int :=
  if x.natAbs.log2 + 1 < bits then x else x.bmod (2 ^ bits)

theorem low_eq (bits : Nat) (x : Int) : low bits x = x % 2 ^ bits := by
  unfold low
  split
  next h =>
    obtain ⟨nonneg, room⟩ := h
    have below : x.toNat < 2 ^ bits :=
      Nat.lt_of_lt_of_le Nat.lt_log2_self (Nat.pow_le_pow_right (by decide) room)
    have below : x < ((2 ^ bits : Nat) : Int) := by omega
    exact (Int.emod_eq_of_lt nonneg (by exact_mod_cast below)).symm
  next => rfl

theorem signed_eq (bits : Nat) (x : Int) : signed bits x = x.bmod (2 ^ bits) := by
  unfold signed
  split
  next room =>
    have below : x.natAbs < 2 ^ (x.natAbs.log2 + 1) := Nat.lt_log2_self
    have wide : 2 ^ (x.natAbs.log2 + 1 + 1) ≤ 2 ^ bits := Nat.pow_le_pow_right (by decide) room
    rw [Nat.pow_succ] at wide
    exact (Int.bmod_eq_of_le_mul_two (by omega) (by omega)).symm
  next => rfl

end PcodePanel.Width
