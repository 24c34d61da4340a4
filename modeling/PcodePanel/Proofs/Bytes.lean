import Mathlib.Data.List.Forall2
import PcodePanel.Bytes

/-!
# Digits to base 256

Bytes are the digits of a number to base 256, in either order.

* `Bytes.getElem?_ofNat` — the digits of a number;
* `Bytes.toNat_slice` — the number that bytes from the middle denote, by shifting and masking;
* `Bytes.toNat_take`, `Bytes.toInt_eq` — the number that the first bytes denote, and the one that
  bytes denote in two's complement.
-/

namespace PcodePanel.Bytes

-- Powers are those of core, whatever else is in scope.
attribute [local instance (10000)] instPowNat

variable {count i n : Nat} {bytes : List UInt8}

theorem getElem?_ofNatLittle (inside : i < count) :
    (ofNatLittle count n)[i]? = some (UInt8.ofNat (n / 256 ^ i)) := by
  induction count generalizing n i with
  | zero => omega
  | succ count ih =>
      cases i with
      | zero => simp [ofNatLittle]
      | succ i =>
          rw [ofNatLittle, List.getElem?_cons_succ, ih (by omega), Nat.div_div_eq_div_mul,
            ← Nat.pow_succ']

/-- The bytes of a number are its digits. In big-endian order the last is the lowest. -/
theorem getElem?_ofNat (bigEndian : Bool) (inside : i < count) :
    (ofNat bigEndian count n)[i]?
      = some (UInt8.ofNat (n / 256 ^ (if bigEndian then count - 1 - i else i))) := by
  cases bigEndian with
  | false => exact getElem?_ofNatLittle inside
  | true =>
      have below : i < (ofNatLittle count n).length := by simpa using inside
      rw [ofNat, if_pos rfl, List.getElem?_reverse below, length_ofNatLittle,
        getElem?_ofNatLittle (by omega), if_pos rfl]

/-- The digits of a residue are those of the number. -/
theorem digit_emod {count : Nat} (value : Int) (place : Nat) (below : place < count) :
    (((value % 256 ^ count).toNat / 256 ^ place % 256 : Nat) : Int)
      = value / 256 ^ place % 256 := by
  let rest := count - place - 1
  have higher : (256 : Int) ^ count = 256 ^ place * (256 * 256 ^ rest) := by
    rw [show count = place + (1 + rest) by omega, Int.pow_add, Int.pow_add, Int.pow_one]
  have nonzero : ∀ k : Nat, (256 : Int) ^ k ≠ 0 := fun _ => Int.pow_ne_zero (by decide)
  have nonneg : 0 ≤ value % 256 ^ count := Int.emod_nonneg _ (nonzero count)
  have whole : value % 256 ^ count + 256 ^ place * (256 * (256 ^ rest * (value / 256 ^ count)))
      = value := by
    rw [← Int.mul_assoc 256, ← Int.mul_assoc, ← higher, Int.emod_add_mul_ediv]
  have shifted := Int.add_mul_ediv_left (value % 256 ^ count)
    (256 * (256 ^ rest * (value / 256 ^ count))) (nonzero place)
  rw [whole] at shifted
  rw [shifted, Int.add_mul_emod_self_left, Int.natCast_emod, Int.natCast_ediv, Int.natCast_pow,
    Int.toNat_of_nonneg nonneg]
  rfl

/-- The first bytes are the low digits. -/
theorem toNatLittle_take (count : Nat) (bytes : List UInt8) :
    toNatLittle (bytes.take count) = toNatLittle bytes % 256 ^ count := by
  induction count generalizing bytes with
  | zero => simp [toNatLittle, Nat.mod_one]
  | succ count ih =>
      cases bytes with
      | nil => simp [toNatLittle]
      | cons b bytes =>
          have digit : b.toNat < 256 := b.toNat_lt
          rw [List.take_succ_cons, toNatLittle, toNatLittle, ih, Nat.pow_succ', Nat.mod_mul,
            Nat.add_mul_mod_self_left, Nat.mod_eq_of_lt digit,
            Nat.add_mul_div_left _ _ (by decide), Nat.div_eq_of_lt digit, Nat.zero_add]

/-- The others are the high digits. -/
theorem toNatLittle_drop (count : Nat) (bytes : List UInt8) :
    toNatLittle (bytes.drop count) = toNatLittle bytes / 256 ^ count := by
  induction count generalizing bytes with
  | zero => simp
  | succ count ih =>
      cases bytes with
      | nil => simp [toNatLittle]
      | cons b bytes =>
          have digit : b.toNat < 256 := b.toNat_lt
          rw [List.drop_succ_cons, toNatLittle, ih, Nat.pow_succ', ← Nat.div_div_eq_div_mul,
            Nat.add_mul_div_left _ _ (by decide), Nat.div_eq_of_lt digit, Nat.zero_add]

/-- Bytes denote a number of their width. -/
theorem toNatLittle_lt (bytes : List UInt8) : toNatLittle bytes < 256 ^ bytes.length := by
  have same := toNatLittle_take bytes.length bytes
  rw [List.take_length] at same
  rw [same]
  exact Nat.mod_lt _ (Nat.pow_pos (by decide))

theorem toNat_lt (bigEndian : Bool) (bytes : List UInt8) :
    toNat bigEndian bytes < 256 ^ bytes.length := by
  cases bigEndian with
  | false => exact toNatLittle_lt bytes
  | true =>
      have below := toNatLittle_lt bytes.reverse
      rw [List.length_reverse] at below
      exact below

/-- The first bytes denote what is left of the number without the other bytes. These are the higher
ones, or in big-endian order the lower ones. -/
theorem toNat_take (bigEndian : Bool) (count : Nat) (bytes : List UInt8) :
    toNat bigEndian (bytes.take count)
      = if bigEndian then toNat bigEndian bytes / 256 ^ (bytes.length - count)
        else toNat bigEndian bytes % 256 ^ count := by
  cases bigEndian with
  | false => exact toNatLittle_take count bytes
  | true =>
      have reversed : (bytes.take count).reverse = bytes.reverse.drop (bytes.length - count) :=
        List.reverse_take
      simp only [toNat, if_true, reversed, toNatLittle_drop]

/-- In two's complement a number from the upper half of its width is negative. -/
theorem toInt_eq (bigEndian : Bool) (bytes : List UInt8) :
    toInt bigEndian bytes
      = if 0 < bytes.length ∧ 256 ^ bytes.length / 2 ≤ toNat bigEndian bytes then
          (toNat bigEndian bytes : Int) - 256 ^ bytes.length
        else toNat bigEndian bytes := by
  have below := toNat_lt bigEndian bytes
  have power : ((256 ^ bytes.length : Nat) : Int) = 256 ^ bytes.length := Int.natCast_pow 256 _
  have residue : (toNat bigEndian bytes : Int) % (256 ^ bytes.length : Nat)
      = toNat bigEndian bytes := Int.emod_eq_of_lt (by omega) (by omega)
  -- A width of no bytes has one number, and every other an even count of them.
  have even : 0 < bytes.length → 256 ^ bytes.length % 2 = 0 := by
    intro some
    obtain ⟨rest, length⟩ := Nat.exists_eq_succ_of_ne_zero (Nat.ne_of_gt some)
    rw [length, Nat.pow_succ]
    omega
  rw [toInt, Int.bmod, residue, ← power]
  by_cases some : 0 < bytes.length
  · have even := even some
    split <;> split <;> omega
  · have one : 256 ^ bytes.length = 1 := by
      rw [Nat.eq_zero_of_not_pos some, Nat.pow_zero]
    rw [one] at below ⊢
    split <;> split <;> omega

theorem shiftRight_bytes (n count : Nat) : n >>> (8 * count) = n / 256 ^ count := by
  rw [Nat.shiftRight_eq_div_pow, Nat.pow_mul]

/-- **Slices.** Bytes from the middle denote what is left of the number when it is shifted past the
lower bytes and masked to their width. The lower bytes are those before them, or in big-endian order
those after them. -/
theorem toNat_slice (bigEndian : Bool) (start : Nat) (inside : start + count ≤ bytes.length) :
    toNat bigEndian ((bytes.drop start).take count)
      = (toNat bigEndian bytes
          >>> (8 * (if bigEndian then bytes.length - start - count else start)))
        % 256 ^ count := by
  rw [shiftRight_bytes]
  cases bigEndian with
  | false => exact (toNatLittle_take _ _).trans (by rw [toNatLittle_drop]; rfl)
  | true =>
      have reversed : ((bytes.drop start).take count).reverse
          = (bytes.reverse.drop (bytes.length - start - count)).take count := by
        rw [List.reverse_take, List.reverse_drop, List.length_drop, List.drop_take]
        congr 1
        omega
      simp only [toNat, if_true, reversed, toNatLittle_take, toNatLittle_drop]

end PcodePanel.Bytes
