import PcodePanel.Binary64.Basic

/-!
# Exact numbers

Rounding leaves a number as it is if it has few enough bits, and cutting off keeps to an integer
that the number does not exceed by one.

* `Binary64.round_ofIntWithPrec` — a small multiple of a place is exact;
* `Binary64.ofInt_of_small` — so is a small integer;
* `Binary64.exists_truncate` — what is left of a finite number that is cut off;
* `Binary64.IsLength` — the numbers that can be lengths.
-/

namespace PcodePanel.Binary64

-- Powers are those of core, whatever else is in scope.
attribute [local instance (10000)] instPowNat

/-! ## Rounding -/

/-- A number with few bits is exact, if its last place is neither too small nor too large. -/
theorem round_ofOdd {n k : Int} (odd : n % 2 = 1) (small : n.natAbs < 2 ^ precision)
    (fine : k ≤ -leastExponent) (bounded : n.natAbs.log2 - k < exponentLimit) :
    round (.ofOdd n k odd) = finite (.ofOdd n k odd) := by
  have bits : n.natAbs.log2 < precision := (Nat.log2_lt (by omega)).mpr small
  simp only [leastExponent, precision, exponentLimit] at fine bits bounded
  have fits : max leastExponent (n.natAbs.log2 - k - (precision - 1)) + k ≤ 0 := by
    simp only [leastExponent, precision]
    omega
  have inRange : ¬(n.natAbs ≠ 0 ∧ exponentLimit ≤ n.natAbs.log2 + -k) := by
    simp only [exponentLimit]
    omega
  have signed : (if n < 0 then -(n.natAbs : Int) else n.natAbs) = n := by split <;> omega
  rw [round, if_pos fits, ofScaled, if_neg inRange, Int.neg_neg, Dyadic.ofOdd_eq_ofIntWithPrec]
  simp only [decide_eq_true_eq, signed]

/-- The odd part of an integer has as many bits less as it is shifted. -/
theorem log2_shiftRight_trailingZeros {n : Int} (nonzero : n ≠ 0) :
    (n >>> n.trailingZeros).natAbs.log2 + n.trailingZeros = n.natAbs.log2 := by
  have parts : (n >>> n.trailingZeros).natAbs * 2 ^ n.trailingZeros = n.natAbs := by
    have whole := Int.shiftRight_shiftLeft_cancel (Int.two_pow_trailingZeros_dvd nonzero)
    rw [Int.shiftLeft_eq] at whole
    have sizes := congrArg Int.natAbs whole
    rwa [Int.natAbs_mul, Int.natAbs_pow] at sizes
  have odd : (n >>> n.trailingZeros).natAbs ≠ 0 := by
    have := Int.shiftRight_trailingZeros_mod_two nonzero
    omega
  symm
  rw [Nat.log2_eq_iff (by omega), ← parts, Nat.add_right_comm, Nat.pow_add, Nat.pow_add]
  exact ⟨Nat.mul_le_mul_right _ (Nat.log2_self_le odd),
    Nat.mul_lt_mul_of_pos_right Nat.lt_log2_self (Nat.two_pow_pos _)⟩

/-- A multiple of a place is exact, if it is less than `2 ^ 53` of them. -/
theorem round_ofIntWithPrec {n : Int} {places : Nat} (small : n.natAbs < 2 ^ precision)
    (few : (places : Int) ≤ -leastExponent) :
    round (.ofIntWithPrec n places) = finite (.ofIntWithPrec n places) := by
  rw [Dyadic.ofIntWithPrec]
  split
  next => rfl
  next nonzero =>
    have bits := log2_shiftRight_trailingZeros nonzero
    have fewBits : n.natAbs.log2 < precision := (Nat.log2_lt (by omega)).mpr small
    have odd := Int.shiftRight_trailingZeros_mod_two nonzero
    rw [precision] at fewBits
    refine round_ofOdd odd ?_ (by omega) ?_
    · rw [← Nat.log2_lt (by omega), precision]
      omega
    · rw [exponentLimit]
      omega

/-- A small integer is exact. -/
theorem ofInt_of_small {n : Int} (small : n.natAbs < 2 ^ precision) :
    ofInt n = .ok (finite n) := by
  have exact : round (.ofIntWithPrec n 0) = finite n := round_ofIntWithPrec small (by decide)
  rw [ofInt, exact]

/-! ## Arithmetic on finite numbers -/

theorem add_finite (x y : Dyadic) : add (finite x) (finite y) = round (x + y) :=
  rfl

theorem exists_sign (x : Dyadic) : ∃ s, (finite x).sign? = some s := by
  cases x <;> exact ⟨_, rfl⟩

theorem mul_finite (x y : Dyadic) : mul (finite x) (finite y) = round (x * y) := by
  obtain ⟨s, signX⟩ := exists_sign x
  obtain ⟨t, signY⟩ := exists_sign y
  simp only [mul, signX, signY, isInfinite, Bool.or_self, Bool.false_eq_true, if_false, value]

theorem exists_nearest (x : Dyadic) : ∃ n, (finite x).nearest = .ok n := by
  cases x <;> exact ⟨_, rfl⟩

/-! ## Multiples of a place -/

theorem ofIntWithPrec_add (a b places : Int) :
    Dyadic.ofIntWithPrec a places + Dyadic.ofIntWithPrec b places
      = Dyadic.ofIntWithPrec (a + b) places := by
  rw [← Dyadic.toRat_inj, Dyadic.toRat_add]
  simp only [Dyadic.toRat_ofIntWithPrec_eq_mul_two_pow, Rat.intCast_add, Rat.add_mul]

theorem ofIntWithPrec_nonneg (n : Nat) (places : Int) : 0 ≤ Dyadic.ofIntWithPrec n places := by
  rw [← Dyadic.toRat_le_toRat_iff, Dyadic.toRat_ofIntWithPrec_eq_mul_two_pow]
  exact Rat.mul_nonneg Rat.natCast_nonneg (Rat.zpow_nonneg (by decide))

/-- An integer is a multiple of a place. -/
theorem intCast_eq_ofIntWithPrec (n : Int) (places : Nat) :
    (n : Dyadic) = .ofIntWithPrec (n * 2 ^ places) places := by
  rw [← Dyadic.toRat_inj, Dyadic.toRat_intCast, Dyadic.toRat_ofIntWithPrec_eq_mul_two_pow,
    Rat.intCast_mul, Rat.intCast_pow, Rat.mul_assoc]
  have cancel : (2 : Rat) ^ places * 2 ^ (-(places : Int)) = 1 := by
    rw [← Rat.zpow_natCast, ← Rat.zpow_add (by decide), Int.add_right_neg, Rat.zpow_zero]
  exact (congrArg _ cancel).trans (Rat.mul_one _) |>.symm

theorem intCast_le_intCast {a b : Int} (le : a ≤ b) : (a : Dyadic) ≤ b := by
  rw [← Dyadic.toRat_le_toRat_iff, Dyadic.toRat_intCast, Dyadic.toRat_intCast]
  exact Rat.intCast_le_intCast.mpr le

/-! ## Cutting off -/

theorem sign_mul_natAbs_div (n : Int) (a b : Nat) :
    n.sign * ((n.natAbs * a / b : Nat) : Int) = Int.tdiv (n * a) b := by
  rcases Int.lt_trichotomy n 0 with negative | rfl | positive
  · obtain ⟨m, rfl⟩ := Int.exists_eq_neg_ofNat (Int.le_of_lt negative)
    rw [Int.sign_eq_neg_one_of_neg negative, Int.natAbs_neg, Int.natAbs_natCast, Int.neg_mul m,
      Int.neg_tdiv, Int.neg_one_mul]
    rfl
  · simp
  · obtain ⟨m, rfl⟩ := Int.eq_ofNat_of_zero_le (Int.le_of_lt positive)
    rw [Int.sign_eq_one_of_pos positive, Int.natAbs_natCast, Int.one_mul]
    rfl

/-- A finite number can be cut off. It stays below the next integer. -/
theorem exists_truncate (value : Dyadic) :
    ∃ n : Int, (finite value).truncate = .ok n ∧ value < ((n + 1 : Int) : Dyadic) := by
  cases value with
  | zero => exact ⟨0, rfl, by decide⟩
  | ofOdd n k odd =>
      refine ⟨_, rfl, ?_⟩
      have below := Int.lt_tdiv_add_one_mul_self (n * (2 ^ (-k).toNat : Nat))
        (Int.natCast_pos.mpr (Nat.two_pow_pos k.toNat))
      rw [sign_mul_natAbs_div, ← Dyadic.toRat_lt_toRat_iff, Dyadic.toRat_intCast,
        Dyadic.toRat_ofOdd_eq_mkRat, Int.shiftLeft_eq, Nat.one_shiftLeft, Rat.mkRat_eq_div,
        Rat.div_lt_iff (Rat.natCast_pos.mpr (Nat.two_pow_pos _)), ← Rat.intCast_natCast,
        ← Rat.intCast_mul, Rat.intCast_lt_intCast]
      exact below

/-! ## Lengths -/

/-- A number that can be a length: it is finite and not below zero. -/
def IsLength : Binary64 → Prop
  | finite value => 0 ≤ value
  | negativeZero => True
  | _ => False

theorem IsLength.value_nonneg {x : Binary64} (length : x.IsLength) : 0 ≤ x.value := by
  cases x with
  | finite value => exact length
  | negativeZero => decide
  | _ => exact length.elim

/-- A length can be cut off. It stays below the next integer. -/
theorem IsLength.exists_truncate {x : Binary64} (length : x.IsLength) :
    ∃ n : Int, x.truncate = .ok n ∧ x.value < ((n + 1 : Int) : Dyadic) := by
  cases x with
  | finite value => exact Binary64.exists_truncate value
  | negativeZero => exact ⟨0, rfl, by decide⟩
  | _ => exact length.elim

theorem IsLength.addWith {x : Binary64} (length : x.IsLength) (round : Dyadic → Binary64)
    (value : Dyadic) : addWith round (finite value) x = round (value + x.value) := by
  cases x with
  | finite => rfl
  | negativeZero => rfl
  | _ => exact length.elim

end PcodePanel.Binary64
