/-!
# Bytes

Bytes as numbers, in either byte order.

* `Bytes.toNat` reads the number that bytes denote;
* `Bytes.ofNat` writes a number in a given count of bytes, keeping its low part;
* `Bytes.slice` takes the first bytes, or leaves out the last.
-/

namespace PcodePanel.Bytes

-- Powers are those of core, whatever else is in scope.
attribute [local instance (10000)] instPowNat

/-- The number that bytes denote, the least significant first. -/
def toNatLittle : List UInt8 → Nat
  | [] => 0
  | b :: bs => b.toNat + 256 * toNatLittle bs

/-- The number that bytes denote. -/
def toNat (bigEndian : Bool) (bs : List UInt8) : Nat :=
  toNatLittle (if bigEndian then bs.reverse else bs)

/-- The low part of a number in `count` bytes, the least significant first. -/
def ofNatLittle : (count : Nat) → Nat → List UInt8
  | 0, _ => []
  | count + 1, n => UInt8.ofNat n :: ofNatLittle count (n / 256)

/-- The low part of a number in `count` bytes. -/
def ofNat (bigEndian : Bool) (count n : Nat) : List UInt8 :=
  if bigEndian then (ofNatLittle count n).reverse else ofNatLittle count n

/-- The number that bytes denote in two's complement. -/
def toInt (bigEndian : Bool) (bs : List UInt8) : Int :=
  (toNat bigEndian bs : Int).bmod (256 ^ bs.length)

/-- The first `length` elements; for a negative length, all but the last `-length`. -/
def slice {α : Type} (length : Int) (xs : List α) : List α :=
  if 0 ≤ length then xs.take length.toNat else xs.take (xs.length - (-length).toNat)

@[simp]
theorem length_ofNatLittle (count n : Nat) : (ofNatLittle count n).length = count := by
  induction count generalizing n with
  | zero => rfl
  | succ count ih => simp [ofNatLittle, ih]

@[simp]
theorem length_ofNat (bigEndian : Bool) (count n : Nat) :
    (ofNat bigEndian count n).length = count := by
  unfold ofNat
  split <;> simp

theorem toNatLittle_ofNatLittle (count n : Nat) :
    toNatLittle (ofNatLittle count n) = n % 256 ^ count := by
  induction count generalizing n with
  | zero => simp [ofNatLittle, toNatLittle, Nat.mod_one]
  | succ count ih =>
    rw [ofNatLittle, toNatLittle, ih, Nat.pow_succ', Nat.mod_mul]
    simp

/-- A number is read back as far as it fits. -/
theorem toNat_ofNat (bigEndian : Bool) (count n : Nat) :
    toNat bigEndian (ofNat bigEndian count n) = n % 256 ^ count := by
  cases bigEndian <;> simp [toNat, ofNat, toNatLittle_ofNatLittle]

end PcodePanel.Bytes
