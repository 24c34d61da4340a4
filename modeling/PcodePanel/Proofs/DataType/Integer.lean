import Mathlib.Data.Int.ModEq
import PcodePanel.Proofs.Bytes
import PcodePanel.Proofs.Numeral.Writing
import PcodePanel.Proofs.Unique.Decoding

/-!
# Integer types

An integer type looks at the first of the bytes that it is given, as many as it is long. In
big-endian order these are the high digits of the number that all the bytes denote, otherwise the
low ones. A signed type reads them in two's complement.

* `DataType.leading`, `DataType.integerOf` — the number that an integer type shows;
* `DataType.represent_integer` — it shows the numeral of this number;
* `DataType.shows_integer` — the number is read back, and in a type as long as the temporary it is
  the value of the temporary up to its width.
-/

namespace PcodePanel.DataType

-- Powers are those of core, whatever else is in scope.
attribute [local instance (10000)] instPowNat

/-- What the first `length` bytes denote of a number in `size` bytes. -/
def leading (bigEndian : Bool) (size length value : Nat) : Nat :=
  if bigEndian then value / 256 ^ (size - length) else value % 256 ^ length

/-- The integer that a word of `length` bytes is. With a sign, the upper half is negative. -/
def integerOf (signed : Bool) (length word : Nat) : Int :=
  if signed = true ∧ 0 < length ∧ 256 ^ length / 2 ≤ word then (word : Int) - 256 ^ length else word

theorem represent_integer (name : String) (signed bigEndian : Bool) {data : List UInt8}
    {length : Nat} (inside : length ≤ data.length) :
    represent (.integer name length signed) data bigEndian
      = Numeral.write (integerOf signed length
        (leading bigEndian data.length length (Bytes.toNat bigEndian data))) := by
  have part : Bytes.slice (length : Int) data = data.take length := if_pos (Int.natCast_nonneg _)
  have width : (data.take length).length = length := List.length_take_of_le inside
  have word : leading bigEndian data.length length (Bytes.toNat bigEndian data)
      = Bytes.toNat bigEndian (data.take length) := (Bytes.toNat_take ..).symm
  rw [represent, part, word]
  cases signed with
  | false => rfl
  | true =>
      have integer := Bytes.toInt_eq bigEndian (data.take length)
      rw [width] at integer
      simp only [integerOf, if_true, true_and, integer]

/-- Of a number in its own width nothing is left out. -/
theorem leading_self (bigEndian : Bool) (data : List UInt8) :
    leading bigEndian data.length data.length (Bytes.toNat bigEndian data)
      = Bytes.toNat bigEndian data := by
  unfold leading
  split
  · rw [Nat.sub_self, Nat.pow_zero, Nat.div_one]
  · exact Nat.mod_eq_of_lt (Bytes.toNat_lt ..)

/-- A sign changes a number by its width. -/
theorem integerOf_modEq (signed : Bool) (length word : Nat) :
    integerOf signed length word ≡ word [ZMOD 256 ^ length] := by
  unfold integerOf
  split
  · exact Int.sub_modulus_modEq_iff.mpr rfl
  · rfl

/-- **Integer types.** An integer type that is not longer than the bytes shows the number that its
part of them is: by the decimal numeral, unless that has too many digits. An entry in an integer
type of its own length shows a number that agrees with the value of the entry up to its width.
Either can be read back from the text. -/
theorem shows_integer (name : String) (signed : Bool) :
    (∀ (bigEndian : Bool) (data : List UInt8) (length : Nat), length ≤ data.length →
      Numeral.Writes
        (integerOf signed length
          (leading bigEndian data.length length (Bytes.toNat bigEndian data)))
        (represent (.integer name length signed) data bigEndian))
      ∧ ∀ (memory : Memory) (language : Language) (entry decoded : Unique.Entry)
        (contents : Unique.Contents),
        entry.dataType = some (.integer name contents.bytes.length signed) →
        entry.decode memory language = .ok decoded → decoded.contents = some contents →
        ∃ number : Int, Numeral.read? decoded.representation.toList = some number
          ∧ number ≡ contents.value [ZMOD 256 ^ contents.bytes.length] := by
  have shows : ∀ (bigEndian : Bool) (data : List UInt8) (length : Nat), length ≤ data.length →
      Numeral.Writes
        (integerOf signed length
          (leading bigEndian data.length length (Bytes.toNat bigEndian data)))
        (represent (.integer name length signed) data bigEndian) := by
    intro bigEndian data length inside
    rw [represent_integer name signed bigEndian inside]
    exact Numeral.writes_write _
  refine ⟨shows, ?_⟩
  intro memory language entry decoded contents typed decodes known
  obtain ⟨_, value, shown⟩ := Unique.Entry.read_of_decode decodes known
  rw [typed] at shown
  have writes := shows language.bigEndian contents.bytes contents.bytes.length (Nat.le_refl _)
  rw [leading_self, ← value] at writes
  exact ⟨_, writes.readBack _ shown, integerOf_modEq ..⟩

/-- A temporary of two bytes in a signed type of this length. -/
def Sample.typed : Unique.Entry where
  varnode := ⟨.unique, 0, 2, none⟩
  dataType := some (.integer "short" 2 true)

/-- A language that puts the highest byte first. -/
def Sample.highestFirst : Language where
  name := "high"
  bigEndian := true

/-- Memory with the two bytes. -/
def Sample.twoBytes : Memory :=
  Memory.put {} Sample.typed.varnode [0x80, 0xFE]

/-- The high byte alone is read with its own sign, and both bytes agree with the value. -/
theorem shows_integer_highestFirst :
    represent (.integer "sbyte" 1 true) [0x80, 0xFE] true = .ok "-128"
      ∧ Numeral.Writes (-128) (represent (.integer "sbyte" 1 true) [0x80, 0xFE] true)
      ∧ ∃ decoded, Sample.typed.decode Sample.twoBytes Sample.highestFirst = .ok decoded
        ∧ decoded.representation = "-32514"
        ∧ ∃ number : Int, Numeral.read? decoded.representation.toList = some number
          ∧ number ≡ (0x80FE : Nat) [ZMOD 256 ^ 2] := by
  have decodes : Sample.typed.decode Sample.twoBytes Sample.highestFirst
      = .ok { Sample.typed with
        contents := some ⟨[0x80, 0xFE], 0x80FE⟩, representation := "-32514" } := by
    decide +kernel
  refine ⟨by decide +kernel, ?_, _, decodes, rfl, ?_⟩
  · exact (shows_integer "sbyte" true).1 true [0x80, 0xFE] 1 (by decide)
  · exact (shows_integer "short" true).2 Sample.twoBytes Sample.highestFirst Sample.typed _ _ rfl
      decodes rfl

end PcodePanel.DataType
