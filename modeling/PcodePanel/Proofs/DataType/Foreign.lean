import Mathlib.Data.FinEnum
import Mathlib.Data.Set.Finite.List
import PcodePanel.Proofs.Memory.LastWrite
import PcodePanel.Proofs.Unique.Decoding

/-!
# Foreign types

What foreign code makes of bytes may be any function of the bytes and their order. A type of foreign
code lists what it makes of some bytes, and there are finitely many bytes up to any length; so the
types reach every such function as far as one likes.

* `DataType.isForeign` — a type is of foreign code;
* `DataType.exists_foreign` — a foreign type reads as any function up to any length;
* `DataType.shows_foreign` — so temporaries are shown as any function would show their bytes.
-/

namespace PcodePanel.DataType

/-- A type is of foreign code. -/
def isForeign : DataType → Bool
  | foreign .. => true
  | integer .. | boolean .. | character .. | float .. => false

variable {readings : List ((List UInt8 × Bool) × Reading)} {data : List UInt8} {bigEndian : Bool}

theorem represent_foreign (name : String) (length : Int) (otherwise : Reading) {reading : Reading}
    (listed : readings.lookup (data, bigEndian) = some reading) :
    represent (.foreign name length readings otherwise) data bigEndian = reading.result := by
  rw [represent, listed]
  rfl

/-- For every function of bytes and their order there is a type that reads as the function, whatever
its name and its length, on all bytes up to any length. -/
theorem exists_foreign (name : String) (length : Int) (reads : List UInt8 → Bool → Reading)
    (longest : Nat) :
    ∃ type : DataType, type.isForeign = true ∧ type.name = name ∧ type.length = length
      ∧ ∀ data bigEndian, data.length ≤ longest →
        type.represent data bigEndian = (reads data bigEndian).result := by
  have finite : {data : List UInt8 | data.length ≤ longest}.Finite :=
    List.finite_length_le UInt8 longest
  let known : List (List UInt8 × Bool) := finite.toFinset.toList ×ˢ [false, true]
  let readings := known.map fun key => (key, reads key.1 key.2)
  refine ⟨.foreign name length readings (reads [] false), rfl, rfl, rfl, ?_⟩
  intro data bigEndian short
  have inside : (data, bigEndian) ∈ known := by
    simp [known, short]
  have listed : readings.lookup (data, bigEndian) = some (reads data bigEndian) :=
    List.lookup_graph (fun key : List UInt8 × Bool => reads key.1 key.2) inside
  exact represent_foreign name length _ listed

/-- **Foreign types.** For every function of bytes and their order there is a type, whatever its
name and its length, in which every temporary up to any width is shown as the function would show
it, wherever its bytes are known. -/
theorem shows_foreign (name : String) (length : Int) (reads : List UInt8 → Bool → Reading)
    (widest : Nat) :
    ∃ type : DataType, type.isForeign = true ∧ type.name = name ∧ type.length = length
      ∧ ∀ (memory : Memory) (language : Language) (entry : Unique.Entry) (bytes : List UInt8),
        entry.dataType = some type → entry.varnode.size ≤ widest →
        memory.read? entry.varnode = some bytes →
        entry.decode memory language
          = (reads bytes language.bigEndian).result.map fun representation =>
            { entry with
              contents := some ⟨bytes, Bytes.toNat language.bigEndian bytes⟩
              representation } := by
  obtain ⟨type, foreign, named, long, represents⟩ := exists_foreign name length reads widest
  refine ⟨type, foreign, named, long, ?_⟩
  intro memory language entry bytes typed narrow read
  have filled : bytes.length = entry.varnode.size.toNat := (Memory.read?_eq_some_iff.mp read).1
  rw [Unique.Entry.decode_of_read read, typed, Unique.Entry.representationOf,
    represents bytes language.bigEndian (by omega)]

end PcodePanel.DataType
