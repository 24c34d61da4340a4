import PcodePanel.Proofs.Memory.LastWrite
import PcodePanel.Proofs.Unique.Decoding

/-!
# Temporaries that overlap

Temporaries may lie inside one another or overlap in part, and each has an entry of its own. They
are decoded from the same memory; so whatever they share looks the same in both.

* `Varnode.Inside` — one run of bytes is part of another;
* `Memory.read?_inside` — the part reads as a slice;
* `Unique.Contents.SliceOf` — what is known of the part;
* `Unique.Entry.slice_of_decode` — entries of temporaries that overlap agree.
-/

namespace PcodePanel

-- Powers are those of core, whatever else is in scope.
attribute [local instance (10000)] instPowNat

/-- Runs of bytes are in one space, by its kind and by its name. -/
def Varnode.SameSpace (a b : Varnode) : Prop :=
  a.space = b.space ∧ a.name = b.name

instance (a b : Varnode) : Decidable (a.SameSpace b) :=
  inferInstanceAs (Decidable (_ ∧ _))

/-- A run of bytes is part of another. -/
structure Varnode.Inside (inner outer : Varnode) : Prop where
  space : inner.SameSpace outer
  starts : outer.offset ≤ inner.offset
  ends : inner.offset + inner.size ≤ outer.offset + outer.size
  sized : 0 ≤ inner.size

/-- Bytes at one offset are in one cell. -/
theorem Varnode.SameSpace.cell_eq {a b : Varnode} (same : a.SameSpace b) {i j : Nat}
    (offset : a.offset + i = b.offset + j) : a.cell i = b.cell j := by
  obtain ⟨space, name⟩ := same
  rw [cell, cell, space, name, offset]

namespace Memory

variable {memory : Memory} {inner outer : Varnode} {bytes : List UInt8}

/-- A part reads as a slice of the whole. -/
theorem read?_inside (inside : inner.Inside outer) (read : memory.read? outer = some bytes) :
    memory.read? inner
      = some ((bytes.drop (inner.offset - outer.offset).toNat).take inner.size.toNat) := by
  obtain ⟨space, starts, ends, sized⟩ := inside
  obtain ⟨length, each⟩ := read?_eq_some_iff.mp read
  refine read?_eq_some_iff.mpr ⟨by simp [length]; omega, ?_⟩
  intro i below
  have cell : inner.cell i = outer.cell ((inner.offset - outer.offset).toNat + i) :=
    space.cell_eq (by omega)
  rw [cell, each _ (by omega), List.getElem?_take_of_lt (by omega), List.getElem?_drop]

/-- Varnodes that are read agree in the bytes that they share. -/
theorem read?_shared {other : Varnode} {others : List UInt8} (space : outer.SameSpace other)
    (read : memory.read? outer = some bytes) (readOther : memory.read? other = some others)
    {i j : Nat} (shared : outer.offset + i = other.offset + j) (inside : i < bytes.length)
    (insideOther : j < others.length) : bytes[i]? = others[j]? := by
  obtain ⟨length, each⟩ := read?_eq_some_iff.mp read
  obtain ⟨lengthOther, eachOther⟩ := read?_eq_some_iff.mp readOther
  rw [← each i (by omega), ← eachOther j (by omega), space.cell_eq shared]

end Memory

namespace Unique

/-- What is known of a part: a slice of the bytes of the whole, and the value of the whole without
the bytes below the part and above it. In big-endian order the bytes below are those at the end. -/
structure Contents.SliceOf (language : Language) (inner outer : Varnode) (part whole : Contents) :
    Prop where
  bytes : part.bytes
    = (whole.bytes.drop (inner.offset - outer.offset).toNat).take inner.size.toNat
  value :
    let below :=
      if language.bigEndian then outer.offset + outer.size - inner.offset - inner.size
      else inner.offset - outer.offset
    part.value = (whole.value >>> (8 * below.toNat)) % 256 ^ inner.size.toNat

namespace Entry

variable {memory : Memory} {language : Language} {outer known : Entry} {whole part : Contents}

/-- Without a data type, a value that is not greater has a text if the greater one has. -/
theorem untyped_of_le {bigEndian : Bool} {text : String}
    (shown : representationOf none whole bigEndian = .ok text) (le : part.value ≤ whole.value) :
    ∃ text, representationOf none part bigEndian = .ok text := by
  obtain ⟨decimal, written, _⟩ := bind_eq_ok_iff.mp shown
  obtain ⟨short, _⟩ := Numeral.write_eq_ok_iff.mp written
  have short : Numeral.Short part.value := by
    unfold Numeral.Short at *
    omega
  exact ⟨_, bind_eq_ok_iff.mpr ⟨_, Numeral.write_of_short short, rfl⟩⟩

/-- The slice that a part reads as has the value that the whole has there. -/
theorem sliceOf_toNat (language : Language) {a b : Varnode} {bytes : List UInt8}
    (inside : a.Inside b) (length : bytes.length = b.size.toNat) :
    let slice := (bytes.drop (a.offset - b.offset).toNat).take a.size.toNat
    Contents.SliceOf language a b ⟨slice, Bytes.toNat language.bigEndian slice⟩
      ⟨bytes, Bytes.toNat language.bigEndian bytes⟩ := by
  obtain ⟨_, starts, ends, sized⟩ := inside
  refine ⟨rfl, ?_⟩
  have room : (a.offset - b.offset).toNat + a.size.toNat ≤ bytes.length := by omega
  have value := Bytes.toNat_slice language.bigEndian _ room
  have below : (if language.bigEndian then b.offset + b.size - a.offset - a.size
        else a.offset - b.offset).toNat
      = if language.bigEndian then bytes.length - (a.offset - b.offset).toNat - a.size.toNat
        else (a.offset - b.offset).toNat := by
    split <;> omega
  dsimp only
  rw [value, below]

/-- **Overlapping temporaries.** Let a temporary decode to known contents. Then a temporary inside
it is known as well, as a slice of it, and is decoded with that, unless its data type refuses the
bytes; without data types nothing is refused. Any other temporary of the same space that is known
has the same bytes wherever the two overlap. -/
theorem slice_of_decode (decoded : outer.decode memory language = .ok known)
    (isKnown : known.contents = some whole) :
    (∀ inner : Entry, inner.varnode.Inside outer.varnode →
      ∃ part : Contents, part.SliceOf language inner.varnode outer.varnode whole
        ∧ inner.decode memory language
          = (representationOf inner.dataType part language.bigEndian).map (fun representation =>
            { inner with contents := some part, representation })
        ∧ (outer.dataType = none → inner.dataType = none →
          ∃ text, representationOf inner.dataType part language.bigEndian = .ok text))
      ∧ ∀ (other otherKnown : Entry) (others : Contents),
        outer.varnode.SameSpace other.varnode →
        other.decode memory language = .ok otherKnown → otherKnown.contents = some others →
        ∀ i j : Nat, outer.varnode.offset + i = other.varnode.offset + j →
          i < whole.bytes.length → j < others.bytes.length →
          whole.bytes[i]? = others.bytes[j]? := by
  obtain ⟨read, value, shown⟩ := read_of_decode decoded isKnown
  constructor
  · intro inner inside
    have slice := sliceOf_toNat language inside (Memory.read?_eq_some_iff.mp read).1
    rw [← value] at slice
    refine ⟨_, slice, decode_of_read (Memory.read?_inside inside read), ?_⟩
    intro untyped innerUntyped
    rw [untyped] at shown
    rw [innerUntyped]
    refine untyped_of_le shown ?_
    rw [slice.value]
    exact Nat.le_trans (Nat.mod_le _ _) (Nat.shiftRight_le _ _)
  · intro other otherKnown others space decodedOther knownOther i j shared inside insideOther
    obtain ⟨readOther, _, _⟩ := read_of_decode decodedOther knownOther
    exact Memory.read?_shared space read readOther shared inside insideOther

/-- Memory with six bytes. -/
def Sample.sixBytes : Memory :=
  Memory.put {} ⟨.unique, 0, 6, none⟩ [0x11, 0x22, 0x33, 0x44, 0x55, 0x66]

/-- A language that puts the highest byte first. -/
def Sample.bigEndian : Language where
  name := "big"
  bigEndian := true

/-- The four bytes in the middle. -/
def Sample.middle : Entry where
  varnode := ⟨.unique, 1, 4, none⟩

/-- Two of these, with the name of the space written out. -/
def Sample.pair : Entry where
  varnode := ⟨.unique, 2, 2, some "unique"⟩

/-- The last four bytes, of which three are among these. -/
def Sample.beside : Entry where
  varnode := ⟨.unique, 2, 4, none⟩

/-- What is known of the four bytes. -/
def Sample.middleContents : Contents := ⟨[0x22, 0x33, 0x44, 0x55], 0x22334455⟩

/-- What is known of the bytes beside them. -/
def Sample.besideContents : Contents := ⟨[0x33, 0x44, 0x55, 0x66], 0x33445566⟩

/-- Two bytes inside of four are decoded as a slice, and four bytes that overlap these agree with
them. -/
theorem slice_of_decode_middle :
    Sample.middle.decode Sample.sixBytes Sample.bigEndian
        = .ok { Sample.middle with
          contents := some Sample.middleContents, representation := "0x22334455 (573785173)" }
      ∧ Sample.pair.varnode.Inside Sample.middle.varnode
      ∧ (∃ part : Contents, part.SliceOf Sample.bigEndian Sample.pair.varnode
          Sample.middle.varnode Sample.middleContents
        ∧ part.value = 0x3344)
      ∧ Sample.middleContents.bytes[1]? = Sample.besideContents.bytes[0]? := by
  have decoded : Sample.middle.decode Sample.sixBytes Sample.bigEndian
      = .ok { Sample.middle with
        contents := some Sample.middleContents, representation := "0x22334455 (573785173)" } := by
    decide +kernel
  have inside : Sample.pair.varnode.Inside Sample.middle.varnode :=
    ⟨by decide, by decide, by decide, by decide⟩
  have beside : Sample.beside.decode Sample.sixBytes Sample.bigEndian
      = .ok { Sample.beside with
        contents := some Sample.besideContents, representation := "0x33445566 (860116326)" } := by
    decide +kernel
  obtain ⟨slices, agree⟩ := slice_of_decode decoded rfl
  obtain ⟨part, slice, _⟩ := slices Sample.pair inside
  refine ⟨decoded, inside, ⟨part, slice, ?_⟩, ?_⟩
  · rw [slice.value]
    decide
  · exact agree Sample.beside _ Sample.besideContents (by decide) beside rfl 1 0 (by decide)
      (by decide) (by decide)

end Entry

end Unique

end PcodePanel
