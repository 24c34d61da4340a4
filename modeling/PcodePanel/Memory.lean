import PcodePanel.Bytes
import PcodePanel.Pcode.Varnode

/-!
# Memory

The state of an emulated thread: the bytes that have been written, each in the cell of a space, a
space name and an offset. A varnode reads as its bytes once all of them have been written.

A memory is the history of its writes, of which the latest to a cell counts: see `byte?_put` and
`Write.byte?_cell`.
-/

namespace PcodePanel

/-- The place of one byte. -/
structure Cell where
  space : Space
  name : String
  offset : Int
deriving DecidableEq, Repr

/-- The cell of the byte `i` of a varnode. -/
def Varnode.cell (v : Varnode) (i : Nat) : Cell :=
  ⟨v.space, v.name, v.offset + i⟩

/-- Bytes put into consecutive cells of a space. -/
structure Write where
  first : Cell
  data : Array UInt8
deriving DecidableEq, Repr

namespace Write

/-- The byte that a write puts into a cell. -/
def byte? (write : Write) (cell : Cell) : Option UInt8 :=
  let distance := cell.offset - write.first.offset
  if 0 ≤ distance ∧ cell.space = write.first.space ∧ cell.name = write.first.name then
    write.data[distance.toNat]?
  else none

theorem byte?_cell (v : Varnode) (data : Array UInt8) (i : Nat) :
    byte? ⟨v.cell 0, data⟩ (v.cell i) = data[i]? := by
  have distance : v.offset + i - v.offset = i := by omega
  simp [byte?, Varnode.cell, distance]

end Write

/-- The writes so far, the latest first. -/
structure Memory where
  history : List Write := []
deriving DecidableEq, Repr

namespace Memory

/-- The byte in a cell, if one has been written. -/
def byte? (memory : Memory) (cell : Cell) : Option UInt8 :=
  memory.history.findSome? (·.byte? cell)

/-- Writes bytes to the cells from the first of a varnode on. -/
def put (memory : Memory) (v : Varnode) (data : List UInt8) : Memory :=
  ⟨⟨v.cell 0, data.toArray⟩ :: memory.history⟩

theorem byte?_put (memory : Memory) (v : Varnode) (data : List UInt8) (cell : Cell) :
    (memory.put v data).byte? cell =
      (Write.byte? ⟨v.cell 0, data.toArray⟩ cell).or (memory.byte? cell) := by
  rw [byte?, put, List.findSome?_cons]
  cases Write.byte? ⟨v.cell 0, data.toArray⟩ cell <;> rfl

/-- Writes bytes to a varnode, which they have to fill. -/
def write (memory : Memory) (v : Varnode) (data : List UInt8) : Except Fault Memory :=
  if (data.length : Int) = v.size then .ok (memory.put v data) else .error .partialWrite

/-- Writes the low part of a number to a varnode. -/
def writeValue (memory : Memory) (v : Varnode) (value : Int) (bigEndian : Bool) :
    Except Fault Memory := do
  let low := Width.low (← Width.bits? v.size) value
  memory.write v (Bytes.ofNat bigEndian v.size.toNat low.toNat)

/-- The `count` bytes of a varnode from its byte `i` on, if all of them have been written. -/
def bytesFrom? (memory : Memory) (v : Varnode) : (count i : Nat) → Option (List UInt8)
  | 0, _ => some []
  | count + 1, i =>
    match memory.byte? (v.cell i) with
    | none => none
    | some b => (memory.bytesFrom? v count (i + 1)).map (b :: ·)

/-- The bytes of a varnode, if all of them have been written. -/
def read? (memory : Memory) (v : Varnode) : Option (List UInt8) :=
  memory.bytesFrom? v v.size.toNat 0

/-- What is written to a memory: bytes that fill a varnode, or a number. -/
inductive Content
  | bytes (data : List UInt8)
  | value (value : Int) (bigEndian : Bool)
deriving DecidableEq, Repr

/-- Writes a content to a varnode. -/
def store (memory : Memory) (v : Varnode) : Content → Except Fault Memory
  | .bytes data => memory.write v data
  | .value value bigEndian => memory.writeValue v value bigEndian

end Memory

end PcodePanel
