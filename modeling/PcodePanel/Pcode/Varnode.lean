import PcodePanel.Width

/-!
# Varnodes

A varnode is a run of bytes in an address space. Offsets and sizes are unbounded integers, and an
offset is taken as it is given.

* `Varnode.signedOffset` reads the offset as a two's complement number of the varnode's width;
* `Varnode.ofConstant` and its neighbours make a varnode of a kind. A constant is reduced to its
  width.
-/

namespace PcodePanel

-- Powers are those of core, whatever else is in scope.
attribute [local instance (10000)] instPowNat

/-- The kinds of address spaces. -/
inductive Space
  | register
  /-- Temporaries of one instruction. -/
  | unique
  /-- Constants: the offset is the value. -/
  | constant
  | ram
  | other
deriving DecidableEq, Repr

/-- The name of a kind of spaces. -/
def Space.label : Space → String
  | register => "register"
  | unique => "unique"
  | constant => "const"
  | ram => "ram"
  | other => "other"

/-- The kind of spaces with a name. -/
def Space.ofLabel? (name : String) : Option Space :=
  [register, unique, constant, ram, other].find? fun space => space.label = name

theorem Space.ofLabel?_label (space : Space) : ofLabel? space.label = some space := by
  cases space <;> decide

/-- A run of bytes in an address space. -/
structure Varnode where
  space : Space
  offset : Int
  size : Int
  spaceName : Option String := none
deriving DecidableEq, Repr

namespace Varnode

/-- The name of the varnode's space: its own, unless that is missing or empty. -/
def name (v : Varnode) : String :=
  match v.spaceName with
  | some own => if own = "" then v.space.label else own
  | none => v.space.label

/-- Whether the varnode is a temporary. -/
def isUnique (v : Varnode) : Bool :=
  v.space = .unique

/-- Whether the varnode is a constant. -/
def isConstant (v : Varnode) : Bool :=
  v.space = .constant

/-- The offset as a two's complement number of the varnode's width, which is at least a byte. -/
def signedOffset (v : Varnode) : Except Fault Int := do
  if v.size = 0 then throw .negativeWidth
  return Width.signed (← Width.bits? v.size) v.offset

/-- A constant of a width. The value is reduced to the width. -/
def ofConstant (value size : Int) : Except Fault Varnode :=
  return ⟨.constant, Width.low (← Width.bits? size) value, size, none⟩

/-- A temporary. -/
def ofUnique (offset size : Int) : Varnode :=
  ⟨.unique, offset, size, none⟩

/-- A register. -/
def ofRegister (offset size : Int) : Varnode :=
  ⟨.register, offset, size, none⟩

/-- A run of memory. -/
def ofRam (offset size : Int) (spaceName : String) : Varnode :=
  ⟨.ram, offset, size, some spaceName⟩

theorem signedOffset_of_fits {v : Varnode} (pos : v.size ≠ 0) (fits : Width.Fits v.size) :
    v.signedOffset = .ok (v.offset.bmod (2 ^ (8 * v.size.toNat))) := by
  rw [signedOffset, if_neg pos, Width.bits?_of_fits fits, ← Width.signed_eq]
  rfl

end Varnode

end PcodePanel
