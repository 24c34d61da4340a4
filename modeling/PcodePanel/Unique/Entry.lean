import PcodePanel.DataType
import PcodePanel.Display.Notation
import PcodePanel.Pcode.Varnode

/-!
# Entries for temporaries

What a panel shows of a temporary: how the code touches it, its bytes and value if they are known,
and a text in the data type that was given to it.
-/

namespace PcodePanel

/-- How code touches a temporary. -/
structure Access where
  reads : Bool := false
  writes : Bool := false
deriving DecidableEq, Repr

namespace Access

/-- Only read. -/
def read : Access := ⟨true, false⟩

/-- Only written. -/
def write : Access := ⟨false, true⟩

/-- Touched in one of two ways, or both. -/
def join (a b : Access) : Access :=
  ⟨a.reads || b.reads, a.writes || b.writes⟩

/-- The access as a number: one for reading and two for writing. -/
def code (access : Access) : Nat :=
  access.reads.toNat + 2 * access.writes.toNat

/-- The access with a code. -/
def ofCode (code : Nat) : Access :=
  ⟨code % 2 = 1, code / 2 % 2 = 1⟩

end Access

namespace Unique

/-- The text of what is not known. -/
def unknownText : String := "??"

/-- The known contents of a temporary. -/
structure Contents where
  bytes : List UInt8
  value : Nat
deriving DecidableEq, Repr

/-- What is shown of a temporary. -/
structure Entry where
  varnode : Varnode
  access : Access := {}
  contents : Option Contents := none
  dataType : Option DataType := none
  representation : String := ""
deriving DecidableEq, Repr

/-- The offset and the size of a temporary, which tell temporaries apart. -/
structure Address where
  offset : Int
  size : Int
deriving DecidableEq, Repr

/-- The order of entries: by offset, then by size. -/
def Address.before (a b : Address) : Prop :=
  a.offset < b.offset ∨ a.offset = b.offset ∧ a.size < b.size

instance (a b : Address) : Decidable (a.before b) :=
  inferInstanceAs (Decidable (_ ∨ _))

/-- The address of a varnode. -/
def Address.of (v : Varnode) : Address :=
  ⟨v.offset, v.size⟩

namespace Entry

/-- The address of an entry. -/
def address (entry : Entry) : Address :=
  .of entry.varnode

/-- The name of an entry. -/
def name (entry : Entry) : Except Fault String :=
  Notation.unique entry.varnode.offset entry.varnode.size

/-- Whether the bytes are known. -/
def isKnown (entry : Entry) : Bool :=
  entry.contents.isSome

/-- The bytes as a text. -/
def bytesText (entry : Entry) : String :=
  match entry.contents with
  | none => unknownText
  | some contents => Notation.bytes contents.bytes

end Entry

/-- The entry that an index stands for, with its position. The index is a machine word; a negative
one counts from the end. -/
def entryAt (entries : List Entry) (index : Int) : Except Fault (Nat × Entry) :=
  let position := if index < 0 then index + entries.length else index
  if ¬ Numeral.Word index then .error .positionTooLarge
  else if position < 0 then .error .noEntry
  else
    match entries[position.toNat]? with
    | some entry => .ok (position.toNat, entry)
    | none => .error .noEntry

end Unique

end PcodePanel
