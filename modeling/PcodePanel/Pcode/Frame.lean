import PcodePanel.Pcode.MicroOp

/-!
# Frames and languages

A frame is the decoded code of one instruction with the position in it. A language names the
registers, user operations and spaces of a processor. Names are looked up in tables of pairs; of
several pairs with one key, the last counts.
-/

namespace PcodePanel

/-- The value that a table gives a key: the last one. -/
def valueOf? {α β : Type} [BEq α] (table : List (α × β)) (key : α) : Option β :=
  table.reverse.lookup key

/-- The code of one instruction and the position in it. -/
structure Frame where
  code : List MicroOp
  index : Int := 0
  isBranch : Bool := false
  isFallthrough : Bool := false
  branched : Option Int := none
  userops : List (Int × String) := []
deriving DecidableEq, Repr

/-- Whether no operation is left to step. -/
def Frame.isFinished (frame : Frame) : Bool :=
  (frame.code.length : Int) ≤ frame.index

/-- The names of a processor's parts. -/
structure Language where
  name : String
  bigEndian : Bool := false
  registers : List ((Int × Int) × String) := []
  userops : List (Int × String) := []
  spaces : List (Int × String) := []
deriving DecidableEq, Repr

namespace Language

/-- The name of the byte order. -/
def byteOrder (language : Language) : String :=
  if language.bigEndian then "big" else "little"

/-- The name of the register at an offset with a size. -/
def register? (language : Language) (offset size : Int) : Option String :=
  valueOf? language.registers (offset, size)

/-- The name of a user operation. -/
def userop? (language : Language) (number : Int) : Option String :=
  valueOf? language.userops number

/-- The name of a space. -/
def space? (language : Language) (number : Int) : Option String :=
  valueOf? language.spaces number

end Language

end PcodePanel
