import PcodePanel.Pcode.Opcode
import PcodePanel.Pcode.Varnode

/-!
# Micro-operations

One step of an instruction: an opcode, an optional output, inputs, and a sequence number.
-/

namespace PcodePanel

/-- Where a micro-operation stands: the address of its instruction and its step in it. -/
structure Sequence where
  address : Int
  time : Int
deriving DecidableEq, Repr

/-- One step of an instruction. -/
structure MicroOp where
  opcode : Int
  output : Option Varnode
  inputs : List Varnode
  sequence : Sequence
deriving DecidableEq, Repr

namespace MicroOp

/-- The text that the operation is shown by. -/
def mnemonic (op : MicroOp) : Except Fault String :=
  Opcode.mnemonic op.opcode

/-- The varnodes of the operation, the output first. -/
def varnodes (op : MicroOp) : List Varnode :=
  op.output.toList ++ op.inputs

/-- The constant that a branch takes as the distance to its target, if it has one. -/
def distance? (op : MicroOp) : Option Varnode :=
  match op.inputs with
  | [] => none
  | first :: _ =>
    if (op.opcode = Opcode.branch ∨ op.opcode = Opcode.cbranch) ∧ first.isConstant then some first
    else none

end MicroOp

end PcodePanel
