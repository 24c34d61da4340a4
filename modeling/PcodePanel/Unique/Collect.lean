import PcodePanel.Pcode.Frame
import PcodePanel.Unique.Entry

/-!
# Collecting temporaries

The temporaries that code touches: one entry for each address, in ascending order. Temporaries
that overlap without being the same stay apart.

* `Unique.references` are all the places where code touches a temporary;
* `Unique.collect` merges them. The first varnode with an address stands for it.
-/

namespace PcodePanel

/-- The places where an operation touches a temporary: its output, then its inputs. -/
def MicroOp.references (op : MicroOp) : List (Varnode × Access) :=
  (op.output.toList.filter Varnode.isUnique).map (·, .write)
    ++ (op.inputs.filter Varnode.isUnique).map (·, .read)

namespace Unique

/-- The places where code touches a temporary, in order. -/
def references (ops : List MicroOp) : List (Varnode × Access) :=
  ops.flatMap MicroOp.references

/-- Adds a reference to entries in ascending order. -/
def insert (v : Varnode) (access : Access) : List Entry → List Entry
  | [] => [{ varnode := v, access }]
  | entry :: entries =>
    if entry.address = .of v then { entry with access := entry.access.join access } :: entries
    else if (Address.of v).before entry.address then
      { varnode := v, access } :: entry :: entries
    else entry :: insert v access entries

/-- The entries of references, which come in order. -/
def ofReferences (references : List (Varnode × Access)) : List Entry :=
  references.foldl (fun entries (v, access) => insert v access entries) []

/-- The entries of the temporaries that a frame touches. -/
def collect (frame : Frame) : List Entry :=
  ofReferences (references frame.code)

end Unique

end PcodePanel
