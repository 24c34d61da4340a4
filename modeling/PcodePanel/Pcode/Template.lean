import PcodePanel.Pcode.MicroOp

/-!
# Templates

A template list says how operations are rendered: it holds the operations in order, and line
labels before those that are branched to. A branch inside the list refers to its label.

* `Template.ofOps` derives the templates of a list of operations. Labels are numbered from zero
  in order of appearance.
-/

namespace PcodePanel

/-- An input of a template: a varnode, or the label that a branch goes to. -/
inductive Operand
  | varnode (v : Varnode)
  | label (number : Int)
deriving DecidableEq, Repr

/-- How one operation is rendered. -/
structure OpTemplate where
  opcode : Int
  output : Option Varnode
  operands : List Operand
deriving DecidableEq, Repr

/-- How one line is rendered. -/
inductive Template
  | label (number : Int)
  | op (template : OpTemplate)
deriving DecidableEq, Repr

/-- Whether the template is a line label. -/
def Template.isLabel : Template → Bool
  | label _ => true
  | op _ => false

/-- The position that the operation at `position` of `count` branches to, if it does so by a
constant distance and stays in the list; its end counts as a position. -/
def MicroOp.target? (op : MicroOp) (position count : Nat) : Except Fault (Option Nat) :=
  match op.distance? with
  | none => .ok none
  | some distance => do
    let target := (position : Int) + (← distance.signedOffset)
    return if 0 ≤ target ∧ target ≤ count then some target.toNat else none

namespace Template

/-- The branch target of each operation. -/
def targets (ops : List MicroOp) : Except Fault (List (Option Nat)) :=
  ops.zipIdx.mapM fun (operation, position) => operation.target? position ops.length

/-- The positions up to `count` that are targets, ascending. -/
def labelled (targets : List (Option Nat)) (count : Nat) : List Nat :=
  (List.range (count + 1)).filter fun position => targets.contains (some position)

/-- The number of the label at a position: how many labels stand before it. -/
def labelNumber (labels : List Nat) (position : Nat) : Int :=
  labels.idxOf position

/-- The label before a position, if one is needed there. -/
def labelAt (labels : List Nat) (position : Nat) : List Template :=
  if position ∈ labels then [label (labelNumber labels position)] else []

/-- The template of an operation. A branch to a label refers to it instead of its distance. -/
def ofOp (labels : List Nat) (op : MicroOp) (target : Option Nat) : OpTemplate where
  opcode := op.opcode
  output := op.output
  operands :=
    match target with
    | some position => .label (labelNumber labels position) :: op.inputs.tail.map .varnode
    | none => op.inputs.map .varnode

/-- The templates of a list of operations. -/
def ofOps (ops : List MicroOp) : Except Fault (List Template) := do
  let targets ← targets ops
  let labels := labelled targets ops.length
  let body := (ops.zip targets).zipIdx.flatMap fun ((operation, target), position) =>
    labelAt labels position ++ [op (ofOp labels operation target)]
  return body ++ labelAt labels ops.length

end Template

end PcodePanel
