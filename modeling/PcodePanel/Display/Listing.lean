import PcodePanel.Display.Piece
import PcodePanel.Display.Row

/-!
# Listings

A listing shows a frame: one row for each template, in order, and a closing row for a frame that
ended in a branch or a fall-through. The templates other than labels take the operations of the
frame one by one; those that find none left are skipped.

* `Listing.ofFrame` makes the listing of a frame, by default with the templates of its own code.
  The first operation whose step is the frame's index is marked as the next.
-/

namespace PcodePanel

/-- What a frame looks like. -/
structure Listing where
  rows : List Row
  /-- The position of the row of the next operation. -/
  nextRow : Option Nat
  /-- How many templates found no operation. -/
  skipped : Nat
deriving DecidableEq, Repr

namespace Listing

/-- Puts a row in front of a listing. -/
def cons (row : Row) (rest : Listing) : Listing :=
  { rest with rows := row :: rest.rows }

/-- The listing that holds nothing more. -/
def done (nextRow : Option Nat) : Listing :=
  ⟨[], nextRow, 0⟩

/-- The rows of templates over code, from the row at `position` on. `current` is the step of the
next operation and `nextRow` the row that has been marked as it before. -/
def walk (legend : Legend) (current : Int) :
    List Template → List MicroOp → (position : Nat) → (nextRow : Option Nat) →
      Except Fault Listing
  | [], _, _, nextRow => .ok (done nextRow)
  | .label number :: templates, code, position, nextRow => do
    let tokens ← Piece.tokens legend [.lineLabel number]
    return cons (.label position tokens) (← walk legend current templates code (position + 1) nextRow)
  | .op _ :: templates, [], position, nextRow => do
    let rest ← walk legend current templates [] position nextRow
    return { rest with skipped := rest.skipped + 1 }
  | .op template :: templates, op :: code, position, nextRow => do
    let isNext := nextRow.isNone && op.sequence.time = current
    let tokens ← Piece.tokens legend (template.pieces legend.language)
    let nextRow := if isNext then some position else nextRow
    return cons (.op position op isNext tokens)
      (← walk legend current templates code (position + 1) nextRow)

/-- The row that says how a frame ended. -/
def closing (frame : Frame) (position : Nat) : List Row :=
  if frame.isBranch then [.branch position frame.branched]
  else if frame.isFallthrough then [.fallthrough position]
  else []

/-- The listing of a frame by templates. Without an instruction about it, operations are indented
if there are labels. -/
def ofTemplates (language : Language) (frame : Frame) (templates : List Template)
    (indent : Option Bool) : Except Fault Listing := do
  let indent := indent.getD (templates.any Template.isLabel)
  let listing ← walk (.ofFrame language frame indent) frame.index templates frame.code 0 none
  return { listing with rows := listing.rows ++ closing frame listing.rows.length }

/-- The listing of a frame. -/
def ofFrame (language : Language) (frame : Frame) (indent : Option Bool) :
    Except Fault Listing := do
  ofTemplates language frame (← Template.ofOps frame.code) indent

end Listing

end PcodePanel
