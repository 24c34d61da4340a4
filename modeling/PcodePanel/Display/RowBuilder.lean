import PcodePanel.Display.Piece
import PcodePanel.Display.Row

/-!
# Building rows

A row builder collects tokens and closes them into rows. Starting a row says which operation it
shows and forgets tokens that were not closed; closing one starts afresh.

* `RowBuilder.run` performs a list of calls; any order of calls is allowed.
-/

namespace PcodePanel

/-- A collector of rows. -/
structure RowBuilder where
  legend : Legend
  /-- The rows closed so far. -/
  rows : List Row := []
  /-- The tokens of the row that is open. -/
  tokens : List Token := []
  /-- The operation of the row that is open. -/
  op : Option MicroOp := none
  /-- Whether that operation is the next. -/
  isNext : Bool := false
deriving DecidableEq, Repr

namespace RowBuilder

/-- What a builder is told to do. -/
inductive Call
  /-- Start a row for an operation, or for a label. -/
  | start (op : Option MicroOp) (isNext : Bool)
  /-- Close the row. -/
  | close
  /-- Add a piece to the row. -/
  | append (piece : Piece)
deriving DecidableEq, Repr

/-- The row that closing would add. -/
def openRow (builder : RowBuilder) : Row :=
  match builder.op with
  | none => .label builder.rows.length builder.tokens
  | some op => .op builder.rows.length op builder.isNext builder.tokens

/-- Performs one call. -/
def step (builder : RowBuilder) : Call → Except Fault RowBuilder
  | .start op isNext => .ok { builder with tokens := [], op, isNext }
  | .close => .ok
      { builder with
        rows := builder.rows ++ [builder.openRow], tokens := [], op := none, isNext := false }
  | .append piece =>
    return { builder with
      tokens := builder.tokens ++ (← piece.token? builder.legend).toList }

/-- Performs calls in order. -/
def run (builder : RowBuilder) (calls : List Call) : Except Fault RowBuilder :=
  calls.foldlM step builder

end RowBuilder

end PcodePanel
