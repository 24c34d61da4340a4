import PcodePanel.Display.Listing
import PcodePanel.Display.RowBuilder

/-!
# Formatters

A formatter shows one frame by the same templates, as often as it is asked to. It builds the rows
one template after the other, and keeps in itself how many operations have been taken and which row
shows the next one. Both start afresh every time; the warnings about templates that found no
operation are only ever added to.

* `Formatter.format` makes the rows;
* `Formatter.again` is what a formatter is like when that has been done some times.
-/

namespace PcodePanel

/-- What is shown of a frame. -/
structure Formatted where
  rows : List Row
  /-- The position of the row of the next operation. -/
  nextRow : Option Nat
deriving DecidableEq, Repr

/-- A maker of rows for a frame. -/
structure Formatter where
  language : Language
  frame : Frame
  templates : List Template
  indent : Bool
  /-- How many operations have been taken. -/
  taken : Nat := 0
  /-- The position of the row of the next operation. -/
  nextRow : Option Nat := none
  /-- How many warnings have been given. -/
  warnings : Nat := 0
deriving DecidableEq, Repr

namespace Formatter

/-- A formatter by templates. Without an instruction about it, operations are indented if there are
labels. -/
def ofTemplates (language : Language) (frame : Frame) (templates : List Template)
    (indent : Option Bool) : Formatter :=
  { language, frame, templates, indent := indent.getD (templates.any Template.isLabel) }

/-- A formatter by the templates of the frame's own code. -/
def ofFrame (language : Language) (frame : Frame) (indent : Option Bool) : Except Fault Formatter :=
  return ofTemplates language frame (← Template.ofOps frame.code) indent

/-- The legend of the rows. -/
def legend (formatter : Formatter) : Legend :=
  .ofFrame formatter.language formatter.frame formatter.indent

/-- Makes a row of pieces. -/
def row (builder : RowBuilder) (op : Option MicroOp) (isNext : Bool) (pieces : List Piece) :
    Except Fault RowBuilder :=
  builder.run (.start op isNext :: pieces.map .append ++ [.close])

/-- Shows one template. -/
def showOne (formatter : Formatter) (builder : RowBuilder) :
    Template → Formatter × Except Fault RowBuilder
  | .label number => (formatter, row builder none false [.lineLabel number])
  | .op template =>
    match formatter.frame.code[formatter.taken]? with
    | none => ({ formatter with warnings := formatter.warnings + 1 }, .ok builder)
    | some op =>
      let isNext := formatter.nextRow.isNone && op.sequence.time = formatter.frame.index
      let nextRow := if isNext then some builder.rows.length else formatter.nextRow
      ({ formatter with taken := formatter.taken + 1, nextRow },
        row builder op isNext (template.pieces formatter.language))

/-- Shows templates one after the other, up to one that cannot be shown. -/
def showAll (formatter : Formatter) (builder : RowBuilder) :
    List Template → Formatter × Except Fault RowBuilder
  | [] => (formatter, .ok builder)
  | template :: templates =>
    match formatter.showOne builder template with
    | (formatter, .ok builder) => formatter.showAll builder templates
    | (formatter, .error fault) => (formatter, .error fault)

/-- Makes the rows of the frame. -/
def format (formatter : Formatter) : Formatter × Except Fault Formatted :=
  let fresh := { formatter with taken := 0, nextRow := none }
  let (after, built) := fresh.showAll { legend := formatter.legend } formatter.templates
  (after, built.map fun builder =>
    ⟨builder.rows ++ Listing.closing formatter.frame builder.rows.length, after.nextRow⟩)

/-- The formatter after it has made the rows a number of times. -/
def again (formatter : Formatter) : Nat → Formatter
  | 0 => formatter
  | times + 1 => (formatter.again times).format.1

end Formatter

end PcodePanel
