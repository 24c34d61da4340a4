import PcodePanel.Catalog.Basic
import PcodePanel.Display.Listing
import PcodePanel.Emulation.Service
import PcodePanel.Unique.Assign
import PcodePanel.Unique.Collect

/-!
# Panels

A panel shows the code of one instruction: rows, the temporaries with their values, and the text of
the instruction. It follows coordinates; where these have no code to show, one placeholder says why.

* `Panel.showNothing`, `Panel.showPlaceholder` and `Panel.showEmulator` replace what is shown;
* `Panel.assign` gives a temporary a data type.

Each generation of a panel stands for one activation of coordinates or one change of service.
-/

namespace PcodePanel

/-- What a panel is doing. -/
inductive LoadState
  | noCoordinates
  | noThread
  | notDecoded
  | loading
  | loaded
  /-- A late result is being dropped. -/
  | stale
deriving DecidableEq, Repr

/-- The name of what a panel is doing. -/
def LoadState.label : LoadState → String
  | noCoordinates => "no_coordinates"
  | noThread => "no_thread"
  | notDecoded => "not_decoded"
  | loading => "loading"
  | loaded => "loaded"
  | stale => "stale"

/-- Where the values that are shown come from. -/
structure Source where
  language : Language
  memory : MemoryId
deriving DecidableEq, Repr

/-- A panel. -/
structure Panel where
  service : Option ServiceId
  current : Coordinates := .nowhere
  /-- The coordinates before the last activation. -/
  previous : Coordinates := .nowhere
  generation : Int := 0
  state : LoadState := .noCoordinates
  rows : List Row := []
  /-- The position of the row of the next operation. -/
  nextRow : Option Nat := none
  uniques : List Unique.Entry := []
  /-- The text of the instruction. -/
  label : Option String := none
  source : Option Source := none
  /-- The request that the panel waits for. -/
  pending : Option RequestId := none
deriving DecidableEq, Repr

namespace Panel

/-- The text that stands for a missing instruction. -/
def noInstruction : String := "(no instruction)"

/-- The text of the instruction. -/
def instructionText (panel : Panel) : String :=
  match panel.label with
  | none => noInstruction
  | some label => if label = "" then noInstruction else label

/-- The text of the time. -/
def subtitle (panel : Panel) : Except Fault String :=
  panel.current.time.text

/-- Whether stepping backward is offered. -/
def canStepBackward (panel : Panel) : Bool :=
  panel.current.trace.isSome ∧ panel.current.time.pticks ≠ 0

/-- Whether stepping forward is offered. -/
def canStepForward (panel : Panel) : Bool :=
  panel.current.thread.isSome

/-- The time that stepping backward leads to. -/
def timeBackward? (panel : Panel) : Option Schedule :=
  if panel.current.trace.isNone then none else panel.current.time.backward? 1

/-- The time that stepping forward leads to. -/
def timeForward? (panel : Panel) : Option Schedule :=
  if panel.current.thread.isNone then none else some (panel.current.time.forward 1)

/-- Shows nothing, as for no coordinates. -/
def showNothing (panel : Panel) : Panel :=
  { panel with
    rows := [], nextRow := none, uniques := [], source := none, state := .noCoordinates }

/-- Shows a placeholder. -/
def showPlaceholder (panel : Panel) (state : LoadState) (kind : PlaceholderKind)
    (detail : Option String) : Panel :=
  { panel with
    rows := [.ofKind kind detail], nextRow := none, uniques := [], source := none, state }

/-- Shows a frame with the values that a memory holds. The rows are shown even if a value then
cannot be. -/
def showFrame (panel : Panel) (indent : Option Bool) (source : Source) (memory : Memory)
    (frame : Frame) : Panel × Option Fault :=
  match Listing.ofFrame source.language frame indent with
  | .error fault => (panel, some fault)
  | .ok listing =>
    let panel := { panel with rows := listing.rows, nextRow := listing.nextRow }
    match Unique.decodeAll (Unique.collect frame) memory source.language with
    | .error fault => (panel, some fault)
    | .ok uniques => ({ panel with uniques, source := some source, state := .loaded }, none)

/-- Shows a thread of an emulator. A thread that the emulator does not have, or that has no frame,
is not decoded. -/
def showEmulator (panel : Panel) (indent : Option Bool) (memories : MemoryId → Memory)
    (emulator : Emulator) (path : String) : Panel × Option Fault :=
  match emulator.thread? path with
  | none => (panel.showPlaceholder .notDecoded .notDecoded none, none)
  | some thread =>
    let panel := { panel with label := thread.instruction }
    match thread.frame with
    | none => (panel.showPlaceholder .notDecoded .notDecoded none, none)
    | some frame =>
      panel.showFrame indent ⟨emulator.language, thread.memory⟩ (memories thread.memory) frame

/-- Gives a temporary a data type, or takes it away: the entry, the panel and the catalog after
that. If it fails, the panel stays as it was. -/
def assign (panel : Panel) (index : Int) (type : Option DataType) (catalog : Catalog)
    (memories : MemoryId → Memory) : Except Fault (Unique.Entry × Panel) × Catalog :=
  match panel.source with
  | none => (.error .nothingLoaded, catalog)
  | some source =>
    match Unique.entryAt panel.uniques index with
    | .error fault => (.error fault, catalog)
    | .ok (position, entry) =>
      match entry.assign type catalog (memories source.memory) source.language with
      | (.error fault, catalog) => (.error fault, catalog)
      | (.ok updated, catalog) =>
        (.ok (updated, { panel with uniques := panel.uniques.set position updated }), catalog)

end Panel

end PcodePanel
