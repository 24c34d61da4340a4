import PcodePanel.Coordinates
import PcodePanel.Pcode.Frame

/-!
# Emulators

An emulator is a machine that has been run to a time: for each of its threads the instruction it
stands at and the frame of decoded code, if there are any. The bytes of a thread are kept apart,
since they may be written later; the thread knows their place.
-/

namespace PcodePanel

/-- The place where a memory is kept. -/
abbrev MemoryId := Nat

/-- A thread of an emulator. -/
structure EmulatedThread where
  path : String
  instruction : Option String := none
  frame : Option Frame := none
  memory : MemoryId
deriving DecidableEq, Repr

/-- A machine that has been run to a time. -/
structure Emulator where
  language : Language
  threads : List EmulatedThread := []
deriving DecidableEq, Repr

/-- The thread with a path; of several, the last. -/
def Emulator.thread? (emulator : Emulator) (path : String) : Option EmulatedThread :=
  emulator.threads.reverse.find? (·.path = path)

/-- What is emulated: a trace up to a time. -/
structure EmulationKey where
  trace : Option TraceId
  time : Schedule
deriving DecidableEq, Repr

/-- What an emulation comes to. -/
inductive Outcome
  | emulated (emulator : Emulator)
  | failed (failure : Failure)
deriving DecidableEq, Repr

/-- What is emulated for coordinates. -/
def Coordinates.key (c : Coordinates) : EmulationKey :=
  ⟨c.trace, c.time⟩

end PcodePanel
