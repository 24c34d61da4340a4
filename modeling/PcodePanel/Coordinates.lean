import PcodePanel.Schedule

/-!
# Coordinates

What a debugger is focused on. The stack level is carried along, but does not tell coordinates
apart.

* `Coordinates.sameAs` compares trace, time and thread.
-/

namespace PcodePanel

/-- What a trace is known by. -/
inductive TraceId
  | text (name : String)
  | number (n : Int)
deriving DecidableEq, Repr

/-- What a debugger is focused on. -/
structure Coordinates where
  trace : Option TraceId := none
  time : Schedule := {}
  thread : Option String := none
  /-- The level in the stack of calls. -/
  frame : Int := 0
deriving DecidableEq, Repr

namespace Coordinates

/-- The focus of a debugger that has none. -/
def nowhere : Coordinates := {}

/-- Whether two coordinates show the same. -/
def sameAs (a b : Coordinates) : Bool :=
  a.trace = b.trace ∧ a.time = b.time ∧ a.thread = b.thread

/-- The coordinates at another time. -/
def withTime (c : Coordinates) (time : Schedule) : Coordinates :=
  { c with time }

/-- The text of a trace; a missing one has a text too. -/
def traceText (c : Coordinates) : Except Fault String :=
  match c.trace with
  | none => .ok "None"
  | some (.text name) => .ok name
  | some (.number n) => Numeral.write n

/-- The coordinates as an event log shows them. -/
def text (c : Coordinates) : Except Fault String :=
  return (← c.traceText) ++ "@" ++ (← c.time.text) ++ "/" ++ c.thread.getD "None"

end Coordinates

end PcodePanel
