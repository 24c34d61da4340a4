import PcodePanel.Fault

/-!
# Event logs

An event log keeps the latest events, up to its capacity.

* `EventLog.record` adds an event and drops the oldest if there are too many.
-/

namespace PcodePanel

/-- Something that happened to a panel: at which generation, to which coordinates. -/
structure Event where
  name : String
  generation : Int
  coordinates : String
  detail : String
deriving DecidableEq, Repr

/-- The latest events, the oldest first. -/
structure EventLog where
  capacity : Nat
  events : List Event := []
deriving DecidableEq, Repr

namespace EventLog

/-- The capacity of a log that is not given one. -/
def defaultCapacity : Int := 256

/-- An empty log. Its capacity is a machine word and not negative. -/
def ofCapacity (capacity : Int) : Except Fault EventLog :=
  if ¬ Numeral.Word capacity then .error .capacityTooLarge
  else if capacity < 0 then .error .negativeCapacity
  else .ok { capacity := capacity.toNat }

/-- Adds an event. -/
def record (log : EventLog) (event : Event) : EventLog :=
  let events := log.events ++ [event]
  { log with events := events.drop (events.length - log.capacity) }

/-- What a log holds never exceeds its capacity. -/
theorem length_events_record_le (log : EventLog) (event : Event) :
    (log.record event).events.length ≤ log.capacity := by
  simp only [record, List.length_drop]
  omega

/-- Drops all events. -/
def clear (log : EventLog) : EventLog :=
  { log with events := [] }

end EventLog

end PcodePanel
