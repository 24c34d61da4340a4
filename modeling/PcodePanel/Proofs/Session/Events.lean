import Mathlib.Data.List.Induction
import PcodePanel.Proofs.Session.Turn

/-!
# What a run logs

The log of a session is written in many places, and keeps only the latest events. This module says
what is written, as a list of its own: the events of each operation, whether or not there is a log
to take them, and however much it keeps.

* `Session.event` — an event, as it is logged now;
* `Session.performEvents`, `Session.runEvents` — the events of an operation and of a run;
* `Coordinates.Legible` — an event can be logged at the coordinates;
* `EventLog.events_recordAll` — a log keeps the latest of the events that it takes.
-/

namespace PcodePanel

namespace Coordinates

/-- The text of the coordinates in a log; without one, if an integer is too long to be written. -/
def shown (c : Coordinates) : String :=
  match c.text with
  | .ok text => text
  | .error _ => ""

/-- The coordinates can be written into a log. -/
def Legible (c : Coordinates) : Prop :=
  c.text.isOk = true

instance (c : Coordinates) : Decidable c.Legible :=
  inferInstanceAs (Decidable (_ = _))

theorem Legible.text_eq {c : Coordinates} (legible : c.Legible) : c.text = .ok c.shown := by
  rw [Legible] at legible
  unfold shown
  cases text : c.text with
  | ok text => rfl
  | error fault =>
      rw [text] at legible
      cases legible

/-- The stack level is not written. -/
theorem text_of_sameAs {a b : Coordinates} (h : a.sameAs b = true) : a.text = b.text := by
  obtain ⟨trace, time, thread⟩ := sameAs_iff.mp h
  rw [text, text, traceText, traceText, trace, time, thread]

theorem shown_of_sameAs {a b : Coordinates} (h : a.sameAs b = true) : a.shown = b.shown := by
  rw [shown, shown, text_of_sameAs h]

end Coordinates

namespace EventLog

/-- Adds events in order. -/
def recordAll (log : EventLog) (events : List Event) : EventLog :=
  events.foldl record log

theorem recordAll_append (log : EventLog) (front back : List Event) :
    log.recordAll (front ++ back) = (log.recordAll front).recordAll back :=
  List.foldl_append ..

/-- A log keeps the latest of the events that it takes. -/
theorem events_recordAll (capacity : Nat) (events : List Event) :
    EventLog.recordAll { capacity } events
      = { capacity, events := events.drop (events.length - capacity) } := by
  induction events using List.reverseRecOn with
  | nil => simp [recordAll]
  | append_singleton front event ih =>
      rw [recordAll_append, ih]
      show EventLog.record _ event = _
      rw [record]
      refine congrArg (EventLog.mk capacity) ?_
      -- What was dropped before stays dropped.
      rw [← List.drop_append_of_le_length (by omega), List.drop_drop]
      simp only [List.length_append, List.length_drop, List.length_singleton]
      congr 1
      omega

end EventLog

namespace Session

variable {s : Session}

/-- What is logged now, under a name. -/
def event (s : Session) (name detail : String) : Event :=
  ⟨name, s.panel.generation, s.panel.current.shown, detail⟩

/-- Where it can be written, the event is logged if events are logged at all. -/
theorem record_of_legible (legible : s.panel.current.Legible) (name detail : String) :
    s.record name detail = .ok { s with log := s.log.map (·.record (s.event name detail)) } := by
  obtain ⟨panel, config, delivery, manager, catalog, log, services, requests, queue, memories,
    handed, failures⟩ := s
  cases log with
  | none => rfl
  | some log =>
      show (panel.current.text >>= _) = _
      rw [Coordinates.Legible.text_eq legible]
      rfl

/-! ## The events of an operation -/

def reloadEvents (s : Session) : List Event :=
  match s.plan with
  | .ask _ => [s.event "request" ""]
  | .nothing | .placeholder .. | .display _ | .wait => []

def recordAndReloadEvents (s : Session) (name : String) : List Event :=
  s.event name "" :: s.reloadEvents

def activateEvents (s : Session) (coordinates : Coordinates) : List Event :=
  if s.panel.current.sameAs coordinates then []
  else (s.focusOn coordinates).recordAndReloadEvents "activate"

def stepEvents (s : Session) : Option Schedule → List Event
  | none => []
  | some time =>
    if s.manager = some .record then [] else s.activateEvents (s.panel.current.withTime time)

/-- The panel takes over an outcome, or drops the request and reloads. -/
def deliverEvents (s : Session) (id : RequestId) : List Event :=
  match s.requests[id]? with
  | none => []
  | some request =>
    let s := s.forget id
    if request.isCurrent s.panel.current s.panel.generation then
      match request.state with
      | .finished (.failed failure) => [s.event "failed" failure.text]
      | .finished (.emulated _) => [s.event "apply" ""]
      | .outstanding | .cancelled => []
    else
      s.event "stale" ("generation " ++ Numeral.decimal request.generation)
        :: (s.setState .stale).reloadEvents

def settleEvents (s : Session) (onWorker : Bool) (id : RequestId) (state : RequestState) :
    List Event :=
  if s.delivery.runsAtOnce onWorker then (s.mark id state).deliverEvents id else []

def finishAllEvents (s : Session) (outcome : Outcome) : List RequestId → List Event
  | [] => []
  | id :: ids =>
    if s.stateOf id = some .outstanding then
      s.settleEvents false id (.finished outcome)
        ++ (s.settle false id (.finished outcome)).finishAllEvents outcome ids
    else []

def finishKeyEvents (s : Session) (service : ServiceId) (key : EmulationKey) (outcome : Outcome) :
    List Event :=
  (s.updateService service (Service.takeUp key)).finishAllEvents outcome
    ((s.services service).waitingFor key)

def cancelEvents (s : Session) (id : RequestId) : List Event :=
  if s.stateOf id = some .outstanding then s.settleEvents false id .cancelled else []

def finishOnWorkerEvents (s : Session) (service : ServiceId) (id : RequestId) (key : EmulationKey)
    (outcome : Outcome) : List Event :=
  match outcome with
  | .emulated emulator =>
    (s.updateService service (Service.keep key (some emulator))).settleEvents true id
      (.finished outcome)
  | .failed _ => s.settleEvents true id (.finished outcome)

def releaseEvents (s : Session) (service : ServiceId) : List Event :=
  match s.services service with
  | .manual _ => []
  | .pool pool =>
    match pool.waiting.dropWhile (s.stateOf · ≠ some .outstanding) with
    | [] => []
    | id :: ids =>
      let s := s.updateService service fun _ => .pool { pool with waiting := ids }
      match s.requests[id]? with
      | none => []
      | some request =>
        s.finishOnWorkerEvents service id request.coordinates.key
          ((pool.provided request.coordinates.key).getD .unprovided)

/-- The panel is told of requests in order, up to the first fault. -/
def drainEvents (s : Session) : List RequestId → List Event
  | [] => []
  | id :: ids =>
    deliverEvents { s with queue := ids } id
      ++ match deliver { s with queue := ids } id with
        | (s, none) => s.drainEvents ids
        | (_, some _) => []

/-- What is logged when an operation is performed. -/
def performEvents (s : Session) : Operation → List Event
  | .activate coordinates => s.activateEvents coordinates
  | .setService service => (s.rewire service).recordAndReloadEvents "service"
  | .load => s.reloadEvents
  | .stepForward => s.stepEvents s.panel.timeForward?
  | .stepBackward => s.stepEvents s.panel.timeBackward?
  | .complete service key emulator =>
    (s.updateService service (Service.keep key (some emulator))).finishKeyEvents service key
      (.emulated emulator)
  | .fail service key failure => s.finishKeyEvents service key (.failed failure)
  | .cancel id => s.cancelEvents id
  | .release service => s.releaseEvents service
  | .drain => s.drainEvents s.queue
  | .assign .. | .add .. | .evict .. | .provide .. | .write .. | .clearLog => []

/-- What is logged in the course of a run. -/
def runEvents (s : Session) : List Operation → List Event
  | [] => []
  | operation :: operations =>
    s.performEvents operation ++ (s.perform operation).1.runEvents operations

/-- What the operations of a run answer. -/
def replies (s : Session) : List Operation → List (Except Fault Reply)
  | [] => []
  | operation :: operations =>
    (s.perform operation).2 :: (s.perform operation).1.replies operations

/-- A request is issued, overtaken and dropped; the two activations are on some levels. -/
def Sample.climbing (level level' : Int) : List Operation :=
  [.activate { Sample.spot 1 with frame := level }, .activate { Sample.spot 2 with frame := level' },
   .complete "S" (Sample.spot 1).key (Sample.emulator 1), .drain, .stepForward]

end Session

end PcodePanel
