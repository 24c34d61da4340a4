import PcodePanel.Config
import PcodePanel.Emulation.Delivery
import PcodePanel.EventLog
import PcodePanel.Panel

/-!
# Sessions

A session is a panel with all that it works with: services and the requests issued to them, the
queue of settled requests, the memories of the emulated threads, a catalog and an event log.

* `Session.plan` is what a reload has to do; `Session.reload` does it;
* `Session.deliver` tells the panel that a request is settled. What was asked for other coordinates,
  for another service or in an earlier generation is dropped, and the panel reloads;
* `Session.activate` and `Session.setService` begin a new generation.

A function that can fail says how far it got: it returns the session that it reached with the fault.
-/

namespace PcodePanel

/-- What a manager does with a time that it is handed: it keeps it, or also activates it. -/
inductive Manager
  | record
  | apply
deriving DecidableEq, Repr

/-- A panel with all that it works with. -/
structure Session where
  panel : Panel
  config : Config
  delivery : Delivery
  manager : Option Manager
  catalog : Catalog
  /-- The events, if they are logged. -/
  log : Option EventLog
  services : Table ServiceId Service
  /-- All requests, in the order in which they were issued. -/
  requests : List Request := []
  /-- The settled requests that the panel has not been told of. -/
  queue : List RequestId := []
  memories : List Memory := []
  /-- The times that were handed to the manager. -/
  handed : List Schedule := []
  /-- The times of the emulations that failed. -/
  failures : List Schedule := []

/-- What a reload has to do. -/
inductive Plan
  | nothing
  | placeholder (state : LoadState) (kind : PlaceholderKind)
  | display (emulator : Emulator)
  /-- The request for what is to be shown is on its way. -/
  | wait
  /-- Something has to be asked of a service. -/
  | ask (service : ServiceId)
deriving DecidableEq, Repr

namespace Session

/-- A new session. -/
def create (config : Config) (service : Option ServiceId) (delivery : Delivery)
    (manager : Option Manager) (catalog : Catalog) (services : Table ServiceId Service) :
    Except Fault Session := do
  let log ← if config.trace then some <$> EventLog.ofCapacity config.capacity else pure none
  return { panel := { service }, config, delivery, manager, catalog, log, services }

/-- The memory in a place; a place that was never used is empty. -/
def memory (s : Session) (id : MemoryId) : Memory :=
  s.memories.getD id {}

/-- Keeps another memory: its place, and the session after that. -/
def allocate (s : Session) (memory : Memory) : MemoryId × Session :=
  (s.memories.length, { s with memories := s.memories ++ [memory] })

/-- The session with another state of its panel. -/
def setState (s : Session) (state : LoadState) : Session :=
  { s with panel := { s.panel with state } }

/-- The session with its panel cleared of the text of the instruction. -/
def clearLabel (s : Session) : Session :=
  { s with panel := { s.panel with label := none } }

/-- Changes one service. -/
def updateService (s : Session) (id : ServiceId) (change : Service → Service) : Session :=
  { s with services := s.services.set id (change (s.services id)) }

/-- Logs an event at the current coordinates and generation, if events are logged. -/
def record (s : Session) (name detail : String) : Except Fault Session :=
  match s.log with
  | none => .ok s
  | some log => do
    let coordinates ← s.panel.current.text
    let event : Event := ⟨name, s.panel.generation, coordinates, detail⟩
    return { s with log := some (log.record event) }

/-! ## Loading -/

/-- Whether the panel waits for a request that is current. -/
def isWaiting (s : Session) : Bool :=
  (s.panel.pending.bind (s.requests[·]?)).any
    fun request => request.isCurrent s.panel.current s.panel.generation

/-- What a reload has to do. -/
def plan (s : Session) : Plan :=
  match s.panel.service, s.panel.current.trace with
  | some service, some _ =>
    if s.panel.current.thread.isNone then .placeholder .noThread .noThread
    else if s.panel.current.time.pticks = 0 then .placeholder .notDecoded .notDecoded
    else
      match (s.services service).cached? s.panel.current.key with
      | some emulator => .display emulator
      | none => if s.isWaiting then .wait else .ask service
  | _, _ => .nothing

/-- Shows a placeholder. -/
def showPlaceholder (s : Session) (state : LoadState) (kind : PlaceholderKind)
    (detail : Option String) : Session :=
  { s with panel := s.panel.showPlaceholder state kind detail }

/-- Shows the current thread of an emulator. -/
def showEmulator (s : Session) (emulator : Emulator) : Session × Option Fault :=
  match s.panel.current.thread with
  | none => (s, none)
  | some path =>
    let (panel, fault) := s.panel.showEmulator s.config.indent s.memory emulator path
    ({ s with panel }, fault)

/-- Issues a request for the current coordinates to a service, and waits for it. -/
def issue (s : Session) (service : ServiceId) : Session :=
  let id := s.requests.length
  let request : Request := ⟨s.panel.current, s.panel.generation, service, .outstanding⟩
  let s := s.updateService service (Service.accept s.panel.current.key id)
  { s with
    requests := s.requests ++ [request], panel := { s.panel with pending := some id } }

/-- Does what a reload has to do. -/
def follow (s : Session) : Plan → Session × Option Fault
  | .nothing => ({ s with panel := s.panel.showNothing }, none)
  | .placeholder state kind => (s.showPlaceholder state kind none, none)
  | .display emulator => s.showEmulator emulator
  | .wait => (s.setState .loading, none)
  | .ask service =>
    let s := s.showPlaceholder .loading .loading none
    match s.record "request" "" with
    | .error fault => (s, some fault)
    | .ok s => (s.issue service, none)

/-- Loads what belongs to the current coordinates. -/
def reload (s : Session) : Session × Option Fault :=
  s.clearLabel.follow s.plan

/-! ## Coordinates and services -/

/-- Logs an event, with no detail, and reloads. -/
def recordAndReload (s : Session) (name : String) : Session × Option Fault :=
  match s.record name "" with
  | .error fault => (s, some fault)
  | .ok s => s.reload

/-- Focuses on coordinates. If they show the same as before, only the stack level is taken over. -/
def activate (s : Session) (coordinates : Coordinates) : Session × Option Fault :=
  if s.panel.current.sameAs coordinates then
    ({ s with panel := { s.panel with current := coordinates } }, none)
  else
    let panel :=
      { s.panel with
        previous := s.panel.current, current := coordinates
        generation := s.panel.generation + 1 }
    recordAndReload { s with panel } "activate"

/-- Changes the service. Requests issued before are not waited for any more. -/
def setService (s : Session) (service : Option ServiceId) : Session × Option Fault :=
  let panel := { s.panel with service, pending := none, generation := s.panel.generation + 1 }
  recordAndReload { s with panel } "service"

/-- Hands a time to the manager, or activates it if there is none. -/
def activateTime (s : Session) (time : Schedule) : Session × Option Fault :=
  match s.manager with
  | none => s.activate (s.panel.current.withTime time)
  | some .record => ({ s with handed := s.handed ++ [time] }, none)
  | some .apply =>
    activate { s with handed := s.handed ++ [time] } (s.panel.current.withTime time)

/-! ## Settled requests -/

/-- Takes over the outcome of a request that the panel waited for. -/
def takeOver (s : Session) (request : Request) : Session × Option Fault :=
  match request.state with
  | .finished (.failed failure) =>
    let s := { s with failures := s.failures ++ [request.coordinates.time] }
    match s.record "failed" failure.text with
    | .error fault => (s, some fault)
    | .ok s => (s.showPlaceholder .notDecoded .emulationFailed (some failure.text), none)
  | .finished (.emulated emulator) =>
    match s.record "apply" "" with
    | .error fault => (s, some fault)
    | .ok s => s.showEmulator emulator
  | .outstanding | .cancelled => (s, none)

/-- Drops a request that the panel does not wait for, and reloads. -/
def dropStale (s : Session) (request : Request) : Session × Option Fault :=
  match s.record "stale" ("generation " ++ Numeral.decimal request.generation) with
  | .error fault => (s, some fault)
  | .ok s => (s.setState .stale).reload

/-- Forgets a request that the panel waits for. -/
def forget (s : Session) (id : RequestId) : Session :=
  if s.panel.pending = some id then { s with panel := { s.panel with pending := none } } else s

/-- Tells the panel that a request is settled. -/
def deliver (s : Session) (id : RequestId) : Session × Option Fault :=
  match s.requests[id]? with
  | none => (s, none)
  | some request =>
    let s := s.forget id
    if request.isCurrent s.panel.current s.panel.generation then s.takeOver request
    else s.dropStale request

/-- Settles a request, and tells the panel at once or later. A fault that arises at once is not seen
by the one who settles. -/
def settle (s : Session) (onWorker : Bool) (id : RequestId) (state : RequestState) : Session :=
  let s := { s with requests := s.requests.modify id fun request => { request with state } }
  if s.delivery.runsAtOnce onWorker then (s.deliver id).1
  else { s with queue := s.queue ++ [id] }

/-- What has become of a request. -/
def stateOf (s : Session) (id : RequestId) : Option RequestState :=
  (s.requests[id]?).map Request.state

/-- Finishes requests in order. One that is settled already is a fault, and ends this. -/
def finishAll (s : Session) (outcome : Outcome) : List RequestId → Session × Option Fault
  | [] => (s, none)
  | id :: ids =>
    if s.stateOf id = some .outstanding then
      (s.settle false id (.finished outcome)).finishAll outcome ids
    else (s, some .alreadySettled)

/-- Cancels a request, unless it is settled: whether it is cancelled now. -/
def cancel (s : Session) (id : RequestId) : Session × Bool :=
  if s.stateOf id = some .outstanding then (s.settle false id .cancelled, true)
  else (s, s.stateOf id = some .cancelled)

/-- Cancels requests in order: for each, whether it is cancelled now. -/
def cancelAll (s : Session) : List RequestId → Session × List Bool
  | [] => (s, [])
  | id :: ids =>
    let (s, result) := s.cancel id
    let (s, results) := s.cancelAll ids
    (s, result :: results)

/-- Cancels the requests that wait for a key at a manual service. They stay listed there. -/
def cancelKey (s : Session) (service : ServiceId) (key : EmulationKey) : Session × List Bool :=
  s.cancelAll ((s.services service).waitingFor key)

/-- Tells the panel of requests in order, up to the first fault: how many, or the fault. -/
def drainIds (s : Session) (count : Nat) : List RequestId → Session × Except Fault Nat
  | [] => (s, .ok count)
  | id :: ids =>
    match deliver { s with queue := ids } id with
    | (s, none) => s.drainIds (count + 1) ids
    | (s, some fault) => (s, .error fault)

/-- Tells the panel of the requests in the queue. Being told settles no request, so nothing is added
to the queue meanwhile. -/
def drain (s : Session) : Session × Except Fault Nat :=
  s.drainIds 0 s.queue

end Session

end PcodePanel
