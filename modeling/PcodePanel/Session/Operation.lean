import PcodePanel.Session.Basic

/-!
# Operations on a session

All that can happen to a session, as data.

* `Session.perform` performs an operation: the session that is reached, and the reply or a fault.
-/

namespace PcodePanel

/-- What can happen to a session. -/
inductive Operation
  | activate (coordinates : Coordinates)
  | setService (service : Option ServiceId)
  | load
  | stepForward
  | stepBackward
  | assign (index : Int) (type : Option DataType)
  /-- A manual service learns of an emulator. -/
  | add (service : ServiceId) (key : EmulationKey) (emulator : Emulator)
  /-- A manual service finishes the requests for a key. -/
  | complete (service : ServiceId) (key : EmulationKey) (emulator : Emulator)
  /-- A manual service gives up the requests for a key. -/
  | fail (service : ServiceId) (key : EmulationKey) (failure : Failure)
  /-- A request is cancelled. -/
  | cancel (request : RequestId)
  /-- A service drops an emulator. -/
  | evict (service : ServiceId) (key : EmulationKey)
  /-- A pool learns what an emulation will come to. -/
  | provide (service : ServiceId) (key : EmulationKey) (outcome : Outcome)
  /-- The worker of a pool finishes its oldest request. -/
  | release (service : ServiceId)
  /-- Bytes of an emulated thread are written. -/
  | write (memory : MemoryId) (varnode : Varnode) (content : Memory.Content)
  /-- The owner tells the panel of the requests in the queue. -/
  | drain
  | clearLog
deriving DecidableEq, Repr

/-- What an operation answers. -/
inductive Reply
  | nothing
  | state (state : LoadState)
  | time (time : Option Schedule)
  | entry (entry : Unique.Entry)
  | flag (flag : Bool)
  | count (count : Nat)
deriving DecidableEq, Repr

namespace Session

/-- The answer to an operation that may have failed. -/
def answer (result : Session × Option Fault) (reply : Session → Reply) :
    Session × Except Fault Reply :=
  match result with
  | (s, none) => (s, .ok (reply s))
  | (s, some fault) => (s, .error fault)

/-- Steps to a time, if there is one. -/
def stepTo (s : Session) : Option Schedule → Session × Except Fault Reply
  | none => (s, .ok (.time none))
  | some time => answer (s.activateTime time) fun _ => .time (some time)

/-- Gives a temporary a data type, or takes it away. -/
def assign (s : Session) (index : Int) (type : Option DataType) : Session × Except Fault Reply :=
  match s.panel.assign index type s.catalog s.memory with
  | (.error fault, catalog) => ({ s with catalog }, .error fault)
  | (.ok (entry, panel), catalog) => ({ s with panel, catalog }, .ok (.entry entry))

/-- Finishes the requests for a key at a manual service. -/
def finishKey (s : Session) (service : ServiceId) (key : EmulationKey) (outcome : Outcome) :
    Session × Except Fault Reply :=
  let ids := (s.services service).waitingFor key
  let s := s.updateService service (Service.takeUp key)
  answer (s.finishAll outcome ids) fun _ => .nothing

/-- Lets the worker of a pool finish a request: what it has emulated is kept. -/
def finishOnWorker (s : Session) (service : ServiceId) (id : RequestId) (key : EmulationKey)
    (outcome : Outcome) : Session :=
  let s :=
    match outcome with
    | .emulated emulator => s.updateService service (Service.keep key (some emulator))
    | .failed _ => s
  s.settle true id (.finished outcome)

/-- Lets the worker of a pool finish its oldest request, if there is one. The worker skips requests
that are settled already. -/
def release (s : Session) (service : ServiceId) : Session × Bool :=
  match s.services service with
  | .manual _ => (s, false)
  | .pool pool =>
    match pool.waiting.dropWhile (s.stateOf · ≠ some .outstanding) with
    | [] => (s, false)
    | id :: ids =>
      let s := s.updateService service fun _ => .pool { pool with waiting := ids }
      match s.requests[id]? with
      | none => (s, true)
      | some request =>
        let key := request.coordinates.key
        let outcome := (pool.provided key).getD .unprovided
        (s.finishOnWorker service id key outcome, true)

/-- Writes bytes of an emulated thread. -/
def write (s : Session) (id : MemoryId) (varnode : Varnode) (content : Memory.Content) :
    Session × Option Fault :=
  match (s.memory id).store varnode content with
  | .error fault => (s, some fault)
  | .ok memory => ({ s with memories := s.memories.set id memory }, none)

/-- Performs an operation. -/
def perform (s : Session) : Operation → Session × Except Fault Reply
  | .activate coordinates => answer (s.activate coordinates) fun _ => .nothing
  | .setService service => answer (s.setService service) fun _ => .nothing
  | .load => answer s.reload fun s => .state s.panel.state
  | .stepForward => s.stepTo s.panel.timeForward?
  | .stepBackward => s.stepTo s.panel.timeBackward?
  | .assign index type => s.assign index type
  | .add service key emulator =>
    (s.updateService service (Service.keep key (some emulator)), .ok .nothing)
  | .complete service key emulator =>
    (s.updateService service (Service.keep key (some emulator))).finishKey service key
      (.emulated emulator)
  | .fail service key failure => s.finishKey service key (.failed failure)
  | .cancel request =>
    let (s, cancelled) := s.cancel request
    (s, .ok (.flag cancelled))
  | .evict service key =>
    let known := ((s.services service).cached? key).isSome
    (s.updateService service (Service.keep key none), .ok (.flag known))
  | .provide service key outcome =>
    (s.updateService service (Service.provide key outcome), .ok .nothing)
  | .release service =>
    let (s, released) := s.release service
    (s, .ok (.flag released))
  | .write memory varnode content => answer (s.write memory varnode content) fun _ => .nothing
  | .drain =>
    match s.drain with
    | (s, .ok count) => (s, .ok (.count count))
    | (s, .error fault) => (s, .error fault)
  | .clearLog => ({ s with log := s.log.map EventLog.clear }, .ok .nothing)

/-- Performs operations in order. -/
def performAll (s : Session) (operations : List Operation) : Session :=
  operations.foldl (fun s operation => (s.perform operation).1) s

end Session

end PcodePanel
