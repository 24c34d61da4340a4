import PcodePanel.Proofs.Session.Events
import PcodePanel.Proofs.Session.Generation

/-!
# Sessions in another guise

Operations do not depend on stack levels, on whether events are logged, or on what a log holds. A
*guise* changes all of these: it gives every stack level another value, and takes another log, with
the settings that belong to it. What happens to a session in a guise is what happens to the session,
in that guise.

* `Session.Guise` — what is changed; the log of a guise takes the events that have been logged
  since;
* `Session.Guise.Admits` — the guise can log what is logged at some coordinates;
* `Session.perform_session` — an operation in a guise, and `Session.performAll_session` — a run.
-/

namespace PcodePanel

namespace Session

/-- Other stack levels, other settings of the log, and another log. -/
structure Guise where
  level : Int → Int
  settings : Config → Config
  /-- The log, after some events, in the place of a session's own. -/
  log : List Event → Option EventLog → Option EventLog
  indent_settings : ∀ config, (settings config).indent = config.indent
  log_record : ∀ events own event,
    log (events ++ [event]) (own.map (·.record event)) = (log events own).map (·.record event)

namespace Guise

variable (g : Guise)

def coordinates (c : Coordinates) : Coordinates :=
  { c with frame := g.level c.frame }

def request (request : Request) : Request :=
  { request with coordinates := g.coordinates request.coordinates }

def panel (panel : Panel) : Panel :=
  { panel with current := g.coordinates panel.current, previous := g.coordinates panel.previous }

/-- A session in the guise, after some events. -/
def session (events : List Event) (s : Session) : Session :=
  { s with
    panel := g.panel s.panel, config := g.settings s.config, log := g.log events s.log
    requests := s.requests.map g.request }

/-- What an operation comes to, in the guise. -/
def result {α : Type} (events : List Event) (result : Session × α) : Session × α :=
  (g.session events result.1, result.2)

def operation : Operation → Operation
  | .activate coordinates => .activate (g.coordinates coordinates)
  | operation => operation

/-- The log stays as it is. -/
def KeepsLog : Prop :=
  g.log = fun _ own => own

/-- What is logged at the coordinates can be logged in the guise too. -/
def Admits (c : Coordinates) : Prop :=
  c.Legible ∨ g.KeepsLog

end Guise

/-! ## What the panel follows -/

section Current

variable {s : Session}

theorem current_settle (s : Session) (onWorker : Bool) (id : RequestId) (state : RequestState) :
    (s.settle onWorker id state).panel.current = s.panel.current := by
  obtain ⟨queue, undisturbed⟩ := s.undisturbed_settle onWorker id state
  exact undisturbed.current

theorem current_finishAll (s : Session) (outcome : Outcome) (ids : List RequestId) :
    (s.finishAll outcome ids).1.panel.current = s.panel.current := by
  induction ids generalizing s with
  | nil => rfl
  | cons id ids ih =>
      unfold finishAll
      split
      · rw [ih, current_settle]
      · rfl

theorem current_drainIds (s : Session) (count : Nat) (ids : List RequestId) :
    (s.drainIds count ids).1.panel.current = s.panel.current := by
  induction ids generalizing s count with
  | nil => rfl
  | cons id ids ih =>
      have told := (undisturbed_deliver { s with queue := ids } id).current
      unfold drainIds
      split
      · next delivered =>
        rw [delivered] at told
        rw [ih]
        exact told
      · next delivered =>
        rw [delivered] at told
        exact told

theorem current_release (s : Session) (service : ServiceId) :
    (s.release service).1.panel.current = s.panel.current := by
  have worker : ∀ (s : Session) id key outcome,
      (s.finishOnWorker service id key outcome).panel.current = s.panel.current := by
    intro s id key outcome
    cases outcome with
    | failed failure => exact current_settle ..
    | emulated emulator => exact current_settle ..
  unfold release
  split
  · rfl
  · split
    · rfl
    · dsimp only
      split
      · rfl
      · exact worker ..

theorem current_activate (s : Session) (c : Coordinates) :
    (s.activate c).1.panel.current = c := by
  unfold activate
  split
  · rfl
  · exact ((s.focusOn c).undisturbed_recordAndReload "activate").current

theorem current_stepTo (s : Session) (time : Option Schedule) :
    (s.stepTo time).1.panel.current = (time.bind s.reaches?).getD s.panel.current := by
  cases time with
  | none => rfl
  | some time =>
      have own := s.current_activate (s.panel.current.withTime time)
      have handed := current_activate { s with handed := s.handed ++ [time] }
        (s.panel.current.withTime time)
      rw [stepTo, answer_fst]
      obtain ⟨panel, config, delivery, manager, catalog, log, services, requests, queue, memories,
        times, failures⟩ := s
      cases manager with
      | none => exact own
      | some manager =>
          cases manager with
          | record => rfl
          | apply => exact handed

/-- The panel follows what an operation activates, if it does. -/
theorem current_perform (s : Session) (operation : Operation) :
    (s.perform operation).1.panel.current = (s.activates? operation).getD s.panel.current := by
  cases operation with
  | activate c =>
      rw [perform, answer_fst]
      exact s.current_activate c
  | setService service =>
      rw [perform, answer_fst]
      exact ((s.rewire service).undisturbed_recordAndReload "service").current
  | load =>
      rw [perform, answer_fst]
      exact s.undisturbed_reload.current
  | stepForward | stepBackward => exact s.current_stepTo _
  | assign index type =>
      show (s.assign index type).1.panel.current = s.panel.current
      unfold assign
      split
      · rfl
      · next assigned =>
        obtain ⟨_, _, _, _, _, _, rfl⟩ := Panel.assign_eq_ok assigned
        rfl
  | complete service key emulator | fail service key failure =>
      rw [perform, finishKey, answer_fst]
      exact current_finishAll ..
  | cancel id =>
      show (s.cancel id).1.panel.current = s.panel.current
      unfold cancel
      split
      · exact current_settle ..
      · rfl
  | release service => exact s.current_release service
  | write memory varnode content =>
      rw [perform, answer_fst]
      unfold write
      split <;> rfl
  | drain =>
      rw [perform_drain]
      exact s.current_drainIds 0 s.queue
  | add | evict | provide | clearLog => rfl

end Current

/-! ## Loads -/

section Commute

variable {g : Guise} {events : List Event} {s : Session} {id : RequestId}

/-- A guise that keeps the log is the same after any events. -/
theorem session_of_keepsLog (keeps : g.KeepsLog) (events events' : List Event) (s : Session) :
    g.session events s = g.session events' s := by
  have same : g.log events = g.log events' := by rw [show g.log = _ from keeps]
  unfold Guise.session
  rw [same]

theorem record_session (admits : g.Admits s.panel.current) (name detail : String) :
    (g.session events s).record name detail
      = (s.record name detail).map (g.session (events ++ [s.event name detail])) := by
  by_cases legible : s.panel.current.Legible
  · have legible' : (g.session events s).panel.current.Legible := legible
    rw [record_of_legible legible, record_of_legible legible']
    show Except.ok _ = Except.ok (g.session _ _)
    refine congrArg Except.ok ?_
    unfold Guise.session
    rw [g.log_record]
    rfl
  · have keeps := admits.resolve_left legible
    obtain ⟨level, settings, log, _, _⟩ := g
    cases keeps
    obtain ⟨panel, config, delivery, manager, catalog, log, services, requests, queue, memories,
      handed, failures⟩ := s
    cases log with
    | none => rfl
    | some log =>
        show (panel.current.text >>= _) = _
        cases text : panel.current.text with
        | error fault => simp [record, text, bind, Except.bind, Except.map]
        | ok text' => exact absurd (by rw [Coordinates.Legible, text]; rfl) legible

theorem isWaiting_session : (g.session events s).isWaiting = s.isWaiting := by
  show (s.panel.pending.bind ((s.requests.map g.request)[·]?)).any _ = _
  unfold isWaiting
  cases s.panel.pending with
  | none => rfl
  | some id =>
      rw [Option.bind_some, Option.bind_some, List.getElem?_map]
      cases s.requests[id]? <;> rfl

theorem plan_session : (g.session events s).plan = s.plan := by
  unfold plan
  rw [isWaiting_session]
  rfl

theorem showEmulator_panel (indent : Option Bool) (memories : MemoryId → Memory)
    (emulator : Emulator) (path : String) (panel : Panel) :
    (g.panel panel).showEmulator indent memories emulator path
      = (g.panel (panel.showEmulator indent memories emulator path).1,
        (panel.showEmulator indent memories emulator path).2) := by
  unfold Panel.showEmulator
  cases emulator.thread? path with
  | none => rfl
  | some thread =>
      dsimp only
      cases thread.frame with
      | none => rfl
      | some frame =>
          unfold Panel.showFrame
          dsimp only
          cases Listing.ofFrame emulator.language frame indent with
          | error fault => rfl
          | ok listing =>
              dsimp only
              cases Unique.decodeAll (Unique.collect frame) (memories thread.memory)
                emulator.language <;> rfl

theorem showEmulator_session (emulator : Emulator) :
    (g.session events s).showEmulator emulator = g.result events (s.showEmulator emulator) := by
  have thread : (g.session events s).panel.current.thread = s.panel.current.thread := rfl
  unfold showEmulator
  rw [thread]
  cases s.panel.current.thread with
  | none => rfl
  | some path =>
      have shown : (g.session events s).panel.showEmulator (g.session events s).config.indent
            (g.session events s).memory emulator path
          = (g.panel (s.panel.showEmulator s.config.indent s.memory emulator path).1,
            (s.panel.showEmulator s.config.indent s.memory emulator path).2) := by
        rw [← showEmulator_panel, ← g.indent_settings s.config]
        rfl
      dsimp only
      rw [shown]
      rfl

theorem issue_session (service : ServiceId) :
    (g.session events s).issue service = g.session events (s.issue service) := by
  rw [issue_eq, issue_eq]
  unfold Guise.session
  simp only [List.map_append, List.length_map]
  rfl

/-- An event is logged, and then something else is done. -/
theorem recordThen_session {name detail : String} {more : List Event}
    (next : Session → Session × Option Fault) (admits : g.Admits s.panel.current)
    (same : ∀ log events, next (g.session events { s with log })
      = g.result (events ++ more) (next { s with log })) :
    (match (g.session events s).record name detail with
      | .error fault => (g.session events s, some fault)
      | .ok s => next s)
      = g.result (events ++ s.event name detail :: more)
        (match s.record name detail with
          | .error fault => (s, some fault)
          | .ok s => next s) := by
  rw [record_session admits]
  cases recorded : s.record name detail with
  | ok s' =>
      obtain ⟨log, rfl⟩ := record_eq_ok recorded
      exact (same log _).trans (by rw [List.append_assoc]; rfl)
  | error fault =>
      -- Only a log that is kept in the guise refuses an event.
      refine Prod.ext ?_ rfl
      rcases admits with legible | keeps
      · rw [record_of_legible legible] at recorded
        cases recorded
      · exact session_of_keepsLog keeps ..

theorem reload_session (admits : g.Admits s.panel.current) :
    (g.session events s).reload = g.result (events ++ s.reloadEvents) s.reload := by
  unfold reload reloadEvents
  rw [plan_session]
  cases s.plan with
  | nothing | placeholder | wait =>
      rw [List.append_nil]
      rfl
  | display emulator =>
      rw [List.append_nil]
      exact showEmulator_session (s := s.clearLabel) emulator
  | ask service =>
      refine recordThen_session (s := s.clearLabel.showPlaceholder .loading .loading none)
        (fun s => (s.issue service, none)) admits fun log events => ?_
      rw [List.append_nil]
      exact Prod.ext (issue_session service) rfl

theorem recordAndReload_session (admits : g.Admits s.panel.current) (name : String) :
    (g.session events s).recordAndReload name
      = g.result (events ++ s.recordAndReloadEvents name) (s.recordAndReload name) :=
  recordThen_session reload admits fun log _ => reload_session (s := { s with log }) admits

theorem activate_session {c : Coordinates} (admits : g.Admits c) :
    (g.session events s).activate (g.coordinates c)
      = g.result (events ++ s.activateEvents c) (s.activate c) := by
  have same : (g.session events s).panel.current.sameAs (g.coordinates c)
    = s.panel.current.sameAs c := rfl
  unfold activate activateEvents
  rw [same]
  split
  · rw [List.append_nil]
    rfl
  · exact recordAndReload_session (s := s.focusOn c) admits _

theorem setService_session (admits : g.Admits s.panel.current) (service : Option ServiceId) :
    (g.session events s).setService service
      = g.result (events ++ (s.rewire service).recordAndReloadEvents "service")
        (s.setService service) :=
  recordAndReload_session (s := s.rewire service) admits _

/-! ## Settled requests -/

theorem forget_session : (g.session events s).forget id = g.session events (s.forget id) := by
  rw [forget_eq, forget_eq]
  rfl

theorem deliver_session (admits : g.Admits s.panel.current) :
    (g.session events s).deliver id = g.result (events ++ s.deliverEvents id) (s.deliver id) := by
  have found : (g.session events s).requests[id]? = (s.requests[id]?).map g.request :=
    List.getElem?_map
  unfold deliver deliverEvents
  rw [found]
  cases s.requests[id]? with
  | none =>
      rw [List.append_nil]
      rfl
  | some request =>
      have admits' : g.Admits (s.forget id).panel.current := by
        rw [forget_eq]
        exact admits
      have same : (g.request request).isCurrent (g.session events (s.forget id)).panel.current
          (g.session events (s.forget id)).panel.generation
        = request.isCurrent (s.forget id).panel.current (s.forget id).panel.generation := rfl
      dsimp only [Option.map_some]
      rw [forget_session, same]
      split
      · unfold takeOver
        have sameState : (g.request request).state = request.state := rfl
        rw [sameState]
        cases request.state with
        | outstanding | cancelled =>
            rw [List.append_nil]
            rfl
        | finished outcome =>
            cases outcome with
            | emulated emulator =>
                refine recordThen_session (fun s => s.showEmulator emulator) admits'
                  fun log events => ?_
                rw [List.append_nil]
                exact showEmulator_session emulator
            | failed failure =>
                refine recordThen_session (s := { s.forget id with
                    failures := (s.forget id).failures ++ [request.coordinates.time] })
                  (fun s => (s.showPlaceholder .notDecoded .emulationFailed
                    (some failure.text), none)) admits' fun log events => ?_
                rw [List.append_nil]
                rfl
      · refine recordThen_session (fun s => (s.setState .stale).reload) admits'
          fun log events => ?_
        exact reload_session (s := { s.forget id with log }.setState .stale) admits'

theorem mark_session (state : RequestState) :
    (g.session events s).mark id state = g.session events (s.mark id state) := by
  have modified : (s.requests.map g.request).modify id (fun request => { request with state })
      = (s.requests.modify id fun request => { request with state }).map g.request := by
    refine List.ext_getElem? fun other => ?_
    simp only [List.getElem?_modify, List.getElem?_map]
    cases s.requests[other]? with
    | none => rfl
    | some request => by_cases same : id = other <;> simp [same, Guise.request]
  exact congrArg (fun requests => { g.session events s with requests }) modified

theorem settle_session (admits : g.Admits s.panel.current) (onWorker : Bool)
    (state : RequestState) :
    (g.session events s).settle onWorker id state
      = g.session (events ++ s.settleEvents onWorker id state) (s.settle onWorker id state) := by
  have delivery : (g.session events s).delivery = s.delivery := rfl
  rw [settle_eq, settle_eq, settleEvents, delivery, mark_session]
  split
  · exact congrArg Prod.fst (deliver_session (s := s.mark id state) admits)
  · rw [List.append_nil]
    rfl

theorem stateOf_session : (g.session events s).stateOf id = s.stateOf id := by
  show ((s.requests.map g.request)[id]?).map _ = _
  rw [List.getElem?_map, stateOf]
  cases s.requests[id]? <;> rfl

theorem finishAll_session (admits : g.Admits s.panel.current) (outcome : Outcome)
    (ids : List RequestId) :
    (g.session events s).finishAll outcome ids
      = g.result (events ++ s.finishAllEvents outcome ids) (s.finishAll outcome ids) := by
  induction ids generalizing s events with
  | nil =>
      rw [finishAllEvents, List.append_nil]
      rfl
  | cons id ids ih =>
      unfold finishAll finishAllEvents
      rw [stateOf_session]
      split
      · have admits' : g.Admits (s.settle false id (.finished outcome)).panel.current := by
          rw [current_settle]
          exact admits
        rw [settle_session admits, ih admits', List.append_assoc]
      · rw [List.append_nil]
        rfl

theorem cancel_session (admits : g.Admits s.panel.current) :
    (g.session events s).cancel id = g.result (events ++ s.cancelEvents id) (s.cancel id) := by
  unfold cancel cancelEvents
  rw [stateOf_session]
  split
  · rw [settle_session admits]
    rfl
  · rw [List.append_nil]
    rfl

theorem drainIds_session (admits : g.Admits s.panel.current) (count : Nat)
    (ids : List RequestId) :
    (g.session events s).drainIds count ids
      = g.result (events ++ s.drainEvents ids) (s.drainIds count ids) := by
  induction ids generalizing s events count with
  | nil =>
      rw [drainEvents, List.append_nil]
      rfl
  | cons id ids ih =>
      have told : deliver { g.session events s with queue := ids } id
          = g.result (events ++ deliverEvents { s with queue := ids } id)
            (deliver { s with queue := ids } id) :=
        deliver_session (s := { s with queue := ids }) admits
      have admits' : g.Admits (deliver { s with queue := ids } id).1.panel.current := by
        rw [(undisturbed_deliver _ id).current]
        exact admits
      unfold drainIds drainEvents
      rw [told]
      generalize deliver { s with queue := ids } id = result at admits' ⊢
      obtain ⟨t, fault⟩ := result
      cases fault with
      | some fault => exact Prod.ext (by rw [List.append_nil]; rfl) rfl
      | none =>
          rw [← List.append_assoc]
          exact ih admits' (count + 1)

/-! ## Operations -/

theorem answer_session {more : List Event} {result result' : Session × Option Fault}
    {reply : Session → Reply} (same : result' = g.result more result)
    (replies : ∀ s, reply (g.session more s) = reply s) :
    answer result' reply = g.result more (answer result reply) := by
  obtain ⟨s, fault⟩ := result
  rw [same]
  cases fault with
  | none => exact Prod.ext rfl (congrArg Except.ok (replies s))
  | some fault => rfl

theorem finishKey_session (admits : g.Admits s.panel.current) (service : ServiceId)
    (key : EmulationKey) (outcome : Outcome) :
    (g.session events s).finishKey service key outcome
      = g.result (events ++ s.finishKeyEvents service key outcome)
        (s.finishKey service key outcome) :=
  answer_session (finishAll_session (s := s.updateService service (Service.takeUp key)) admits _ _)
    fun _ => rfl

theorem finishOnWorker_session (admits : g.Admits s.panel.current) (service : ServiceId)
    (key : EmulationKey) (outcome : Outcome) :
    (g.session events s).finishOnWorker service id key outcome
      = g.session (events ++ s.finishOnWorkerEvents service id key outcome)
        (s.finishOnWorker service id key outcome) := by
  cases outcome with
  | failed failure => exact settle_session admits true _
  | emulated emulator =>
      exact settle_session (s := s.updateService service (Service.keep key (some emulator))) admits
        true _

theorem release_session (admits : g.Admits s.panel.current) (service : ServiceId) :
    (g.session events s).release service
      = g.result (events ++ s.releaseEvents service) (s.release service) := by
  have services : (g.session events s).services = s.services := rfl
  unfold release releaseEvents
  rw [services]
  cases s.services service with
  | manual book =>
      rw [List.append_nil]
      rfl
  | pool pool =>
      have settled : (g.session events s).stateOf = s.stateOf := funext fun _ => stateOf_session
      dsimp only
      rw [settled]
      cases pool.waiting.dropWhile (s.stateOf · ≠ some .outstanding) with
      | nil =>
          rw [List.append_nil]
          rfl
      | cons id ids =>
          have found : ((g.session events s).updateService service
                fun _ => .pool { pool with waiting := ids }).requests[id]?
              = (s.requests[id]?).map g.request := List.getElem?_map
          have found' : (s.updateService service
              fun _ => .pool { pool with waiting := ids }).requests[id]? = s.requests[id]? := rfl
          dsimp only
          rw [found, found']
          cases s.requests[id]? with
          | none =>
              rw [List.append_nil]
              rfl
          | some request =>
              exact Prod.ext (finishOnWorker_session (s := s.updateService service
                fun _ => .pool { pool with waiting := ids }) admits service _ _) rfl

theorem stepTo_session {time : Option Schedule}
    (admits : ∀ c, time.bind s.reaches? = some c → g.Admits c) :
    (g.session events s).stepTo time
      = g.result (events ++ s.stepEvents time) (s.stepTo time) := by
  cases time with
  | none =>
      rw [stepEvents, List.append_nil]
      rfl
  | some time =>
      have activated : ∀ s : Session, ∀ c, g.Admits c →
          (g.session events s).activate (g.coordinates c)
            = g.result (events ++ s.activateEvents c) (s.activate c) :=
        fun _ _ => activate_session
      have own := activated s (s.panel.current.withTime time)
      have handed := activated { s with handed := s.handed ++ [time] }
        (s.panel.current.withTime time)
      refine answer_session ?_ fun _ => rfl
      obtain ⟨panel, config, delivery, manager, catalog, log, services, requests, queue, memories,
        times, failures⟩ := s
      cases manager with
      | none => exact own (admits _ rfl)
      | some manager =>
          cases manager with
          | record =>
              show _ = g.result (events ++ []) _
              rw [List.append_nil]
              rfl
          | apply => exact handed (admits _ rfl)

theorem assign_session (index : Int) (type : Option DataType) :
    (g.session events s).assign index type = g.result events (s.assign index type) := by
  have source : (g.session events s).panel.source = s.panel.source := rfl
  have uniques : (g.session events s).panel.uniques = s.panel.uniques := rfl
  have catalog : (g.session events s).catalog = s.catalog := rfl
  have memory : (g.session events s).memory = s.memory := rfl
  unfold assign Panel.assign
  rw [source, uniques, catalog, memory]
  cases s.panel.source with
  | none => rfl
  | some source =>
      dsimp only
      cases Unique.entryAt s.panel.uniques index with
      | error fault => rfl
      | ok found =>
          dsimp only
          rcases found.2.assign type s.catalog (s.memory source.memory) source.language
            with ⟨_ | _, _⟩ <;> rfl

theorem write_session (memory : MemoryId) (varnode : Varnode) (content : Memory.Content) :
    (g.session events s).write memory varnode content
      = g.result events (s.write memory varnode content) := by
  have same : (g.session events s).memory memory = s.memory memory := rfl
  unfold write
  rw [same]
  cases (s.memory memory).store varnode content <;> rfl

theorem flag_session {more : List Event} {result result' : Session × Bool}
    (same : result' = g.result more result) :
    (result'.1, Except.ok (ε := Fault) (Reply.flag result'.2))
      = g.result more (result.1, Except.ok (Reply.flag result.2)) := by
  rw [same]
  rfl

/-- An operation in a guise is the operation, in that guise. The log may be cleared only where it is
the session's own. -/
theorem perform_session {operation : Operation} (admits : g.Admits s.panel.current)
    (admits' : ∀ c, s.activates? operation = some c → g.Admits c)
    (unclear : operation ≠ .clearLog ∨ g.KeepsLog) :
    (g.session events s).perform (g.operation operation)
      = g.result (events ++ s.performEvents operation) (s.perform operation) := by
  cases operation with
  | activate c => exact answer_session (activate_session (admits' c rfl)) fun _ => rfl
  | setService service => exact answer_session (setService_session admits service) fun _ => rfl
  | load => exact answer_session (reload_session admits) fun _ => rfl
  | stepForward | stepBackward => exact stepTo_session admits'
  | assign index type =>
      rw [performEvents, List.append_nil]
      exact assign_session index type
  | complete service key emulator =>
      exact finishKey_session (s := s.updateService service (Service.keep key emulator)) admits ..
  | fail service key failure => exact finishKey_session admits ..
  | cancel id => exact flag_session (cancel_session admits)
  | release service => exact flag_session (release_session admits service)
  | write memory varnode content =>
      rw [performEvents, List.append_nil]
      exact answer_session (write_session ..) fun _ => rfl
  | drain =>
      have drained : (g.session events s).drain
          = g.result (events ++ s.drainEvents s.queue) s.drain :=
        drainIds_session admits 0 s.queue
      show perform (g.session events s) .drain = _
      rw [perform_drain, perform_drain, drained]
      rfl
  | add | evict | provide =>
      rw [performEvents, List.append_nil]
      rfl
  | clearLog =>
      have keeps := unclear.resolve_left (absurd rfl)
      obtain ⟨level, settings, log, _, _⟩ := g
      cases keeps
      rfl

/-- A run in a guise is the run, in that guise. -/
theorem performAll_session {operations : List Operation}
    (admits : ∀ front, front <+: operations → g.Admits (s.performAll front).panel.current)
    (unclear : .clearLog ∉ operations ∨ g.KeepsLog) :
    (g.session events s).performAll (operations.map g.operation)
        = g.session (events ++ s.runEvents operations) (s.performAll operations)
      ∧ (g.session events s).replies (operations.map g.operation) = s.replies operations := by
  induction operations generalizing s events with
  | nil => exact ⟨congrArg (g.session · s) (List.append_nil events).symm, rfl⟩
  | cons operation operations ih =>
      have here : g.Admits s.panel.current := admits [] List.nil_prefix
      have next : g.Admits (s.perform operation).1.panel.current :=
        admits [operation] ⟨operations, rfl⟩
      rw [s.current_perform] at next
      have first : (g.session events s).perform (g.operation operation)
          = g.result (events ++ s.performEvents operation) (s.perform operation) :=
        perform_session here (fun c activates => by rwa [activates] at next)
          (unclear.imp_left fun absent same => absent (same ▸ List.mem_cons_self))
      obtain ⟨run, replies⟩ := @ih (events ++ s.performEvents operation) (s.perform operation).1
        (fun front isFront =>
          admits (operation :: front) (List.cons_prefix_cons.mpr ⟨rfl, isFront⟩))
        (unclear.imp_left fun absent later => absent (List.mem_cons_of_mem _ later))
      rw [List.map_cons, performAll_cons, performAll_cons, Session.replies, Session.replies, first,
        runEvents, ← List.append_assoc]
      exact ⟨run, congrArg ((s.perform operation).2 :: ·) replies⟩

end Commute

end Session

end PcodePanel
