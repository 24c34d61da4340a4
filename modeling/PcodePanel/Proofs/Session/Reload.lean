import PcodePanel.Proofs.Session.Run
import PcodePanel.Proofs.Unique.Address

/-!
# What a reload does

The reload of a session, and the delivery of a request, taken apart once. Each relation below has
one case for each way in which the step can end without a fault, and each case says all that the
step does.

* `Session.plan_eq_nothing_iff` and its neighbours — when a reload has what to do;
* `Panel.Shown` — how a panel comes to show a thread of an emulator;
* `Session.Reloaded` — how a session is reloaded;
* `Session.Delivered` — how a session takes a settled request;
* `Session.Undisturbed` — what reloads and deliveries leave alone.
-/

namespace PcodePanel

/-! ## Showing an emulator -/

namespace Panel

/-- How a panel comes to show a thread of an emulator. -/
inductive Shown (indent : Option Bool) (memories : MemoryId → Memory) (emulator : Emulator)
    (path : String) (panel : Panel) : Panel → Prop
  /-- The emulator does not have the thread. -/
  | missing : emulator.thread? path = none →
      Shown indent memories emulator path panel
        (panel.showPlaceholder .notDecoded .notDecoded none)
  /-- The thread has no frame. -/
  | undecoded {thread : EmulatedThread} : emulator.thread? path = some thread →
      thread.frame = none →
      Shown indent memories emulator path panel
        ({ panel with label := thread.instruction }.showPlaceholder .notDecoded .notDecoded none)
  /-- The frame is listed and its temporaries are decoded. -/
  | decoded {thread : EmulatedThread} {frame : Frame} {listing : Listing}
      {uniques : List Unique.Entry} : emulator.thread? path = some thread →
      thread.frame = some frame → Listing.ofFrame emulator.language frame indent = .ok listing →
      Unique.decodeAll (Unique.collect frame) (memories thread.memory) emulator.language
        = .ok uniques →
      Shown indent memories emulator path panel
        { panel with
          label := thread.instruction, rows := listing.rows, nextRow := listing.nextRow, uniques
          source := some ⟨emulator.language, thread.memory⟩, state := .loaded }

variable {indent : Option Bool} {memories : MemoryId → Memory} {emulator : Emulator}
  {path : String} {p p' : Panel}

theorem shown_of_showEmulator
    (done : p.showEmulator indent memories emulator path = (p', none)) :
    Shown indent memories emulator path p p' := by
  unfold showEmulator at done
  cases found : emulator.thread? path with
  | none =>
      rw [found] at done
      cases done
      exact .missing found
  | some thread =>
      simp only [found] at done
      cases decoded : thread.frame with
      | none =>
          rw [decoded] at done
          cases done
          exact .undecoded found decoded
      | some frame =>
          simp only [decoded, showFrame] at done
          cases listed : Listing.ofFrame emulator.language frame indent with
          | error fault => simp [listed] at done
          | ok listing =>
              cases values : Unique.decodeAll (Unique.collect frame) (memories thread.memory)
                  emulator.language with
              | error fault => simp [listed, values] at done
              | ok uniques =>
                  simp only [listed, values] at done
                  cases done
                  exact .decoded found decoded listed values

/-- What the panel follows stays as it was. -/
theorem Shown.follows (shown : Shown indent memories emulator path p p') :
    p'.service = p.service ∧ p'.current = p.current ∧ p'.previous = p.previous
      ∧ p'.generation = p.generation ∧ p'.pending = p.pending := by
  cases shown <;> exact ⟨rfl, rfl, rfl, rfl, rfl⟩

/-- An emulator is shown or its code is not decoded, but the panel does not wait. -/
theorem Shown.not_loading (shown : Shown indent memories emulator path p p') :
    p'.state ≠ .loading := by
  intro loading
  cases shown with
  | missing | undecoded | decoded => cases loading

/-- A data type that can be given changes one entry, and nothing else on the panel. A negative index
counts from the end. -/
theorem place_of_assign {index : Int} {type : Option DataType} {catalog catalog' : Catalog}
    {updated : Unique.Entry}
    (done : p.assign index type catalog memories = (.ok (updated, p'), catalog')) :
    ∃ source, ∃ position : Nat, ∃ entry, p.source = some source
      ∧ (position : Int) = (if index < 0 then index + p.uniques.length else index)
      ∧ p.uniques[position]? = some entry
      ∧ entry.assign type catalog (memories source.memory) source.language
        = (.ok updated, catalog')
      ∧ p' = { p with uniques := p.uniques.set position updated } := by
  unfold assign at done
  split at done
  · cases done
  · next source loaded =>
    split at done
    · cases done
    · next position entry found =>
      split at done
      · cases done
      · next assigned =>
        cases done
        exact ⟨source, position, entry, loaded, Unique.place_of_entryAt found,
          Unique.entryAt_eq_ok found, assigned, rfl⟩

/-- The entry is one of those on the panel. -/
theorem assign_eq_ok {index : Int} {type : Option DataType} {catalog catalog' : Catalog}
    {updated : Unique.Entry}
    (done : p.assign index type catalog memories = (.ok (updated, p'), catalog')) :
    ∃ source position entry, p.source = some source ∧ p.uniques[position]? = some entry
      ∧ entry.assign type catalog (memories source.memory) source.language
        = (.ok updated, catalog')
      ∧ p' = { p with uniques := p.uniques.set position updated } := by
  obtain ⟨source, position, entry, loaded, _, there, assigned, eq⟩ := place_of_assign done
  exact ⟨source, position, entry, loaded, there, assigned, eq⟩

end Panel

namespace Session

variable {s s' : Session}

/-! ## Plans -/

/-- There is nothing to show without a service or a trace. -/
theorem plan_eq_nothing_iff :
    s.plan = .nothing ↔ s.panel.service = none ∨ s.panel.current.trace = none := by
  unfold plan
  cases s.panel.service with
  | none => simp
  | some service =>
      cases s.panel.current.trace with
      | none => simp
      | some trace =>
          simp only [reduceCtorEq, or_self, iff_false]
          split
          · exact nofun
          · split
            · exact nofun
            · split
              · exact nofun
              · split <;> exact nofun

/-- A placeholder without an emulation is due where there is no thread, or nothing decoded. -/
theorem plan_eq_placeholder_iff {state : LoadState} {kind : PlaceholderKind} :
    s.plan = .placeholder state kind ↔
      s.panel.service ≠ none ∧ s.panel.current.trace ≠ none
        ∧ (s.panel.current.thread = none ∧ state = .noThread ∧ kind = .noThread
          ∨ s.panel.current.thread ≠ none ∧ s.panel.current.time.pticks = 0
            ∧ state = .notDecoded ∧ kind = .notDecoded) := by
  unfold plan
  cases s.panel.service with
  | none => simp
  | some service =>
      cases s.panel.current.trace with
      | none => simp
      | some trace =>
          cases s.panel.current.thread with
          | none => simp [eq_comm]
          | some path =>
              by_cases decoded : s.panel.current.time.pticks = 0
              · simp [decoded, eq_comm]
              · simp only [decoded]
                cases (s.services service).cached? s.panel.current.key with
                | some emulator => simp
                | none => cases s.isWaiting <;> simp

/-- Where an emulation can be asked for, the plan depends on what is kept and waited for. -/
theorem plan_of_askable {service : ServiceId} (live : s.panel.service = some service)
    (askable : s.panel.current.Askable) :
    s.plan =
      match (s.services service).cached? s.panel.current.key with
      | some emulator => .display emulator
      | none => if s.isWaiting then .wait else .ask service := by
  obtain ⟨trace, thread, decoded⟩ := askable
  obtain ⟨trace, eqTrace⟩ := Option.ne_none_iff_exists'.mp trace
  obtain ⟨path, eqThread⟩ := Option.ne_none_iff_exists'.mp thread
  rw [plan, live, eqTrace, eqThread]
  exact (if_neg Bool.false_ne_true).trans (if_neg decoded)

/-- Any other plan is for coordinates for which an emulation can be asked of the service. -/
theorem askable_of_plan (something : s.plan ≠ .nothing)
    (emulated : ∀ state kind, s.plan ≠ .placeholder state kind) :
    ∃ service, s.panel.service = some service ∧ s.panel.current.Askable := by
  rw [Ne, plan_eq_nothing_iff, not_or] at something
  obtain ⟨live, trace⟩ := something
  obtain ⟨service, eq⟩ := Option.ne_none_iff_exists'.mp live
  refine ⟨service, eq, trace, ?_, ?_⟩
  · intro thread
    exact emulated _ _ (plan_eq_placeholder_iff.mpr ⟨live, trace, .inl ⟨thread, rfl, rfl⟩⟩)
  · intro undecoded
    by_cases thread : s.panel.current.thread = none
    · exact emulated _ _ (plan_eq_placeholder_iff.mpr ⟨live, trace, .inl ⟨thread, rfl, rfl⟩⟩)
    · exact emulated _ _
        (plan_eq_placeholder_iff.mpr ⟨live, trace, .inr ⟨thread, undecoded, rfl, rfl⟩⟩)

/-- What is displayed is kept by the service for the current key. -/
theorem plan_eq_display {emulator : Emulator} (plan : s.plan = .display emulator) :
    ∃ service, s.panel.service = some service ∧ s.panel.current.Askable
      ∧ (s.services service).cached? s.panel.current.key = some emulator := by
  obtain ⟨service, live, askable⟩ := askable_of_plan (s := s) (by simp [plan]) (by simp [plan])
  refine ⟨service, live, askable, ?_⟩
  rw [plan_of_askable live askable] at plan
  split at plan
  · injection plan with eq
    rw [← eq]
    assumption
  · split at plan <;> cases plan

/-- What is to be displayed depends on what the panel follows and on what is kept. -/
theorem plan_display_congr {emulator : Emulator} (plan : s.plan = .display emulator)
    (service : s'.panel.service = s.panel.service) (current : s'.panel.current = s.panel.current)
    (services : s'.services = s.services) : s'.plan = .display emulator := by
  obtain ⟨live, eq, askable, cached⟩ := plan_eq_display plan
  rw [plan_of_askable (service.trans eq) (by rw [current]; exact askable), services, current,
    cached]

/-- The panel waits only for what is not kept. -/
theorem plan_eq_wait (plan : s.plan = .wait) :
    ∃ service, s.panel.service = some service ∧ s.panel.current.Askable
      ∧ (s.services service).cached? s.panel.current.key = none ∧ s.isWaiting = true := by
  obtain ⟨service, live, askable⟩ := askable_of_plan (s := s) (by simp [plan]) (by simp [plan])
  refine ⟨service, live, askable, ?_⟩
  rw [plan_of_askable live askable] at plan
  split at plan
  · cases plan
  · next absent =>
    split at plan
    · next waiting => exact ⟨absent, waiting⟩
    · cases plan

/-- The service is asked only for what is neither kept nor waited for. -/
theorem plan_eq_ask {service : ServiceId} (plan : s.plan = .ask service) :
    s.panel.service = some service ∧ s.panel.current.Askable
      ∧ (s.services service).cached? s.panel.current.key = none ∧ s.isWaiting = false := by
  obtain ⟨service', live, askable⟩ := askable_of_plan (s := s) (by simp [plan]) (by simp [plan])
  rw [plan_of_askable live askable] at plan
  split at plan
  · cases plan
  · next absent =>
    split at plan
    · cases plan
    · next idle =>
      injection plan with eq
      subst eq
      exact ⟨live, askable, absent, by simpa using idle⟩

/-- The panel waits for a request that is current. -/
theorem isWaiting_iff :
    s.isWaiting = true ↔ ∃ id request, s.panel.pending = some id
      ∧ s.requests[id]? = some request
      ∧ request.isCurrent s.panel.current s.panel.generation = true := by
  unfold isWaiting
  cases s.panel.pending with
  | none => simp
  | some id => cases found : s.requests[id]? <;> simp [found]

/-! ## Reloads -/

theorem record_eq_ok {name detail : String} (h : s.record name detail = .ok s') :
    ∃ log, s' = { s with log } := by
  unfold record at h
  split at h
  · injection h with h
    exact ⟨s.log, h.symm⟩
  · next log _ =>
    cases text : s.panel.current.text with
    | error fault => simp [text, bind, Except.bind] at h
    | ok coordinates =>
        rw [text] at h
        injection h with h
        exact ⟨_, h.symm⟩

/-- How a session is reloaded. -/
inductive Reloaded (s : Session) : Session → Prop
  | nothing : s.plan = .nothing →
      Reloaded s { s.clearLabel with panel := s.clearLabel.panel.showNothing }
  | placeholder {state : LoadState} {kind : PlaceholderKind} : s.plan = .placeholder state kind →
      Reloaded s (s.clearLabel.showPlaceholder state kind none)
  | display {emulator : Emulator} {path : String} {panel : Panel} : s.plan = .display emulator →
      s.panel.current.thread = some path →
      Panel.Shown s.config.indent s.memory emulator path s.clearLabel.panel panel →
      Reloaded s { s with panel }
  | wait : s.plan = .wait → Reloaded s (s.clearLabel.setState .loading)
  | ask {service : ServiceId} {log : Option EventLog} : s.plan = .ask service →
      Reloaded s ({ s.clearLabel.showPlaceholder .loading .loading none with log }.issue service)

theorem shown_of_showEmulator {emulator : Emulator} {path : String}
    (thread : s.panel.current.thread = some path)
    (done : s.showEmulator emulator = (s', none)) :
    ∃ panel, Panel.Shown s.config.indent s.memory emulator path s.panel panel
      ∧ s' = { s with panel } := by
  simp only [showEmulator, thread, Prod.mk.injEq] at done
  obtain ⟨rfl, none⟩ := done
  exact ⟨_, Panel.shown_of_showEmulator (Prod.ext rfl none), rfl⟩

theorem reloaded_of_reload (done : s.reload = (s', none)) : Reloaded s s' := by
  unfold reload at done
  cases plan : s.plan with
  | nothing =>
      rw [plan] at done
      cases done
      exact .nothing plan
  | placeholder state kind =>
      rw [plan] at done
      cases done
      exact .placeholder plan
  | display emulator =>
      rw [plan] at done
      obtain ⟨_, _, ⟨_, thread, _⟩, _⟩ := plan_eq_display plan
      obtain ⟨path, eq⟩ := Option.ne_none_iff_exists'.mp thread
      obtain ⟨panel, shown, rfl⟩ := shown_of_showEmulator (s := s.clearLabel) eq done
      exact .display plan eq shown
  | wait =>
      rw [plan] at done
      cases done
      exact .wait plan
  | ask service =>
      simp only [plan, follow] at done
      split at done
      · cases done
      · next recorded =>
        obtain ⟨log, rfl⟩ := record_eq_ok recorded
        cases done
        exact .ask plan

/-! ## Coordinates and services -/

/-- The session focused on other coordinates, before it is reloaded. -/
def focusOn (s : Session) (c : Coordinates) : Session :=
  { s with
    panel :=
      { s.panel with
        previous := s.panel.current, current := c, generation := s.panel.generation + 1 } }

/-- The session with another service, before it is reloaded. -/
def rewire (s : Session) (service : Option ServiceId) : Session :=
  { s with
    panel :=
      { s.panel with service, pending := none, generation := s.panel.generation + 1 } }

theorem reloaded_of_recordAndReload {name : String} (done : s.recordAndReload name = (s', none)) :
    ∃ log, Reloaded { s with log } s' := by
  unfold recordAndReload at done
  split at done
  · cases done
  · next recorded =>
    obtain ⟨log, rfl⟩ := record_eq_ok recorded
    exact ⟨log, reloaded_of_reload done⟩

/-- To activate coordinates that show the same takes over the stack level. -/
theorem activate_of_sameAs {coordinates : Coordinates}
    (same : s.panel.current.sameAs coordinates = true) :
    s.activate coordinates
      = ({ s with panel := { s.panel with current := coordinates } }, none) :=
  if_pos same

theorem reloaded_of_activate {coordinates : Coordinates}
    (other : s.panel.current.sameAs coordinates = false)
    (done : (s.activate coordinates).2 = none) :
    ∃ log, Reloaded (focusOn { s with log } coordinates) (s.activate coordinates).1 := by
  have eq : s.activate coordinates = (s.focusOn coordinates).recordAndReload "activate" :=
    if_neg (by simp [other])
  rw [eq] at done ⊢
  exact reloaded_of_recordAndReload (Prod.ext rfl done)

theorem reloaded_of_setService {service : Option ServiceId}
    (done : (s.setService service).2 = none) :
    ∃ log, Reloaded (rewire { s with log } service) (s.setService service).1 :=
  reloaded_of_recordAndReload (Prod.ext rfl done)

/-! ## Deliveries -/

/-- Forgetting a request changes what the panel waits for, and nothing else. -/
theorem forget_eq (s : Session) (id : RequestId) :
    s.forget id =
      { s with panel := { s.panel with
          pending := if s.panel.pending = some id then none else s.panel.pending } } := by
  unfold forget
  split <;> rfl

/-- What is waited for after a request is forgotten is another one, and was waited for before. -/
theorem pending_forget_iff {s : Session} {id other : RequestId} :
    (s.forget id).panel.pending = some other ↔ s.panel.pending = some other ∧ other ≠ id := by
  rw [forget_eq]
  show (if s.panel.pending = some id then none else s.panel.pending) = some other ↔ _
  split
  · next waits =>
    rw [waits]
    constructor
    · nofun
    · rintro ⟨same, different⟩
      exact absurd (Option.some.inj same).symm different
  · next idle =>
    refine ⟨fun waits => ⟨waits, ?_⟩, And.left⟩
    rintro rfl
    exact idle waits

/-- How a session takes a settled request: it takes over the outcome, or drops the request and is
reloaded. -/
inductive Delivered (s : Session) (id : RequestId) : Session → Prop
  | failed {request : Request} {failure : Failure} {failures : List Schedule}
      {log : Option EventLog} : s.requests[id]? = some request →
      request.isCurrent s.panel.current s.panel.generation = true →
      request.state = .finished (.failed failure) →
      Delivered s id ({ s.forget id with failures, log }.showPlaceholder .notDecoded
        .emulationFailed (some failure.text))
  | applied {request : Request} {emulator : Emulator} {path : String} {panel : Panel}
      {log : Option EventLog} : s.requests[id]? = some request →
      request.isCurrent s.panel.current s.panel.generation = true →
      request.state = .finished (.emulated emulator) → s.panel.current.thread = some path →
      Panel.Shown s.config.indent s.memory emulator path (s.forget id).panel panel →
      Delivered s id { s with log, panel }
  | stale {request : Request} {log : Option EventLog} {s' : Session} :
      s.requests[id]? = some request →
      request.isCurrent s.panel.current s.panel.generation = false →
      Reloaded ({ s.forget id with log }.setState .stale) s' →
      Delivered s id s'

theorem isCurrent_iff {request : Request} {current : Coordinates} {generation : Int} :
    request.isCurrent current generation = true ↔ request.state ≠ .cancelled
      ∧ request.generation = generation ∧ request.coordinates.sameAs current = true := by
  simp [Request.isCurrent]

theorem delivered_of_deliver {id : RequestId} {request : Request}
    (found : s.requests[id]? = some request) (settled : request.state ≠ .outstanding)
    (focused : request.isCurrent s.panel.current s.panel.generation = true →
      s.panel.current.thread ≠ none)
    (done : s.deliver id = (s', none)) : Delivered s id s' := by
  -- Whether the request is current is the same before and after it has been forgotten.
  have sameCurrent : (s.forget id).panel.current = s.panel.current := by rw [forget_eq]
  have sameGeneration : (s.forget id).panel.generation = s.panel.generation := by rw [forget_eq]
  simp only [deliver, found, sameCurrent, sameGeneration] at done
  split at done
  · next current =>
    unfold takeOver at done
    split at done
    · next failure state =>
      dsimp only at done
      split at done
      · cases done
      · next recorded =>
        obtain ⟨log, rfl⟩ := record_eq_ok recorded
        cases done
        exact .failed found current state
    · next emulator state =>
      split at done
      · cases done
      · next recorded =>
        obtain ⟨log, rfl⟩ := record_eq_ok recorded
        obtain ⟨path, thread⟩ := Option.ne_none_iff_exists'.mp (focused current)
        obtain ⟨panel, shown, rfl⟩ := shown_of_showEmulator (sameCurrent ▸ thread) done
        rw [forget_eq] at shown ⊢
        exact .applied found current state thread (by rw [forget_eq]; exact shown)
    -- A request that is delivered is settled, and one that is current is not cancelled.
    · next state => exact absurd state settled
    · next state => exact absurd state (isCurrent_iff.mp current).1
  · next late =>
    unfold dropStale at done
    split at done
    · cases done
    · next recorded =>
      obtain ⟨log, rfl⟩ := record_eq_ok recorded
      exact .stale found (by simpa using late) (reloaded_of_reload done)

/-! ## What is left alone -/

theorem issue_eq (s : Session) (service : ServiceId) :
    s.issue service =
      { s with
        services := s.services.set service
          (Service.accept s.panel.current.key s.requests.length (s.services service))
        requests := s.requests ++ [⟨s.panel.current, s.panel.generation, service, .outstanding⟩]
        panel := { s.panel with pending := some s.requests.length } } := rfl

/-- After a request has been issued the panel waits for it. -/
theorem isWaiting_issue (s : Session) (service : ServiceId) :
    (s.issue service).isWaiting = true := by
  have found : (s.issue service).requests[s.requests.length]?
      = some ⟨s.panel.current, s.panel.generation, service, .outstanding⟩ := by
    rw [issue_eq]
    exact List.getElem?_concat_length
  exact isWaiting_iff.mpr ⟨_, _, rfl, found,
    isCurrent_iff.mpr ⟨nofun, rfl, Coordinates.sameAs_self _⟩⟩

/-- After a request has been issued, a request is one of those before or the new one. -/
theorem issued_cases {requests : List Request} {new request : Request} {id : RequestId}
    (found : (requests ++ [new])[id]? = some request) :
    requests[id]? = some request ∨ id = requests.length ∧ request = new := by
  rcases Nat.lt_or_ge id requests.length with before | beyond
  · rw [List.getElem?_append_left before] at found
    exact .inl found
  · rw [List.getElem?_append_right beyond] at found
    obtain ⟨inside, eq⟩ := List.getElem?_eq_some_iff.mp found
    have same : id = requests.length :=
      Nat.le_antisymm (Nat.le_of_sub_eq_zero (Nat.lt_one_iff.mp inside)) beyond
    subst same
    simp only [Nat.sub_self, List.getElem_cons_zero] at eq
    exact .inr ⟨rfl, eq.symm⟩

/-- What reloads and deliveries leave alone: what is asked of the session from outside, what the
services keep, and the requests issued before. -/
structure Undisturbed (s s' : Session) : Prop where
  config : s'.config = s.config
  delivery : s'.delivery = s.delivery
  memories : s'.memories = s.memories
  queue : s'.queue = s.queue
  service : s'.panel.service = s.panel.service
  current : s'.panel.current = s.panel.current
  previous : s'.panel.previous = s.panel.previous
  generation : s'.panel.generation = s.panel.generation
  cached : ∀ service, (s'.services service).cached? = (s.services service).cached?
  requests : ∃ issued, s'.requests = s.requests ++ issued
    ∧ ∀ request ∈ issued, request.state = .outstanding
  lists : ∀ service key, ∃ issued, (s'.services service).waitingFor key
      = (s.services service).waitingFor key ++ issued ∧ ∀ id ∈ issued, s.requests.length ≤ id

/-- Afterwards a request is one of those before, or it is new and nothing has become of it. -/
theorem Undisturbed.request_cases (h : Undisturbed s s') {id : RequestId} {request : Request}
    (found : s'.requests[id]? = some request) :
    s.requests[id]? = some request ∨ s.requests.length ≤ id ∧ request.state = .outstanding := by
  obtain ⟨issued, eq, outstanding⟩ := h.requests
  rw [eq] at found
  rcases Nat.lt_or_ge id s.requests.length with before | beyond
  · rw [List.getElem?_append_left before] at found
    exact .inl found
  · rw [List.getElem?_append_right beyond] at found
    exact .inr ⟨beyond, outstanding request (List.mem_of_getElem? found)⟩

/-- A request of which something has become was there before. -/
theorem Undisturbed.getElem?_of_settled (h : Undisturbed s s') {id : RequestId} {request : Request}
    (found : s'.requests[id]? = some request) (settled : request.state ≠ .outstanding) :
    s.requests[id]? = some request :=
  (h.request_cases found).resolve_right fun new => settled new.2

/-- A request that was there before is still there, as it was. -/
theorem Undisturbed.getElem? (h : Undisturbed s s') {id : RequestId} {request : Request}
    (found : s.requests[id]? = some request) : s'.requests[id]? = some request := by
  obtain ⟨issued, eq, _⟩ := h.requests
  obtain ⟨inside, _⟩ := List.getElem?_eq_some_iff.mp found
  rw [eq, List.getElem?_append_left inside, found]

/-- What leaves services and requests as they are disturbs nothing. -/
theorem Undisturbed.ofSame (config : s'.config = s.config) (delivery : s'.delivery = s.delivery)
    (memories : s'.memories = s.memories) (queue : s'.queue = s.queue)
    (service : s'.panel.service = s.panel.service) (current : s'.panel.current = s.panel.current)
    (previous : s'.panel.previous = s.panel.previous)
    (generation : s'.panel.generation = s.panel.generation) (services : s'.services = s.services)
    (requests : s'.requests = s.requests) : Undisturbed s s' := by
  refine ⟨config, delivery, memories, queue, service, current, previous, generation, ?_,
    ⟨[], ?_, List.forall_mem_nil _⟩, ?_⟩
  · rw [services]
    exact fun _ => rfl
  · rw [requests, List.append_nil]
  · rw [services]
    exact fun _ _ => ⟨[], (List.append_nil _).symm, List.forall_mem_nil _⟩

theorem lists_accept (service : Service) (key other : EmulationKey) (id : RequestId) :
    ∃ issued, (service.accept key id).waitingFor other = service.waitingFor other ++ issued
      ∧ ∀ new ∈ issued, new = id := by
  cases service with
  | pool => exact ⟨[], rfl, List.forall_mem_nil _⟩
  | manual service =>
      show ∃ issued, service.waiting.set key _ other = service.waiting other ++ issued ∧ _
      by_cases same : other = key
      · subst same
        rw [Table.set_same]
        exact ⟨[id], rfl, fun new member => List.mem_singleton.mp member⟩
      · rw [Table.set_of_ne _ _ same]
        exact ⟨[], (List.append_nil _).symm, List.forall_mem_nil _⟩

theorem undisturbed_issue (s : Session) (service : ServiceId) :
    Undisturbed s (s.issue service) := by
  refine ⟨rfl, rfl, rfl, rfl, rfl, rfl, rfl, rfl, ?_, ⟨[_], rfl, ?_⟩, ?_⟩
  · intro other
    show (Table.set s.services _ _ _).cached? = _
    by_cases same : other = service
    · subst same
      rw [Table.set_same, Service.cached?_accept]
    · rw [Table.set_of_ne _ _ same]
  · intro request issued
    rw [List.mem_singleton.mp issued]
  · intro other key
    show ∃ issued, (Table.set s.services _ _ _).waitingFor key = _ ∧ _
    by_cases same : other = service
    · subst same
      rw [Table.set_same]
      obtain ⟨issued, lists, only⟩ := lists_accept (s.services other)
        s.panel.current.key key s.requests.length
      exact ⟨issued, lists, fun id member => Nat.le_of_eq (only id member).symm⟩
    · rw [Table.set_of_ne _ _ same]
      exact ⟨[], (List.append_nil _).symm, List.forall_mem_nil _⟩

theorem Reloaded.undisturbed (h : Reloaded s s') : Undisturbed s s' := by
  cases h with
  | nothing | placeholder | wait =>
      exact .ofSame rfl rfl rfl rfl rfl rfl rfl rfl rfl rfl
  | display _ _ shown =>
      obtain ⟨service, current, previous, generation, _⟩ := shown.follows
      exact .ofSame rfl rfl rfl rfl service current previous generation rfl rfl
  -- Only asking touches services and requests, and it only adds to them.
  | @ask asked log plan =>
      obtain ⟨config, delivery, memories, queue, service, current, previous, generation, cached,
        requests, lists⟩ :=
        undisturbed_issue { s.clearLabel.showPlaceholder .loading .loading none with log } asked
      exact ⟨config, delivery, memories, queue, service, current, previous, generation, cached,
        requests, lists⟩

theorem Delivered.undisturbed {id : RequestId} (h : Delivered s id s') : Undisturbed s s' := by
  cases h with
  | failed =>
      rw [forget_eq]
      exact .ofSame rfl rfl rfl rfl rfl rfl rfl rfl rfl rfl
  | applied _ _ _ _ shown =>
      obtain ⟨service, current, previous, generation, _⟩ := shown.follows
      rw [forget_eq] at service current previous generation
      exact .ofSame rfl rfl rfl rfl service current previous generation rfl rfl
  | stale _ _ reloaded =>
      have h := reloaded.undisturbed
      rw [forget_eq] at h
      exact ⟨h.config, h.delivery, h.memories, h.queue, h.service, h.current, h.previous,
        h.generation, h.cached, h.requests, h.lists⟩

end Session

end PcodePanel
