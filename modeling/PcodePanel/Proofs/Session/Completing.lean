import PcodePanel.Proofs.Session.Showing
import PcodePanel.Proofs.Session.Waiting

/-!
# Completing keys

A run over a queue that completes all keys that are listed, in any order, and drains the queue in
between. Requests that are listed at the start are *fresh*. What the panel shows once the last of
them has been delivered is settled at the start: it is what a reload would show if all keys were
completed already. From then on the panel goes on showing it.

* `Session.Completes` — an order in which all listed keys are completed;
* `Session.due` — what is to be shown at the end;
* `Session.Progress` — the invariant of a run that completes keys.
-/

namespace PcodePanel

/-- The operation that completes the key of a request. -/
def Operation.completion (emulators : ServiceId → EmulationKey → Emulator) (request : Request) :
    Operation :=
  .complete request.service request.coordinates.key
    (emulators request.service request.coordinates.key)

namespace Session

variable {emulators : ServiceId → EmulationKey → Emulator} {id : RequestId}
  {held held' rest : List RequestId} {base s s' : Session}

/-- A service lists requests for a key. -/
def Lists (s : Session) (service : ServiceId) (key : EmulationKey) : Prop :=
  (s.services service).waitingFor key ≠ []

instance (s : Session) (service : ServiceId) (key : EmulationKey) :
    Decidable (s.Lists service key) :=
  inferInstanceAs (Decidable (_ ≠ _))

/-- Where nothing was cancelled, what is listed is what is outstanding. -/
theorem lists_iff (filed : Filed [] s.services s.requests) (tracked : Tracked [] s)
    {service : ServiceId} {key : EmulationKey} :
    s.Lists service key ↔ ∃ (id : RequestId) (request : Request), s.requests[id]? = some request
      ∧ request.state = .outstanding ∧ request.service = service
      ∧ request.coordinates.key = key := by
  constructor
  · intro lists
    obtain ⟨id, listed⟩ := List.exists_mem_of_ne_nil _ lists
    obtain ⟨request, found, sameService, sameKey, notFinished⟩ := filed.listed listed
    refine ⟨id, request, found, ?_, sameService, sameKey⟩
    cases state : request.state with
    | outstanding => rfl
    | cancelled => exact absurd state (tracked.not_cancelled found)
    | finished outcome => exact absurd ⟨outcome, state⟩ notFinished
  · rintro ⟨id, request, found, outstanding, rfl, rfl⟩
    rcases tracked.outstanding found outstanding with listed | isHeld
    · exact List.ne_nil_of_mem listed
    · exact absurd isHeld List.not_mem_nil

/-- The queue is drained, or a key that is listed in `base` is completed. -/
def Completing (base : Session) (emulators : ServiceId → EmulationKey → Emulator)
    (operation : Operation) : Prop :=
  operation = .drain ∨ ∃ service key, base.Lists service key
    ∧ operation = .complete service key (emulators service key)

/-- The operations complete all keys that are listed, and drain the queue now and then. -/
structure Completes (base : Session) (emulators : ServiceId → EmulationKey → Emulator)
    (operations : List Operation) : Prop where
  only : ∀ operation ∈ operations, base.Completing emulators operation
  all : ∀ service key, base.Lists service key →
    .complete service key (emulators service key) ∈ operations

/-- The request is listed. -/
def Fresh (base : Session) (id : RequestId) : Prop :=
  ∃ service key, id ∈ (base.services service).waitingFor key

/-- The request is listed, or issued later. -/
def Late (base : Session) (id : RequestId) : Prop :=
  base.Fresh id ∨ base.requests.length ≤ id

/-- The panel has not been told of the request. -/
def Undelivered (s : Session) (id : RequestId) : Prop :=
  s.stateOf id = some .outstanding ∨ id ∈ s.queue

/-- A session in which all listed keys are completed, and nothing is waited for. -/
def supplied (base : Session) (emulators : ServiceId → EmulationKey → Emulator) : Session :=
  { base with
    services := fun service => .manual
      { cache := fun key =>
          if base.Lists service key then some (emulators service key)
          else (base.services service).cached? key }
    panel := { base.panel with pending := none } }

/-- What is to be shown once all listed keys are completed. -/
def due (base : Session) (emulators : ServiceId → EmulationKey → Emulator) : Plan :=
  (base.supplied emulators).plan

/-- Keys can be completed in any order: settled requests go through the queue, and none that is
listed has been cancelled. -/
structure Ready (base : Session) : Prop where
  sound : Sound [] base
  agreeing : Agreeing base
  queued : base.delivery = .queued
  not_cancelled : ∀ id, base.Fresh id → base.stateOf id ≠ some .cancelled

/-! ## Completing and draining -/

namespace Completing

theorem unattended : Unattended (base.Completing emulators) := by
  intro operation ok
  refine ok.imp_right ?_
  rintro ⟨service, key, _, rfl⟩
  exact ⟨service, key, .emulated (emulators service key), rfl⟩

theorem of_keep {service : ServiceId} {key : EmulationKey} {emulator : Emulator}
    (ok : base.Completing emulators (.add service key emulator)
      ∨ base.Completing emulators (.complete service key emulator)) :
    base.Lists service key ∧ emulator = emulators service key := by
  rcases ok with ok | same | ⟨_, _, lists, same⟩
  · exact absurd ok unattended.not_add
  · cases same
  · cases same
    exact ⟨lists, rfl⟩

theorem of_finishing {service : ServiceId} {key : EmulationKey} {outcome : Outcome}
    (ok : base.Completing emulators (.finishing service key outcome)) :
    base.Lists service key ∧ outcome = .emulated (emulators service key) := by
  rcases ok with same | ⟨_, _, lists, same⟩
  · cases outcome <;> cases same
  · cases outcome with
    | failed => cases same
    | emulated emulator =>
        cases same
        exact ⟨lists, rfl⟩

end Completing

/-- A fresh request is outstanding, and its own key is listed. -/
theorem Ready.fresh (ready : base.Ready) (fresh : base.Fresh id) :
    ∃ request, base.requests[id]? = some request ∧ request.state = .outstanding
      ∧ base.Lists request.service request.coordinates.key := by
  have open_ := ready.not_cancelled id fresh
  obtain ⟨service, key, listed⟩ := fresh
  obtain ⟨request, found, rfl, rfl, notFinished⟩ := ready.sound.filed.listed listed
  rw [stateOf, found] at open_
  refine ⟨request, found, ?_, List.ne_nil_of_mem listed⟩
  cases state : request.state with
  | outstanding => rfl
  | cancelled => exact absurd (congrArg some state) open_
  | finished outcome => exact absurd ⟨outcome, state⟩ notFinished

theorem Ready.fresh_lt (ready : base.Ready) (fresh : base.Fresh id) :
    id < base.requests.length := by
  obtain ⟨request, found, _⟩ := ready.fresh fresh
  exact (List.getElem?_eq_some_iff.mp found).1

/-- What has been settled before is not late. -/
theorem Ready.not_late {request : Request} (ready : base.Ready)
    (found : base.requests[id]? = some request) (settled : request.state ≠ .outstanding) :
    ¬ base.Late id := by
  rintro (fresh | beyond)
  · obtain ⟨request', found', outstanding, _⟩ := ready.fresh fresh
    rw [found] at found'
    injection found' with same
    exact settled (same ▸ outstanding)
  · exact absurd (List.getElem?_eq_some_iff.mp found).1 (Nat.not_lt.mpr beyond)

theorem Ready.not_late_of_queued (ready : base.Ready) (queued : id ∈ base.queue) :
    ¬ base.Late id := by
  obtain ⟨request, found, settled⟩ := ready.sound.watched.settled queued
  exact ready.not_late found settled

/-- Settling a request that then enters the queue leaves the others as they were. -/
theorem undelivered_settle_iff {other : RequestId} {state : RequestState} (different : other ≠ id) :
    Undelivered { s.mark id state with queue := s.queue ++ [id] } other ↔ s.Undelivered other := by
  rw [Undelivered, Undelivered, stateOf, stateOf, getElem?_mark, if_neg different]
  refine or_congr Iff.rfl ?_
  rw [List.mem_append, List.mem_singleton]
  constructor
  · intro queued
    exact queued.resolve_right different
  · exact .inl

/-! ## The invariant of completing -/

/-- What does not change while keys are completed. -/
structure Fixed (base s : Session) : Prop where
  config : s.config = base.config
  memories : s.memories = base.memories
  service : s.panel.service = base.panel.service
  current : s.panel.current = base.panel.current
  previous : s.panel.previous = base.panel.previous
  generation : s.panel.generation = base.panel.generation

theorem Undisturbed.fixed (undisturbed : Undisturbed s s') (h : Fixed base s) : Fixed base s' :=
  ⟨undisturbed.config.trans h.config, undisturbed.memories.trans h.memories,
    undisturbed.service.trans h.service, undisturbed.current.trans h.current,
    undisturbed.previous.trans h.previous, undisturbed.generation.trans h.generation⟩

theorem Fixed.memory (h : Fixed base s) : s.memory = base.memory := by
  funext place
  rw [Session.memory, Session.memory, h.memories]

/-- How the request came to be completed: with the emulator of its key, which is kept. -/
structure Completed (base : Session) (emulators : ServiceId → EmulationKey → Emulator)
    (s : Session) (request : Request) : Prop where
  lists : base.Lists request.service request.coordinates.key
  state : request.state
    = .finished (.emulated (emulators request.service request.coordinates.key))
  kept : (s.services request.service).cached? request.coordinates.key
    = some (emulators request.service request.coordinates.key)

theorem Completed.congr {request : Request} (h : base.Completed emulators s request)
    (kept : ∀ service key, (s.services service).cached? key = some (emulators service key) →
      (s'.services service).cached? key = some (emulators service key)) :
    base.Completed emulators s' request :=
  ⟨h.lists, h.state, kept _ _ h.kept⟩

/-- What holds once the last fresh request has been delivered. -/
structure Done (base : Session) (emulators : ServiceId → EmulationKey → Emulator)
    (s : Session) : Prop where
  delivered : ∀ id, base.Fresh id → ¬ s.Undelivered id
  queue : ∀ id ∈ s.queue, base.requests.length ≤ id
  shown : Panel.ShownBy base.config.indent base.memory base.panel.current.thread
    (base.due emulators) s.panel

/-- How far the keys that are listed in `base` have been completed. -/
structure Progress (base : Session) (emulators : ServiceId → EmulationKey → Emulator)
    (held : List RequestId) (s : Session) : Prop where
  fixed : Fixed base s
  grown : base.requests.length ≤ s.requests.length
  cached : ∀ service key,
    (s.services service).cached? key = (base.services service).cached? key
      ∨ base.Lists service key
        ∧ (s.services service).cached? key = some (emulators service key)
  stays : ∀ {id : RequestId} {request}, base.requests[id]? = some request →
    ∃ request', s.requests[id]? = some request' ∧ request'.service = request.service
      ∧ request'.coordinates = request.coordinates
  requests : ∀ {id : RequestId} {request}, s.requests[id]? = some request →
    base.requests[id]? = some request
      ∨ base.Late id ∧ (request.state = .outstanding ∨ base.Completed emulators s request)
  outstanding : ∀ {id : RequestId} {request}, base.Fresh id → s.requests[id]? = some request →
    request.state = .outstanding → id ∈ peers s.services request ∨ id ∈ held
  late_held : ∀ id ∈ held, base.Late id
  late_listed : ∀ service key, ∀ id ∈ (s.services service).waitingFor key, base.Late id
  /-- What was in the queue at the start is delivered first. -/
  queue : ∃ old later, s.queue = old ++ later ∧ (∀ id ∈ old, id ∈ base.queue)
    ∧ ∀ id ∈ later, base.Late id
  phase : (∃ id, base.Fresh id ∧ s.Undelivered id) ∨ Done base emulators s

namespace Progress

theorem ofBase (some_listed : ∃ service key, base.Lists service key) (ready : base.Ready) :
    Progress base emulators [] base where
  fixed := ⟨rfl, rfl, rfl, rfl, rfl, rfl⟩
  grown := Nat.le_refl _
  cached _ _ := .inl rfl
  stays found := ⟨_, found, rfl, rfl⟩
  requests found := .inl found
  outstanding := by
    intro id request fresh found _
    obtain ⟨service, key, listed⟩ := fresh
    obtain ⟨request', found', rfl, rfl, _⟩ := ready.sound.filed.listed listed
    rw [found] at found'
    injection found' with same
    subst same
    exact .inl listed
  late_held := List.forall_mem_nil _
  late_listed service key id listed := .inl ⟨service, key, listed⟩
  queue := ⟨base.queue, [], (List.append_nil _).symm, fun _ queued => queued,
    List.forall_mem_nil _⟩
  phase := by
    obtain ⟨service, key, lists⟩ := some_listed
    obtain ⟨id, listed⟩ := List.exists_mem_of_ne_nil _ lists
    have fresh : base.Fresh id := ⟨service, key, listed⟩
    obtain ⟨request, found, outstanding, _⟩ := ready.fresh fresh
    refine .inl ⟨id, fresh, .inl ?_⟩
    rw [stateOf, found]
    exact congrArg some outstanding

variable (ready : base.Ready) (h : Progress base emulators held s)
include ready h

/-- A late request that is settled was completed. -/
theorem completed {request : Request} (late : base.Late id)
    (found : s.requests[id]? = some request) (settled : request.state ≠ .outstanding) :
    base.Completed emulators s request := by
  rcases h.requests found with before | ⟨_, outstanding | completed⟩
  · exact absurd late (ready.not_late before settled)
  · exact absurd outstanding settled
  · exact completed

/-- Once no fresh request is outstanding the services keep what they are to. -/
theorem cached_supplied (settled : ∀ id, base.Fresh id → s.stateOf id ≠ some .outstanding)
    (service : ServiceId) (key : EmulationKey) :
    (s.services service).cached? key
      = ((base.supplied emulators).services service).cached? key := by
  show _ = if base.Lists service key then some (emulators service key)
    else (base.services service).cached? key
  by_cases lists : base.Lists service key
  · rw [if_pos lists]
    obtain ⟨id, listed⟩ := List.exists_mem_of_ne_nil _ lists
    obtain ⟨request, found, rfl, rfl, _⟩ := ready.sound.filed.listed listed
    obtain ⟨request', found', sameService, sameCoordinates⟩ := h.stays found
    have fresh : base.Fresh id := ⟨_, _, listed⟩
    have state : request'.state ≠ .outstanding := by
      intro outstanding
      apply settled id fresh
      rw [stateOf, found']
      exact congrArg some outstanding
    have kept := (h.completed ready (.inl fresh) found' state).kept
    rw [sameService, sameCoordinates] at kept
    exact kept
  · rw [if_neg lists]
    rcases h.cached service key with same | ⟨yes, _⟩
    · exact same
    · exact absurd yes lists

/-- Then there is to do what is due, but that the panel may wait for what is asked for. -/
theorem plan_due {t : Session} (settled : ∀ id, base.Fresh id → s.stateOf id ≠ some .outstanding)
    (service : t.panel.service = s.panel.service) (current : t.panel.current = s.panel.current)
    (services : t.services = s.services) :
    t.plan = base.due emulators
      ∨ t.plan = .wait ∧ ∃ service, base.due emulators = .ask service := by
  refine plan_cases (service.trans h.fixed.service) (current.trans h.fixed.current) ?_ rfl
  rw [services]
  exact h.cached_supplied ready settled

/-- When no fresh request is outstanding, what is delivered makes the panel show what is due. -/
theorem shown_of_delivered (watched : Watched s) (awaiting : s.Awaiting) (late : base.Late id)
    (queue : s.queue = id :: rest)
    (settled : ∀ id, base.Fresh id → s.stateOf id ≠ some .outstanding)
    (delivered : Delivered { s with queue := rest } id s') :
    Panel.ShownBy base.config.indent base.memory base.panel.current.thread
      (base.due emulators) s'.panel := by
  rw [← h.fixed.config, ← h.fixed.memory, ← h.fixed.current]
  have queued : id ∈ s.queue := by
    rw [queue]
    exact List.mem_cons_self
  obtain ⟨request, found, closed⟩ := watched.settled queued
  have completed := h.completed ready late found closed
  cases delivered with
  | failed found' _ state =>
      rw [show s.requests[id]? = _ from found'] at found
      injection found with same
      rw [same, completed.state] at state
      cases state
  | applied found' current state focused shown =>
      rw [show s.requests[id]? = _ from found'] at found
      injection found with same
      subst same
      obtain ⟨live, key, askable⟩ := watched.askable_of_isCurrent found' current
      rw [completed.state] at state
      cases state
      have plan := plan_of_askable live askable
      rw [← key, completed.kept] at plan
      rcases h.plan_due ready settled rfl rfl rfl with due | ⟨waits, _⟩
      · rw [← due, plan]
        exact .display focused shown
      · rw [plan] at waits
        cases waits
  | @stale _ log _ _ _ reloaded =>
      -- The panel reloads over all that is kept by now, which is all that is due.
      have awaits : Awaiting ({ forget { s with queue := rest } id with log }.setState .stale) :=
        awaiting.stale watched
      have watching : Watched ({ forget { s with queue := rest } id with log }.setState .stale) :=
        watched.stale queue
      generalize same : ({ forget { s with queue := rest } id with log }.setState .stale) = t
        at reloaded awaits watching
      obtain ⟨config, memories, service, current, services⟩ :
          t.config = s.config ∧ t.memory = s.memory ∧ t.panel.service = s.panel.service
            ∧ t.panel.current = s.panel.current ∧ t.services = s.services := by
        rw [forget_eq] at same
        subst same
        exact ⟨rfl, rfl, rfl, rfl, rfl⟩
      have shown := reloaded.shownBy fun plan => awaits.blank_of_wait watching plan
      rw [config, memories, current] at shown
      rcases h.plan_due ready settled service current services with due | ⟨waits, asked, due⟩
      · rw [← due]
        exact shown
      · rw [waits] at shown
        rw [due]
        cases shown with
        | wait state blank => exact .ask state blank

/-- A fresh request that is not the one delivered stays undelivered. -/
theorem undelivered_iff {other : RequestId} (fresh : base.Fresh other) (different : other ≠ id)
    (queue : s.queue = id :: rest) (delivered : Delivered { s with queue := rest } id s') :
    s'.Undelivered other ↔ s.Undelivered other := by
  obtain ⟨request, found, _⟩ := ready.fresh fresh
  obtain ⟨request', found', _⟩ := h.stays found
  have undisturbed := delivered.undisturbed
  have found'' : s'.requests[other]? = some request' := undisturbed.getElem? found'
  rw [Undelivered, Undelivered, stateOf, stateOf, found', found'', undisturbed.queue, queue]
  refine or_congr Iff.rfl ?_
  constructor
  · exact List.mem_cons_of_mem _
  · intro queued
    exact (List.mem_cons.mp queued).resolve_left different

/-- When no other fresh request is undelivered, what is delivered is late: what was in the queue at
the start is delivered before a fresh one. -/
theorem late_of_last (queue : s.queue = id :: rest)
    (last : ∀ other, base.Fresh other → other ≠ id → ¬ s.Undelivered other) : base.Late id := by
  have queued : id ∈ s.queue := by
    rw [queue]
    exact List.mem_cons_self
  obtain ⟨old, later, split, isOld, isLate⟩ := h.queue
  rcases List.mem_append.mp (split ▸ queued) with inOld | inLater
  · have notLate := ready.not_late_of_queued (isOld id inOld)
    rcases h.phase with ⟨other, fresh, undelivered⟩ | done
    · refine absurd undelivered (last other fresh ?_)
      rintro rfl
      exact notLate (.inl fresh)
    · exact absurd (.inr (done.queue id queued)) notLate
  · exact isLate id inLater

/-- Behind a late request there are only late ones. -/
theorem late_of_behind (late : base.Late id) (queue : s.queue = id :: rest) :
    ∀ other ∈ rest, base.Late other := by
  intro other behind
  obtain ⟨old, later, split, isOld, isLate⟩ := h.queue
  cases old with
  | nil =>
      apply isLate other
      rw [List.nil_append] at split
      rw [← split, queue]
      exact List.mem_cons_of_mem _ behind
  | cons first old =>
      rw [queue, List.cons_append, List.cons.injEq] at split
      exact absurd late (ready.not_late_of_queued (isOld id (split.1 ▸ List.mem_cons_self)))

/-- The delivery of the last fresh request, or of one that was issued later. -/
theorem done_of_delivered (watched : Watched s) (awaiting : s.Awaiting)
    (queue : s.queue = id :: rest)
    (last : ∀ other, base.Fresh other → other ≠ id → ¬ s.Undelivered other)
    (delivered : Delivered { s with queue := rest } id s') : Done base emulators s' := by
  have late := h.late_of_last ready queue last
  have undisturbed := delivered.undisturbed
  have nodup := watched.queue_nodup
  rw [queue, List.nodup_cons] at nodup
  have queued : id ∈ s.queue := by
    rw [queue]
    exact List.mem_cons_self
  obtain ⟨request, found, closed⟩ := watched.settled queued
  have settled : ∀ other, base.Fresh other → s.stateOf other ≠ some .outstanding := by
    intro other fresh outstanding
    by_cases same : other = id
    · subst same
      exact watched.stateOf_ne_outstanding queued outstanding
    · exact last other fresh same (.inl outstanding)
  refine ⟨?_, ?_, h.shown_of_delivered ready watched awaiting late queue settled delivered⟩
  · intro other fresh undelivered
    by_cases same : other = id
    · subst same
      rcases undelivered with outstanding | stays
      · rw [stateOf, undisturbed.getElem? found] at outstanding
        exact closed (Option.some.inj outstanding)
      · rw [undisturbed.queue] at stays
        exact nodup.1 stays
    · exact last other fresh same
        ((h.undelivered_iff ready fresh same queue delivered).mp undelivered)
  · intro other stays
    rw [undisturbed.queue] at stays
    have different : other ≠ id := by
      rintro rfl
      exact nodup.1 stays
    have inQueue : other ∈ s.queue := by
      rw [queue]
      exact List.mem_cons_of_mem _ stays
    rcases h.late_of_behind ready late queue other stays with fresh | beyond
    · exact absurd (.inr inQueue) (last other fresh different)
    · exact beyond

theorem delivered (watched : Watched s) (awaiting : s.Awaiting) (queue : s.queue = id :: rest)
    (delivered : Delivered { s with queue := rest } id s') :
    Progress base emulators held s' := by
  have undisturbed := delivered.undisturbed
  obtain ⟨issued, grows, _⟩ := undisturbed.requests
  have longer : s.requests.length ≤ s'.requests.length := by
    rw [grows, List.length_append]
    exact Nat.le_add_right _ _
  have before : ∀ {other : RequestId} {request}, s'.requests[other]? = some request →
      s.requests[other]? = some request
        ∨ s.requests.length ≤ other ∧ request.state = .outstanding := fun found =>
    undisturbed.request_cases found
  refine ⟨undisturbed.fixed { h.fixed with }, Nat.le_trans h.grown longer, ?_, ?_, ?_, ?_,
    h.late_held, ?_, ?_, ?_⟩
  · intro service key
    rw [undisturbed.cached]
    exact h.cached service key
  · intro other request found
    obtain ⟨request', found', same⟩ := h.stays found
    exact ⟨request', undisturbed.getElem? found', same⟩
  · intro other request found
    rcases before found with found | ⟨beyond, outstanding⟩
    · refine (h.requests found).imp_right fun ⟨late, state⟩ => ⟨late, state.imp_right ?_⟩
      refine fun completed => completed.congr fun service key kept => ?_
      rw [undisturbed.cached]
      exact kept
    · exact .inr ⟨.inr (Nat.le_trans h.grown beyond), .inl outstanding⟩
  · intro other request fresh found state
    rcases before found with found | ⟨beyond, _⟩
    · refine (h.outstanding fresh found state).imp_left fun listed => ?_
      obtain ⟨issued, lists, _⟩ := undisturbed.lists request.service request.coordinates.key
      rw [peers, lists]
      exact List.mem_append_left _ listed
    · have inside := Nat.lt_of_lt_of_le (ready.fresh_lt fresh) h.grown
      exact absurd inside (Nat.not_lt.mpr beyond)
  · intro service key other listed
    obtain ⟨issued, lists, new⟩ := undisturbed.lists service key
    rw [lists] at listed
    rcases List.mem_append.mp listed with listed | listed
    · exact h.late_listed service key other listed
    · exact .inr (Nat.le_trans h.grown (new other listed))
  · rw [undisturbed.queue]
    obtain ⟨old, later, split, isOld, isLate⟩ := h.queue
    rw [queue] at split
    cases old with
    | nil =>
        rw [List.nil_append] at split
        have behind := h.late_of_behind ready (isLate id (split ▸ List.mem_cons_self)) queue
        exact ⟨[], rest, rfl, List.forall_mem_nil _, behind⟩
    | cons x old =>
        rw [List.cons_append, List.cons.injEq] at split
        exact ⟨old, later, split.2, fun other member => isOld other (List.mem_cons_of_mem _ member),
          isLate⟩
  · by_cases another : ∃ other, base.Fresh other ∧ other ≠ id ∧ s.Undelivered other
    · obtain ⟨other, fresh, different, undelivered⟩ := another
      exact .inl ⟨other, fresh, (h.undelivered_iff ready fresh different queue delivered).mpr
        undelivered⟩
    · have last : ∀ other, base.Fresh other → other ≠ id → ¬ s.Undelivered other :=
        fun other fresh different undelivered => another ⟨other, fresh, different, undelivered⟩
      exact .inr (h.done_of_delivered ready watched awaiting queue last delivered)

omit ready in
theorem keep {service : ServiceId} {key : EmulationKey} (lists : base.Lists service key) :
    Progress base emulators held
      (s.updateService service (Service.keep key (some (emulators service key)))) := by
  have kept : ∀ other otherKey, ((s.updateService service
      (Service.keep key (some (emulators service key)))).services other).cached? otherKey
        = if other = service ∧ otherKey = key then some (emulators service key)
          else (s.services other).cached? otherKey := by
    intro other otherKey
    rw [services_updateService, cached?_set_keep]
  have listed : ∀ other otherKey, ((s.updateService service
      (Service.keep key (some (emulators service key)))).services other).waitingFor otherKey
        = (s.services other).waitingFor otherKey := by
    intro other otherKey
    rw [services_updateService, waitingFor_set_keep]
  refine ⟨{ h.fixed with }, h.grown, ?_, h.stays, ?_, ?_, h.late_held, ?_, h.queue, ?_⟩
  · intro other otherKey
    rw [kept]
    split
    · next same => exact .inr ⟨same.1 ▸ same.2 ▸ lists, by rw [same.1, same.2]⟩
    · exact h.cached other otherKey
  · intro id request found
    refine (h.requests found).imp_right fun ⟨late, state⟩ => ⟨late, state.imp_right ?_⟩
    refine fun completed => completed.congr fun other otherKey before => ?_
    rw [kept]
    split
    · next same => rw [same.1, same.2]
    · exact before
  · intro id request fresh found state
    rw [peers, listed]
    exact h.outstanding fresh found state
  · intro other otherKey
    rw [listed]
    exact h.late_listed other otherKey
  · exact h.phase.imp_right fun done => { done with }

omit ready in
theorem takeUp {service : ServiceId} {key : EmulationKey} (idle : held = []) :
    Progress base emulators ((s.services service).waitingFor key)
      (s.updateService service (Service.takeUp key)) := by
  have kept : ∀ other, ((s.updateService service (Service.takeUp key)).services other).cached?
      = (s.services other).cached? := by
    intro other
    rw [services_updateService, cached?_set_takeUp]
  have listed : ∀ other otherKey,
      ((s.updateService service (Service.takeUp key)).services other).waitingFor otherKey
        = if other = service ∧ otherKey = key then []
          else (s.services other).waitingFor otherKey := by
    intro other otherKey
    rw [services_updateService, waitingFor_set_takeUp]
  refine ⟨{ h.fixed with }, h.grown, ?_, h.stays, ?_, ?_, h.late_listed service key, ?_, h.queue,
    ?_⟩
  · intro other otherKey
    rw [kept]
    exact h.cached other otherKey
  · intro id request found
    refine (h.requests found).imp_right fun ⟨late, state⟩ => ⟨late, state.imp_right ?_⟩
    refine fun completed => completed.congr fun other otherKey before => ?_
    rw [kept]
    exact before
  · intro id request fresh found state
    rcases h.outstanding fresh found state with before | isHeld
    · rw [peers, listed]
      split
      -- What was listed for the key is held from now on.
      · next same =>
        rw [peers, same.1, same.2] at before
        exact .inr before
      · exact .inl before
    · rw [idle] at isHeld
      exact absurd isHeld List.not_mem_nil
  · intro other otherKey id before
    rw [listed] at before
    split at before
    · exact absurd before List.not_mem_nil
    · exact h.late_listed other otherKey id before
  · exact h.phase.imp_right fun done => { done with }

omit ready in
/-- A request is finished with the emulator that is kept for its key. -/
theorem finish {request : Request} (first : held = id :: held')
    (found : s.requests[id]? = some request) (open_ : request.state = .outstanding)
    (lists : base.Lists request.service request.coordinates.key)
    (kept : (s.services request.service).cached? request.coordinates.key
      = some (emulators request.service request.coordinates.key)) :
    Progress base emulators held'
      { s.mark id (.finished (.emulated (emulators request.service request.coordinates.key)))
        with queue := s.queue ++ [id] } := by
  have late : base.Late id := h.late_held id (first ▸ List.mem_cons_self)
  have undelivered : s.Undelivered id := by
    refine .inl ?_
    rw [stateOf, found]
    exact congrArg some open_
  obtain ⟨old, later, split_, isOld, isLate⟩ := h.queue
  refine ⟨{ h.fixed with }, ?_, h.cached, ?_, ?_, ?_, ?_, h.late_listed, ?_, ?_⟩
  · show _ ≤ (s.mark id _).requests.length
    rw [mark, List.length_modify]
    exact h.grown
  · intro other before foundBefore
    obtain ⟨request', found', service, coordinates⟩ := h.stays foundBefore
    rw [getElem?_mark, found']
    split
    · exact ⟨_, rfl, service, coordinates⟩
    · exact ⟨_, rfl, service, coordinates⟩
  · intro other request' found'
    rcases mark_cases found' with ⟨_, found'⟩ | ⟨rfl, before, foundBefore, rfl⟩
    · refine (h.requests found').imp_right fun late =>
        late.imp_right fun state => state.imp_right ?_
      exact fun completed => completed.congr fun _ _ before => before
    · rw [found] at foundBefore
      injection foundBefore with same
      subst same
      exact .inr ⟨late, .inr ⟨lists, rfl, kept⟩⟩
  · intro other request' fresh found' state
    rcases mark_cases found' with ⟨different, found'⟩ | ⟨_, _, _, rfl⟩
    · refine (h.outstanding fresh found' state).imp_right fun isHeld => ?_
      rw [first] at isHeld
      exact (List.mem_cons.mp isHeld).resolve_left different
    · cases state
  · intro other isHeld
    exact h.late_held other (first ▸ List.mem_cons_of_mem _ isHeld)
  · refine ⟨old, later ++ [id], ?_, isOld, ?_⟩
    · show s.queue ++ [id] = _
      rw [split_, List.append_assoc]
    · intro other member
      rcases List.mem_append.mp member with member | member
      · exact isLate other member
      · rw [List.mem_singleton.mp member]
        exact late
  · rcases h.phase with ⟨other, fresh, waits⟩ | done
    · refine .inl ⟨other, fresh, ?_⟩
      by_cases same : other = id
      · exact .inr (same ▸ List.mem_append_right _ List.mem_cons_self)
      · exact (undelivered_settle_iff same).mpr waits
    · -- Everything fresh has been delivered, so that this request was issued later.
      have notFresh : ¬ base.Fresh id := fun fresh => done.delivered id fresh undelivered
      refine .inr ⟨?_, ?_, done.shown⟩
      · intro other fresh waits
        have different : other ≠ id := by
          rintro rfl
          exact notFresh fresh
        exact done.delivered other fresh ((undelivered_settle_iff different).mp waits)
      · intro other member
        rcases List.mem_append.mp member with member | member
        · exact done.queue other member
        · rw [List.mem_singleton.mp member]
          exact late.resolve_left notFresh

theorem move (sound : Sound held s) (awaiting : s.Awaiting)
    (move : Move (base.Completing emulators) ⟨held, s⟩ ⟨held', s'⟩) :
    Progress base emulators held' s' := by
  cases move with
  | aside attended | refresh attended | assign attended | load attended | focus attended
  | rewire attended => exact absurd attended Completing.unattended.not_attended
  | keep ok =>
      obtain ⟨lists, rfl⟩ := Completing.of_keep ok
      exact h.keep lists
  | evict ok => exact absurd ok Completing.unattended.not_evict
  | takeUp => exact h.takeUp rfl
  | giveUp isHeld closed =>
      -- What is held would have to be cancelled.
      obtain ⟨request, found, notFinished, _⟩ := sound.filed.held_open isHeld
      have settled : request.state ≠ .outstanding := by
        intro open_
        rw [stateOf, found] at closed
        exact closed (congrArg some open_)
      have completed := h.completed ready (h.late_held _ isHeld) found settled
      exact absurd ⟨_, completed.state⟩ notFinished
  | finish outstanding ok =>
      obtain ⟨request, found, open_⟩ := Option.map_eq_some_iff.mp outstanding
      obtain ⟨allowed, offers⟩ := ok request found
      obtain ⟨lists, rfl⟩ := Completing.of_finishing allowed
      exact h.finish rfl found open_ lists (offers _ rfl)
  | cancel ok => exact absurd ok Completing.unattended.not_cancel
  | deliver queue delivered => exact h.delivered ready sound.watched awaiting queue delivered

end Progress

end Session

end PcodePanel
