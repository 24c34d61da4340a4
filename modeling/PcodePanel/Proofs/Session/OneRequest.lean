import PcodePanel.Proofs.Session.Turn

/-!
# One request at a time

A panel loads on many occasions: when it is focused, when its service changes, when it is told of a
late result. It asks a service only if nothing that it asked for in the same generation is still to
come. This holds at every moment of a run, also in the middle of an operation and after a load that
failed.

* `Session.Over` — nothing is to come of a request any more;
* `Session.over_of_ask` — the panel asks when all that it asked for in its generation is over;
* `Session.Succeeding` — of two requests of one generation the earlier one is over, an invariant of
  turns;
* `Session.Single` — where nothing fails, is cancelled or dropped, a generation has one request, an
  invariant of turns;
* `Session.one_request` — the main result.
-/

namespace PcodePanel

/-- What lets a request come to nothing, or an emulator be lost. -/
def Operation.isSetback : Operation → Bool
  | fail .. | cancel _ | evict .. => true
  | activate _ | setService _ | load | stepForward | stepBackward | assign .. | add .. | complete ..
  | provide .. | release _ | write .. | drain | clearLog => false

namespace Session

variable {allowed : Operation → Prop} {operations : List Operation} {held held' : List RequestId}
  {s s' t : Session} {id : RequestId} {request issued : Request}

/-- A run of operations can pass through a session, between two operations or inside one. -/
def Passes (s : Session) (operations : List Operation) (t : Session) : Prop :=
  ∃ held, Turns (· ∈ operations) ⟨[], s⟩ ⟨held, t⟩

/-- The request was cancelled, or the panel has been told of its outcome. -/
def Over (s : Session) (id : RequestId) (request : Request) : Prop :=
  request.state = .cancelled ∨ request.state ≠ .outstanding ∧ id ∉ s.queue

/-- What is not over is waited for. -/
theorem Watched.pending_of_not_over (watched : Watched s) (found : s.requests[id]? = some request)
    (generation : request.generation = s.panel.generation) (toCome : ¬ s.Over id request) :
    request.state ≠ .cancelled ∧ s.panel.pending = some id := by
  obtain ⟨notCancelled, undelivered⟩ := not_or.mp toCome
  refine ⟨notCancelled, watched.awaited found generation notCancelled ?_⟩
  by_cases outstanding : request.state = .outstanding
  · exact .inl outstanding
  · exact .inr (by_contra fun delivered => undelivered ⟨outstanding, delivered⟩)

/-- The panel asks only when all that it asked for in its generation is over. -/
theorem over_of_ask (watched : Watched s) {service : ServiceId} (plan : s.plan = .ask service)
    (found : s.requests[id]? = some request)
    (generation : request.generation = s.panel.generation) : s.Over id request := by
  by_contra toCome
  obtain ⟨notCancelled, waits⟩ := watched.pending_of_not_over found generation toCome
  have current := (watched.isCurrent_iff_generation found).mpr ⟨notCancelled, generation⟩
  obtain ⟨_, _, _, idle⟩ := plan_eq_ask plan
  rw [isWaiting_iff.mpr ⟨id, request, waits, found, current⟩] at idle
  cases idle

/-- A reload that issues a request had to ask, and the request is of the live generation. -/
theorem ask_of_issued (grown : s.reload.1.requests = s.requests ++ [issued]) :
    (∃ service, s.plan = .ask service) ∧ issued.generation = s.panel.generation := by
  rcases s.reload_cases with ⟨panel, log, _, eq⟩ | ⟨service, panel, log, plan, focus, eq⟩
  · rw [eq] at grown
    exact absurd grown (by simp)
  · rw [eq, issue_eq] at grown
    have same := List.append_cancel_left grown
    injection same with same
    rw [← same]
    exact ⟨⟨service, plan⟩, focus.generation⟩

/-- Of two requests of one generation, the earlier one is over. -/
def Succeeding (s : Session) : Prop :=
  ∀ id id' request request', s.requests[id]? = some request → s.requests[id']? = some request' →
    id < id' → request.generation = request'.generation → s.Over id request

/-- What is over stays over. -/
theorem Over.turn {request' : Request} (turn : Turn allowed ⟨held, s⟩ ⟨held', s'⟩)
    (found : s.requests[id]? = some request) (found' : s'.requests[id]? = some request')
    (isOver : s.Over id request) : s'.Over id request' := by
  have settled : request.state ≠ .outstanding := by
    rcases isOver with cancelled | ⟨settled, _⟩
    · rw [cancelled]
      decide
    · exact settled
  have same := turn.state_of_settled found settled found'
  rcases isOver with cancelled | ⟨_, delivered⟩
  · exact .inl (same.trans cancelled)
  refine .inr ⟨by rw [same]; exact settled, ?_⟩
  -- Only what is outstanding enters the queue.
  have other : ∀ {entering : RequestId}, s.stateOf entering = some .outstanding →
      id ∉ s.queue ++ [entering] := by
    intro entering outstanding queued
    rcases List.mem_append.mp queued with queued | enters
    · exact delivered queued
    · rw [← List.mem_singleton.mp enters, stateOf, found] at outstanding
      exact settled (Option.some.inj outstanding)
  cases turn with
  | aside | refresh | focus | rewire | keep | evict | takeUp | giveUp => exact delivered
  | load => rw [s.undisturbed_reload.queue]; exact delivered
  | finish outstanding => exact other outstanding
  | cancel _ outstanding => exact other outstanding
  | take queue =>
      rw [forget_eq]
      rw [queue] at delivered
      exact fun queued => delivered (List.mem_cons_of_mem _ queued)

namespace Succeeding

theorem ofStart (start : s.IsStart) : Succeeding s := by
  intro id id' request request' found
  rw [start.getElem?_requests] at found
  cases found

theorem turn (sound : Sound held s) (turn : Turn allowed ⟨held, s⟩ ⟨held', s'⟩)
    (h : Succeeding s) : Succeeding s' := by
  intro id id' request request' found found' earlier same
  rcases turn.request_cases found' with ⟨before', foundBefore', eq', _⟩ | ⟨new, service, plan, rfl⟩
  · rcases turn.request_cases found with ⟨before, foundBefore, eq, _⟩ | ⟨new, _⟩
    · rw [eq, eq'] at same
      exact (h id id' before before' foundBefore foundBefore' earlier same).turn turn foundBefore
        found
    · obtain ⟨inside, _⟩ := List.getElem?_eq_some_iff.mp foundBefore'
      exact absurd (Nat.lt_trans earlier inside) (new ▸ Nat.lt_irrefl id)
  · rcases turn.request_cases found with ⟨before, foundBefore, eq, _⟩ | ⟨new', _⟩
    · rw [eq] at same
      exact (over_of_ask sound.watched plan foundBefore same).turn turn foundBefore found
    · exact absurd (new'.trans new.symm) (Nat.ne_of_lt earlier)

end Succeeding

/-- What a panel has asked for: it asks for nothing that is still to come, each request but the last
of its generation is over, and what is not over in the live generation is the one request that the
panel waits for. -/
structure OneAtATime (t : Session) : Prop where
  asks : ∀ issued, t.reload.1.requests = t.requests ++ [issued] →
    ∀ id request, t.requests[id]? = some request → request.generation = issued.generation →
      t.Over id request
  succeeding : t.Succeeding
  awaited : ∀ id request, t.requests[id]? = some request →
    request.generation = t.panel.generation → ¬ t.Over id request → t.panel.pending = some id

theorem Succeeding.oneAtATime (succeeding : Succeeding t) (watched : Watched t) :
    t.OneAtATime := by
  refine ⟨?_, succeeding, ?_⟩
  · intro issued grown id request found generation
    obtain ⟨⟨service, plan⟩, live⟩ := ask_of_issued grown
    exact over_of_ask watched plan found (generation.trans live)
  · intro id request found generation toCome
    exact (watched.pending_of_not_over found generation toCome).2

/-! ## One request for a generation -/

/-- Each generation has one request at most, and what was settled is kept by its service. -/
structure Single (s : Session) : Prop where
  only : ∀ {id id' : RequestId} {request request' : Request}, s.requests[id]? = some request →
    s.requests[id']? = some request' → request.generation = request'.generation → id = id'
  kept : ∀ {id : RequestId} {request : Request}, s.requests[id]? = some request →
    request.state ≠ .outstanding →
    (s.services request.service).cached? request.coordinates.key ≠ none

namespace Single

theorem ofStart (start : s.IsStart) : Single s := by
  have absent : ∀ {id : RequestId} {request : Request}, s.requests[id]? ≠ some request := by
    intro id request found
    rw [start.getElem?_requests] at found
    cases found
  exact ⟨fun found => (absent found).elim, fun found => (absent found).elim⟩

/-- What is settled is kept, so that a panel that asks has asked for nothing in its generation. -/
theorem fresh_of_ask (h : Single s) (watched : Watched s) {service : ServiceId}
    (plan : s.plan = .ask service) (found : s.requests[id]? = some request) :
    request.generation ≠ s.panel.generation := by
  intro generation
  obtain ⟨live, _, absent, _⟩ := plan_eq_ask plan
  obtain ⟨own, sameAs, _⟩ := watched.live found generation
  have settled : request.state ≠ .outstanding := by
    rcases over_of_ask watched plan found generation with cancelled | ⟨settled, _⟩
    · rw [cancelled]
      decide
    · exact settled
  have kept := h.kept found settled
  rw [live] at own
  injection own with own
  rw [← own, Coordinates.key_of_sameAs sameAs] at kept
  exact kept absent

theorem reload (h : Single s) (watched : Watched s) : Single s.reload.1 := by
  have undisturbed := s.undisturbed_reload
  refine ⟨?_, ?_⟩
  · rcases s.reload_cases with ⟨panel, log, _, eq⟩ | ⟨service, panel, log, plan, focus, eq⟩
    · rw [eq]
      exact h.only
    · rw [eq]
      intro id id' request request' found found' same
      rcases issued_cases found with old | ⟨new, rfl⟩
      · rcases issued_cases found' with old' | ⟨_, rfl⟩
        · exact h.only old old' same
        · exact absurd (same.trans focus.generation) (h.fresh_of_ask watched plan old)
      · rcases issued_cases found' with old' | ⟨new', _⟩
        · exact absurd (same.symm.trans focus.generation) (h.fresh_of_ask watched plan old')
        · exact new.trans new'.symm
  · intro id request found settled
    rw [undisturbed.cached]
    exact h.kept (undisturbed.getElem?_of_settled found settled) settled

theorem finish {outcome : Outcome} (h : Single s)
    (kept : ∀ request, s.requests[id]? = some request →
      (s.services request.service).cached? request.coordinates.key ≠ none) :
    Single { s.mark id (.finished outcome) with queue := s.queue ++ [id] } := by
  have before : ∀ {other : RequestId} {request : Request},
      (s.mark id (.finished outcome)).requests[other]? = some request →
      ∃ request', s.requests[other]? = some request'
        ∧ request'.generation = request.generation := by
    intro other request found
    rcases mark_cases found with ⟨_, found⟩ | ⟨rfl, request', found', rfl⟩
    · exact ⟨request, found, rfl⟩
    · exact ⟨request', found', rfl⟩
  refine ⟨?_, ?_⟩
  · intro other other' request request' found found' same
    obtain ⟨_, old, generation⟩ := before found
    obtain ⟨_, old', generation'⟩ := before found'
    exact h.only old old' (generation.trans (same.trans generation'.symm))
  · intro other request found settled
    rcases mark_cases found with ⟨_, foundBefore⟩ | ⟨_, before, foundBefore, rfl⟩
    · exact h.kept foundBefore settled
    · exact kept before foundBefore

/-- Without setbacks every turn keeps it. -/
theorem turn (safe : ∀ operation, allowed operation → operation.isSetback = false)
    (sound : Sound held s) (turn : Turn allowed ⟨held, s⟩ ⟨held', s'⟩) (h : Single s) :
    Single s' := by
  cases turn with
  | aside | refresh | focus | rewire | giveUp => exact ⟨h.only, h.kept⟩
  | load => exact h.reload sound.watched
  | keep =>
      refine ⟨h.only, ?_⟩
      intro id request found settled
      rw [services_updateService, cached?_set_keep]
      split
      · exact Option.some_ne_none _
      · exact h.kept found settled
  | evict ok => exact Bool.noConfusion (safe _ ok)
  | takeUp =>
      refine ⟨h.only, ?_⟩
      intro id request found settled
      rw [services_updateService, cached?_set_takeUp]
      exact h.kept found settled
  | @finish _ _ id outcome _ offers =>
      refine h.finish ?_
      intro request found
      obtain ⟨ok, kept⟩ := offers request found
      cases outcome with
      | failed => exact Bool.noConfusion (safe _ ok)
      | emulated emulator =>
          rw [kept emulator rfl]
          exact Option.some_ne_none _
  | cancel ok => exact Bool.noConfusion (safe _ ok)
  | take =>
      rw [forget_eq]
      exact ⟨h.only, h.kept⟩

end Single

/-- **One request at a time.** At every moment of every run, also of one in which loads fail: when
the panel asks a service, all that it asked for in the same generation has been cancelled or
delivered, and what is still to come in the live generation is the one request that it waits for. In
a run without failures, cancellations and dropped emulators there is at most one request for each
generation. -/
theorem one_request (start : s.IsStart) (operations : List Operation) :
    s.Passes operations (s.performAll operations)
      ∧ (∀ t, s.Passes operations t → t.OneAtATime)
      ∧ ((∀ operation ∈ operations, operation.isSetback = false) →
        ∀ t, s.Passes operations t → ∀ (id id' : RequestId) (request request' : Request),
          t.requests[id]? = some request → t.requests[id']? = some request' →
          request.generation = request'.generation → id = id') := by
  refine ⟨⟨[], (start.arrives operations).turns⟩, ?_, ?_⟩
  · rintro t ⟨held, turns⟩
    have succeeding := turns.keep (P := fun _ s => Succeeding s) Succeeding.turn start.sound
      (Succeeding.ofStart start)
    exact succeeding.oneAtATime (turns.sound start.sound).watched
  · rintro safe t ⟨held, turns⟩ id id' request request'
    have single := turns.keep (P := fun _ s => Single s) (Single.turn safe) start.sound
      (Single.ofStart start)
    exact single.only

/-- The request is cancelled, and the panel asks again when it is told so; it does not ask a third
time when it loads. -/
def Sample.askedAgain : List Operation :=
  [.activate (spot 1), .cancel 0, .drain, .load]

theorem one_request_askedAgain :
    ((Sample.start .queued).performAll Sample.askedAgain).requests.map Request.generation = [1, 1]
      ∧ ((Sample.start .queued).performAll Sample.askedAgain).panel.pending = some 1
      ∧ ((Sample.start .queued).performAll Sample.askedAgain).OneAtATime := by
  obtain ⟨passes, oneAtATime, _⟩ := one_request (Sample.isStart_start .queued) Sample.askedAgain
  exact ⟨by decide +kernel, by decide +kernel, oneAtATime _ passes⟩

end Session

end PcodePanel
