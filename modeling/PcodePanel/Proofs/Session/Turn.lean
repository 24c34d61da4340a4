import PcodePanel.Proofs.Session.Move

/-!
# Runs that may fail

What an operation does to the services, the requests and the queue of a session, and to what its
panel follows and waits for, also where something is refused on the way. A load that fails has come
to its end as far as these are concerned: only what is shown is torn.

* `Panel.SameFocus` — panels that follow and wait for the same, whatever they show;
* `Session.reload_cases`, `Session.deliver_cases` — what a load and a delivery come to, with or
  without a fault;
* `Session.Turn` — the smallest parts of all operations, one constructor for each;
* `Session.perform_arrives`, `Session.performAll_arrives` — every operation is a sequence of turns,
  and so is every run;
* `Session.Turns.keep`, `Session.Turns.sound` — a sequence of turns keeps what every turn keeps.
-/

namespace PcodePanel

namespace Panel

/-- The panels follow the same and wait for the same. -/
structure SameFocus (p q : Panel) : Prop where
  service : q.service = p.service
  current : q.current = p.current
  previous : q.previous = p.previous
  generation : q.generation = p.generation
  pending : q.pending = p.pending

variable {indent : Option Bool}

theorem sameFocus_showFrame (indent : Option Bool) (p : Panel) (source : Source)
    (memory : Memory) (frame : Frame) :
    p.SameFocus (p.showFrame indent source memory frame).1 := by
  unfold showFrame
  split
  · exact ⟨rfl, rfl, rfl, rfl, rfl⟩
  · dsimp only
    split <;> exact ⟨rfl, rfl, rfl, rfl, rfl⟩

/-- An emulator may be shown, or only in part; the panel goes on following the same. -/
theorem sameFocus_showEmulator (p : Panel) (memories : MemoryId → Memory) (emulator : Emulator)
    (path : String) : p.SameFocus (p.showEmulator indent memories emulator path).1 := by
  unfold showEmulator
  split
  · exact ⟨rfl, rfl, rfl, rfl, rfl⟩
  · dsimp only
    split
    · exact ⟨rfl, rfl, rfl, rfl, rfl⟩
    · next thread _ _ frame _ =>
      have shown := sameFocus_showFrame indent
        { p with label := thread.instruction } ⟨emulator.language, thread.memory⟩
        (memories thread.memory) frame
      exact ⟨shown.service, shown.current, shown.previous, shown.generation, shown.pending⟩

end Panel

namespace Session

/-! ## Loads and deliveries -/

section Loads

variable {s : Session} {id : RequestId} {request : Request}

theorem showEmulator_eq (s : Session) (emulator : Emulator) :
    ∃ panel, s.panel.SameFocus panel ∧ (s.showEmulator emulator).1 = { s with panel } := by
  unfold showEmulator
  split
  · exact ⟨s.panel, ⟨rfl, rfl, rfl, rfl, rfl⟩, rfl⟩
  · next path _ => exact ⟨_, s.panel.sameFocus_showEmulator s.memory emulator path, rfl⟩

/-- A reload issues a request, where that is its plan and the log takes the event. Otherwise it
changes only what is shown. -/
theorem reload_cases (s : Session) :
    (∃ panel log, s.panel.SameFocus panel ∧ s.reload.1 = { s with panel, log })
      ∨ ∃ service panel log, s.plan = .ask service ∧ s.panel.SameFocus panel
        ∧ s.reload.1 = { s with panel, log }.issue service := by
  unfold reload
  cases plan : s.plan with
  | nothing | placeholder | wait =>
      refine .inl ⟨_, s.log, ?_, rfl⟩
      exact ⟨rfl, rfl, rfl, rfl, rfl⟩
  | display emulator =>
      obtain ⟨panel, focus, eq⟩ := s.clearLabel.showEmulator_eq emulator
      exact .inl ⟨panel, s.log,
        ⟨focus.service, focus.current, focus.previous, focus.generation, focus.pending⟩, eq⟩
  | ask service =>
      dsimp only [follow]
      split
      · refine .inl ⟨_, s.log, ?_, rfl⟩
        exact ⟨rfl, rfl, rfl, rfl, rfl⟩
      · next recorded =>
        obtain ⟨log, rfl⟩ := record_eq_ok recorded
        refine .inr ⟨service, _, log, rfl, ?_, rfl⟩
        exact ⟨rfl, rfl, rfl, rfl, rfl⟩

theorem takeOver_eq (s : Session) (request : Request) :
    ∃ panel log failures, s.panel.SameFocus panel
      ∧ (s.takeOver request).1 = { s with panel, log, failures } := by
  have same : s.panel.SameFocus s.panel := ⟨rfl, rfl, rfl, rfl, rfl⟩
  unfold takeOver
  split
  · dsimp only
    split
    · exact ⟨_, s.log, _, same, rfl⟩
    · next recorded =>
      obtain ⟨log, rfl⟩ := record_eq_ok recorded
      refine ⟨_, log, _, ?_, rfl⟩
      exact ⟨rfl, rfl, rfl, rfl, rfl⟩
  · next emulator _ =>
    split
    · exact ⟨_, s.log, s.failures, same, rfl⟩
    · next recorded =>
      obtain ⟨log, rfl⟩ := record_eq_ok recorded
      obtain ⟨panel, focus, eq⟩ := showEmulator_eq { s with log } emulator
      exact ⟨panel, log, s.failures, focus, eq⟩
  · exact ⟨_, s.log, s.failures, same, rfl⟩
  · exact ⟨_, s.log, s.failures, same, rfl⟩

/-- To be told of a request is to forget it, and then to change what is shown or to reload. -/
theorem deliver_cases (found : s.requests[id]? = some request) :
    (∃ panel log failures, (s.forget id).panel.SameFocus panel
        ∧ (s.deliver id).1 = { s with panel, log, failures })
      ∨ ∃ log, (s.deliver id).1 = ({ s.forget id with log }.setState .stale).reload.1 := by
  unfold deliver
  simp only [found]
  split
  · obtain ⟨panel, log, failures, focus, eq⟩ := (s.forget id).takeOver_eq request
    refine .inl ⟨panel, log, failures, focus, eq.trans ?_⟩
    rw [forget_eq]
  · unfold dropStale
    split
    · refine .inl ⟨(s.forget id).panel, s.log, s.failures, ⟨rfl, rfl, rfl, rfl, rfl⟩, ?_⟩
      rw [forget_eq]
    · next recorded =>
      obtain ⟨log, rfl⟩ := record_eq_ok recorded
      exact .inr ⟨log, rfl⟩

/-- A reload disturbs nothing, even if it fails. -/
theorem undisturbed_reload (s : Session) : Undisturbed s s.reload.1 := by
  rcases s.reload_cases with ⟨panel, log, focus, eq⟩ | ⟨service, panel, log, _, focus, eq⟩
  · rw [eq]
    exact .ofSame rfl rfl rfl rfl focus.service focus.current focus.previous focus.generation rfl
      rfl
  · rw [eq]
    have issued := undisturbed_issue { s with panel, log } service
    exact ⟨rfl, rfl, rfl, rfl, focus.service, focus.current, focus.previous, focus.generation,
      issued.cached, issued.requests, issued.lists⟩

/-- A delivery disturbs nothing, even if it fails. -/
theorem undisturbed_deliver (s : Session) (id : RequestId) : Undisturbed s (s.deliver id).1 := by
  cases found : s.requests[id]? with
  | none =>
      simp only [deliver, found]
      exact .ofSame rfl rfl rfl rfl rfl rfl rfl rfl rfl rfl
  | some request =>
      rcases deliver_cases found with ⟨panel, log, failures, focus, eq⟩ | ⟨log, eq⟩
      · rw [eq]
        rw [forget_eq] at focus
        exact .ofSame rfl rfl rfl rfl focus.service focus.current focus.previous focus.generation
          rfl rfl
      · rw [eq, forget_eq]
        have h := undisturbed_reload (setState { s.forget id with log } .stale)
        rw [forget_eq] at h
        exact ⟨h.config, h.delivery, h.memories, h.queue, h.service, h.current, h.previous,
          h.generation, h.cached, h.requests, h.lists⟩

end Loads

/-! ## Turns -/

/-- The smallest parts of what happens to a session, whether or not something is refused. `allowed`
limits the operations that they are part of. -/
inductive Turn (allowed : Operation → Prop) : Moment → Moment → Prop
  /-- What is shown, logged or kept beside. -/
  | aside {held s panel catalog log memories handed failures} : s.panel.SameFocus panel →
      Turn allowed ⟨held, s⟩
        ⟨held, { s with panel, catalog, log, memories, handed, failures }⟩
  /-- The stack level is taken over. -/
  | refresh {held s coordinates} : Attended allowed →
      s.panel.current.sameAs coordinates = true →
      Turn allowed ⟨held, s⟩ ⟨held, { s with panel := { s.panel with current := coordinates } }⟩
  | focus {held s coordinates} : Attended allowed →
      s.panel.current.sameAs coordinates = false →
      Turn allowed ⟨held, s⟩ ⟨held, s.focusOn coordinates⟩
  | rewire {held s service} : Attended allowed → Turn allowed ⟨held, s⟩ ⟨held, s.rewire service⟩
  /-- The panel loads, and may issue a request. Nothing else does. -/
  | load {held s} : Turn allowed ⟨held, s⟩ ⟨held, s.reload.1⟩
  | keep {held s service key emulator} :
      allowed (.add service key emulator) ∨ allowed (.complete service key emulator) →
      Turn allowed ⟨held, s⟩
        ⟨held, s.updateService service (Service.keep key (some emulator))⟩
  | evict {held s service key} : allowed (.evict service key) →
      Turn allowed ⟨held, s⟩ ⟨held, s.updateService service (Service.keep key none)⟩
  | takeUp {s service key} :
      Turn allowed ⟨[], s⟩
        ⟨(s.services service).waitingFor key, s.updateService service (Service.takeUp key)⟩
  /-- The first of those held is settled already, and the others are given up with it. -/
  | giveUp {held s id} : s.stateOf id ≠ some .outstanding →
      Turn allowed ⟨id :: held, s⟩ ⟨[], s⟩
  | finish {held s id outcome} : s.stateOf id = some .outstanding →
      (∀ request, s.requests[id]? = some request →
        allowed (.finishing request.service request.coordinates.key outcome)
          ∧ s.Offers request.service request.coordinates.key outcome) →
      Turn allowed ⟨id :: held, s⟩
        ⟨held, { s.mark id (.finished outcome) with queue := s.queue ++ [id] }⟩
  | cancel {held s id} : allowed (.cancel id) → s.stateOf id = some .outstanding →
      Turn allowed ⟨held, s⟩ ⟨held, { s.mark id .cancelled with queue := s.queue ++ [id] }⟩
  /-- The first request leaves the queue. What the panel makes of it are turns of their own. -/
  | take {held s id rest} : s.queue = id :: rest →
      Turn allowed ⟨held, s⟩ ⟨held, forget { s with queue := rest } id⟩

/-- Turns one after the other. -/
abbrev Turns (allowed : Operation → Prop) : Moment → Moment → Prop :=
  Relation.ReflTransGen (Turn allowed)

section Turns

variable {allowed : Operation → Prop} {held held' : List RequestId} {s s' : Session}

/-- Soundness looks at what the panel follows and waits for, and at the books. -/
theorem Sound.congr (h : Sound held s) (focus : s.panel.SameFocus s'.panel)
    (services : s'.services = s.services) (requests : s'.requests = s.requests)
    (queue : s'.queue = s.queue) : Sound held s' := by
  refine ⟨?_, ?_⟩
  · rw [services, requests]
    exact h.filed
  · exact h.watched.congr focus.service (by rw [focus.current]; exact Coordinates.sameAs_self _)
      focus.generation focus.pending requests queue

theorem Sound.reload (h : Sound held s) : Sound held s.reload.1 := by
  rcases s.reload_cases with ⟨panel, log, focus, eq⟩ | ⟨service, panel, log, plan, focus, eq⟩
  · rw [eq]
    exact h.congr focus rfl rfl rfl
  · obtain ⟨live, askable, _, idle⟩ := plan_eq_ask plan
    have shown : Sound held { s with panel, log } := h.congr focus rfl rfl rfl
    have outstanding : Request.state ⟨panel.current, panel.generation, service, .outstanding⟩
      = .outstanding := rfl
    rw [eq]
    refine ⟨shown.filed.issue outstanding, shown.watched.issue ?_ ?_ ?_⟩
    · exact focus.service.trans live
    · show panel.current.Askable
      rw [focus.current]
      exact askable
    · rw [← idle]
      show isWaiting { s with panel } = _
      rw [isWaiting, isWaiting, focus.pending, focus.current, focus.generation]

theorem Sound.turn (h : Sound held s) (turn : Turn allowed ⟨held, s⟩ ⟨held', s'⟩) :
    Sound held' s' := by
  obtain ⟨filed, watched⟩ := h
  have same := Coordinates.sameAs_self s.panel.current
  cases turn with
  | aside focus => exact Sound.congr ⟨filed, watched⟩ focus rfl rfl rfl
  | refresh _ sameAs => exact ⟨filed, watched.congr rfl sameAs rfl rfl rfl rfl⟩
  | focus => exact ⟨filed, watched.advance rfl (.inl rfl) rfl rfl⟩
  | rewire => exact ⟨filed, watched.advance rfl (.inr rfl) rfl rfl⟩
  | load => exact Sound.reload ⟨filed, watched⟩
  | keep => exact ⟨filed.keep _ _ _, watched.congr rfl same rfl rfl rfl rfl⟩
  | evict => exact ⟨filed.keep _ _ _, watched.congr rfl same rfl rfl rfl rfl⟩
  | takeUp => exact ⟨filed.takeUp _ _, watched.congr rfl same rfl rfl rfl rfl⟩
  | giveUp => exact ⟨filed.giveUp, watched⟩
  | finish outstanding =>
      exact ⟨filed.settle (List.sublist_cons_self ..) fun _ => rfl,
        watched.settle outstanding (by simp)⟩
  | cancel _ outstanding =>
      refine ⟨filed.settle (List.Sublist.refl _) ?_, watched.settle outstanding (by simp)⟩
      rintro ⟨outcome, finished⟩
      cases finished
  | take queue =>
      refine ⟨?_, watched.take queue⟩
      rw [forget_eq]
      exact filed

/-- What every turn keeps, a sequence of turns keeps. -/
theorem Turns.keep {P : List RequestId → Session → Prop} {m m' : Moment}
    (step : ∀ {held s held' s'}, Sound held s → Turn allowed ⟨held, s⟩ ⟨held', s'⟩ → P held s →
      P held' s') (turns : Turns allowed m m') (sound : Sound m.held m.session)
    (first : P m.held m.session) : P m'.held m'.session := by
  have both : Sound m'.held m'.session ∧ P m'.held m'.session := by
    induction turns with
    | refl => exact ⟨sound, first⟩
    | tail _ turn ih => exact ⟨ih.1.turn turn, step ih.1 turn ih.2⟩
  exact both.2

theorem Turns.sound {m m' : Moment} (turns : Turns allowed m m') (h : Sound m.held m.session) :
    Sound m'.held m'.session :=
  turns.keep (P := Sound) (fun _ turn sound => sound.turn turn) h h

/-! ## What turns leave alone -/

theorem Turn.delivery (turn : Turn allowed ⟨held, s⟩ ⟨held', s'⟩) : s'.delivery = s.delivery := by
  cases turn with
  | aside | refresh | focus | rewire | keep | evict | takeUp | giveUp | finish | cancel => rfl
  | load => exact s.undisturbed_reload.delivery
  | take => rw [forget_eq]

theorem Turns.delivery {m m' : Moment} (turns : Turns allowed m m') :
    m'.session.delivery = m.session.delivery := by
  induction turns with
  | refl => rfl
  | tail _ turn ih => exact turn.delivery.trans ih

/-- A request is never rewritten, but for what has become of it. -/
theorem Turn.request {id : RequestId} {request : Request}
    (turn : Turn allowed ⟨held, s⟩ ⟨held', s'⟩) (found : s.requests[id]? = some request) :
    ∃ request', s'.requests[id]? = some request' ∧ request'.service = request.service
      ∧ request'.coordinates = request.coordinates
      ∧ request'.generation = request.generation := by
  have marked : ∀ (other : RequestId) (state : RequestState), ∃ request',
      (s.mark other state).requests[id]? = some request' ∧ request'.service = request.service
        ∧ request'.coordinates = request.coordinates
        ∧ request'.generation = request.generation := by
    intro other state
    rw [getElem?_mark, found]
    split <;> exact ⟨_, rfl, rfl, rfl, rfl⟩
  cases turn with
  | aside | refresh | focus | rewire | keep | evict | takeUp | giveUp =>
      exact ⟨request, found, rfl, rfl, rfl⟩
  | finish => exact marked _ _
  | cancel => exact marked _ _
  | load => exact ⟨request, s.undisturbed_reload.getElem? found, rfl, rfl, rfl⟩
  | take =>
      rw [forget_eq]
      exact ⟨request, found, rfl, rfl, rfl⟩

theorem Turns.request {m m' : Moment} {id : RequestId} {request : Request}
    (turns : Turns allowed m m') (found : m.session.requests[id]? = some request) :
    ∃ request', m'.session.requests[id]? = some request' ∧ request'.service = request.service
      ∧ request'.coordinates = request.coordinates
      ∧ request'.generation = request.generation := by
  induction turns with
  | refl => exact ⟨request, found, rfl, rfl, rfl⟩
  | tail _ turn ih =>
      obtain ⟨request', found', service, coordinates, generation⟩ := ih
      obtain ⟨request'', found'', service', coordinates', generation'⟩ := turn.request found'
      exact ⟨request'', found'', service'.trans service, coordinates'.trans coordinates,
        generation'.trans generation⟩

/-- A request was there before, or the panel has just asked for it. What was settled stays so. -/
theorem Turn.request_cases {id : RequestId} {request : Request}
    (turn : Turn allowed ⟨held, s⟩ ⟨held', s'⟩) (found : s'.requests[id]? = some request) :
    (∃ before, s.requests[id]? = some before ∧ request = { before with state := request.state }
        ∧ (before.state ≠ .outstanding → request.state = before.state))
      ∨ id = s.requests.length ∧ ∃ service, s.plan = .ask service
        ∧ request = ⟨s.panel.current, s.panel.generation, service, .outstanding⟩ := by
  have marked : ∀ {other : RequestId} {state : RequestState}, s.stateOf other = some .outstanding →
      (s.mark other state).requests[id]? = some request →
      ∃ before, s.requests[id]? = some before ∧ request = { before with state := request.state }
        ∧ (before.state ≠ .outstanding → request.state = before.state) := by
    intro other state outstanding found
    rcases mark_cases found with ⟨_, foundBefore⟩ | ⟨rfl, before, foundBefore, rfl⟩
    · exact ⟨request, foundBefore, rfl, fun _ => rfl⟩
    · refine ⟨before, foundBefore, rfl, fun settled => absurd ?_ settled⟩
      rw [stateOf, foundBefore] at outstanding
      exact Option.some.inj outstanding
  cases turn with
  | aside | refresh | focus | rewire | keep | evict | takeUp | giveUp =>
      exact .inl ⟨request, found, rfl, fun _ => rfl⟩
  | finish outstanding => exact .inl (marked outstanding found)
  | cancel _ outstanding => exact .inl (marked outstanding found)
  | load =>
      rcases s.reload_cases with ⟨panel, log, _, eq⟩ | ⟨service, panel, log, plan, focus, eq⟩
      · rw [eq] at found
        exact .inl ⟨request, found, rfl, fun _ => rfl⟩
      · rw [eq] at found
        rcases issued_cases found with old | ⟨new, rfl⟩
        · exact .inl ⟨request, old, rfl, fun _ => rfl⟩
        · refine .inr ⟨new, service, plan, ?_⟩
          rw [focus.current, focus.generation]
  | take =>
      rw [forget_eq] at found
      exact .inl ⟨request, found, rfl, fun _ => rfl⟩

/-- What was settled before a turn is as it was after it. -/
theorem Turn.state_of_settled {id : RequestId} {request request' : Request}
    (turn : Turn allowed ⟨held, s⟩ ⟨held', s'⟩) (found : s.requests[id]? = some request)
    (settled : request.state ≠ .outstanding) (found' : s'.requests[id]? = some request') :
    request'.state = request.state := by
  rcases turn.request_cases found' with ⟨before, foundBefore, _, stays⟩ | ⟨new, _⟩
  · rw [found] at foundBefore
    injection foundBefore with same
    subst same
    exact stays settled
  · obtain ⟨inside, _⟩ := List.getElem?_eq_some_iff.mp found
    exact absurd new (Nat.ne_of_lt inside)

/-- What is followed changes only in the foreground. -/
theorem Turn.follows (unattended : ¬ Attended allowed)
    (turn : Turn allowed ⟨held, s⟩ ⟨held', s'⟩) :
    s'.panel.service = s.panel.service ∧ s'.panel.current = s.panel.current
      ∧ s'.panel.previous = s.panel.previous ∧ s'.panel.generation = s.panel.generation := by
  cases turn with
  | aside focus => exact ⟨focus.service, focus.current, focus.previous, focus.generation⟩
  | refresh attended | focus attended | rewire attended => exact absurd attended unattended
  | load =>
      have h := s.undisturbed_reload
      exact ⟨h.service, h.current, h.previous, h.generation⟩
  | keep | evict | takeUp | giveUp | finish | cancel => exact ⟨rfl, rfl, rfl, rfl⟩
  | take =>
      rw [forget_eq]
      exact ⟨rfl, rfl, rfl, rfl⟩

theorem Turns.follows {m m' : Moment} (unattended : ¬ Attended allowed)
    (turns : Turns allowed m m') :
    m'.session.panel.service = m.session.panel.service
      ∧ m'.session.panel.current = m.session.panel.current
      ∧ m'.session.panel.previous = m.session.panel.previous
      ∧ m'.session.panel.generation = m.session.panel.generation := by
  induction turns with
  | refl => exact ⟨rfl, rfl, rfl, rfl⟩
  | tail _ turn ih =>
      obtain ⟨service, current, previous, generation⟩ := ih
      obtain ⟨service', current', previous', generation'⟩ := turn.follows unattended
      exact ⟨service'.trans service, current'.trans current, previous'.trans previous,
        generation'.trans generation⟩

/-! ## Sequences of turns -/

/-- Turns to a session in which nothing is on its way that is delivered at once. -/
structure Arrives (allowed : Operation → Prop) (m m' : Moment) : Prop where
  turns : Turns allowed m m'
  idle : m'.session.Idle

theorem Arrives.trans {m₁ m₂ m₃ : Moment} (first : Arrives allowed m₁ m₂)
    (second : Arrives allowed m₂ m₃) : Arrives allowed m₁ m₃ :=
  ⟨first.turns.trans second.turns, second.idle⟩

/-- A turn that touches neither the queue nor the way of delivery. -/
theorem Arrives.single {m m' : Moment} (idle : m.session.Idle) (turn : Turn allowed m m')
    (delivery : m'.session.delivery = m.session.delivery)
    (queue : m'.session.queue = m.session.queue) : Arrives allowed m m' := by
  refine ⟨.single turn, ?_⟩
  rw [Idle, delivery, queue]
  exact idle

theorem Arrives.refl (idle : s.Idle) : Arrives allowed ⟨held, s⟩ ⟨held, s⟩ :=
  ⟨.refl, idle⟩

theorem reload_arrives (idle : s.Idle) : Arrives allowed ⟨held, s⟩ ⟨held, s.reload.1⟩ :=
  .single idle .load s.undisturbed_reload.delivery s.undisturbed_reload.queue

/-! ## Settling requests -/

section Settling

variable {id : RequestId} {request : Request} {state : RequestState} {service : ServiceId}
  {key : EmulationKey} {outcome : Outcome}

/-- What the panel makes of a request that has left the queue. -/
theorem deliver_turns (found : s.requests[id]? = some request) :
    Turns allowed ⟨held, s.forget id⟩ ⟨held, (s.deliver id).1⟩ := by
  rcases deliver_cases found with ⟨panel, log, failures, focus, eq⟩ | ⟨log, eq⟩
  · have shown : Turn allowed ⟨held, s.forget id⟩ ⟨held, { s with panel, log, failures }⟩ := by
      rw [forget_eq] at focus ⊢
      exact .aside focus
    rw [eq]
    exact .single shown
  · have stale : Turn allowed ⟨held, s.forget id⟩
        ⟨held, { s.forget id with log }.setState .stale⟩ :=
      .aside ⟨rfl, rfl, rfl, rfl, rfl⟩
    rw [eq]
    exact .tail (.single stale) .load

/-- After a request has been marked, settling it only tells the panel, now or later. -/
theorem undisturbed_settle (s : Session) (onWorker : Bool) (id : RequestId)
    (state : RequestState) :
    ∃ queue, Undisturbed { s.mark id state with queue } (s.settle onWorker id state) := by
  rw [settle_eq]
  split
  · exact ⟨s.queue, undisturbed_deliver _ id⟩
  · exact ⟨s.queue ++ [id], .ofSame rfl rfl rfl rfl rfl rfl rfl rfl rfl rfl⟩

/-- Settling a request touches what services keep as little as what was asked of them. -/
theorem request_settle {other : RequestId} (found : s.requests[other]? = some request) :
    ∃ request', (s.settle false id state).requests[other]? = some request'
      ∧ request'.service = request.service ∧ request'.coordinates = request.coordinates := by
  obtain ⟨queue, undisturbed⟩ := s.undisturbed_settle false id state
  have marked := s.getElem?_mark id other state
  rw [found] at marked
  split at marked
  · exact ⟨_, undisturbed.getElem? marked, rfl, rfl⟩
  · exact ⟨_, undisturbed.getElem? marked, rfl, rfl⟩

/-- Settling a request changes what has become of it, and of no other. -/
theorem stateOf_settle {other : RequestId} {known : RequestState}
    (found : s.stateOf other = some known) :
    (s.settle false id state).stateOf other = some (if other = id then state else known) := by
  obtain ⟨queue, undisturbed⟩ := s.undisturbed_settle false id state
  obtain ⟨request, foundRequest, rfl⟩ := Option.map_eq_some_iff.mp found
  have marked := s.getElem?_mark id other state
  rw [foundRequest] at marked
  split at marked
  · next same => rw [stateOf, undisturbed.getElem? marked, if_pos same]; rfl
  · next different => rw [stateOf, undisturbed.getElem? marked, if_neg different]; rfl

theorem stateOf_settle_of_ne {other : RequestId} (different : other ≠ id)
    (known : s.stateOf other ≠ none) :
    (s.settle false id state).stateOf other = s.stateOf other := by
  obtain ⟨_, found⟩ := Option.ne_none_iff_exists'.mp known
  rw [stateOf_settle found, if_neg different, found]

theorem stateOf_settle_ne_none {other : RequestId}
    (known : s.stateOf other ≠ none) : (s.settle false id state).stateOf other ≠ none := by
  obtain ⟨_, found⟩ := Option.ne_none_iff_exists'.mp known
  rw [stateOf_settle found]
  exact Option.some_ne_none _

theorem settle_arrives (idle : s.Idle) (found : s.requests[id]? = some request)
    (entered : Turn allowed ⟨held, s⟩ ⟨held', { s.mark id state with queue := s.queue ++ [id] }⟩) :
    Arrives allowed ⟨held, s⟩ ⟨held', s.settle false id state⟩ := by
  rw [settle_eq]
  split
  · next atOnce =>
    -- The request enters an empty queue, and leaves it again to be delivered.
    have empty : s.queue = [] := idle atOnce
    have unqueued : { s.mark id state with queue := [] } = s.mark id state := by
      rw [← empty]
      rfl
    have leaves : Turn allowed ⟨held', { s.mark id state with queue := s.queue ++ [id] }⟩
        ⟨held', (s.mark id state).forget id⟩ := by
      rw [← unqueued]
      exact .take (by rw [empty]; rfl)
    have marked := s.getElem?_mark id id state
    rw [if_pos rfl, found] at marked
    refine ⟨.head entered (.head leaves (deliver_turns marked)), ?_⟩
    intro _
    exact (undisturbed_deliver _ id).queue.trans empty
  · next later => exact ⟨.single entered, fun atOnce => absurd atOnce later⟩

/-- The requests that are held are finished one after the other. Those behind keep their service and
their key meanwhile. -/
theorem finishAll_arrives (ok : allowed (.finishing service key outcome)) :
    ∀ (ids : List RequestId) (s : Session), s.Idle → s.Offers service key outcome →
      (∀ id ∈ ids, ∃ request, s.requests[id]? = some request ∧ request.service = service
        ∧ request.coordinates.key = key) →
      Arrives allowed ⟨ids, s⟩ ⟨[], (s.finishAll outcome ids).1⟩ := by
  intro ids
  induction ids with
  | nil =>
      intro s idle _ _
      exact .refl idle
  | cons id ids ih =>
      intro s idle offers own
      unfold finishAll
      split
      · next outstanding =>
        obtain ⟨request, found, sameService, sameKey⟩ := own id List.mem_cons_self
        have entered : Turn allowed ⟨id :: ids, s⟩
            ⟨ids, { s.mark id (.finished outcome) with queue := s.queue ++ [id] }⟩ := by
          refine .finish outstanding ?_
          intro request' found'
          rw [found] at found'
          injection found' with same
          rw [← same, sameService, sameKey]
          exact ⟨ok, offers⟩
        have settled := settle_arrives idle found entered
        obtain ⟨queue, undisturbed⟩ := s.undisturbed_settle false id (.finished outcome)
        refine settled.trans (ih _ settled.idle ?_ ?_)
        · intro emulator emulated
          rw [undisturbed.cached]
          exact offers emulator emulated
        · intro other isHeld
          obtain ⟨request, found, sameService, sameKey⟩ :=
            own other (List.mem_cons_of_mem _ isHeld)
          obtain ⟨request', found', service', coordinates'⟩ := request_settle found
          exact ⟨request', found', service'.trans sameService, coordinates' ▸ sameKey⟩
      · next closed => exact .single idle (.giveUp closed) rfl rfl

theorem finishKey_arrives (ok : allowed (.finishing service key outcome)) (sound : Sound [] s)
    (idle : s.Idle) (offers : s.Offers service key outcome) :
    Arrives allowed ⟨[], s⟩ ⟨[], (s.finishKey service key outcome).1⟩ := by
  rw [finishKey, answer_fst]
  have takes : Turn allowed ⟨[], s⟩
      ⟨(s.services service).waitingFor key, s.updateService service (Service.takeUp key)⟩ := .takeUp
  refine (Arrives.single idle takes rfl rfl).trans (finishAll_arrives ok _ _ ?_ ?_ ?_)
  · exact idle
  · intro emulator emulated
    rw [services_updateService, cached?_set_takeUp]
    exact offers emulator emulated
  · intro id listed
    obtain ⟨request, found, sameService, sameKey, _⟩ := sound.filed.listed listed
    exact ⟨request, found, sameService, sameKey⟩

/-- The panel is told of the requests in the queue, up to the first of which the telling fails. -/
theorem drainIds_turns : ∀ (ids : List RequestId) (s : Session) (count : Nat), s.queue = ids →
    Sound [] s → Turns allowed ⟨[], s⟩ ⟨[], (s.drainIds count ids).1⟩ := by
  intro ids
  induction ids with
  | nil => exact fun _ _ _ _ => .refl
  | cons id ids ih =>
      intro s count queue sound
      obtain ⟨request, found, _⟩ := sound.watched.settled (queue ▸ List.mem_cons_self)
      have told : Turns allowed ⟨[], s⟩ ⟨[], (deliver { s with queue := ids } id).1⟩ :=
        .head (.take queue) (deliver_turns found)
      have left : (deliver { s with queue := ids } id).1.queue = ids :=
        (undisturbed_deliver _ id).queue
      unfold drainIds
      split
      · next delivered =>
        rw [delivered] at told left
        exact told.trans (ih _ _ left (told.sound sound))
      · next delivered =>
        rw [delivered] at told
        exact told

theorem drain_arrives (sound : Sound [] s) (idle : s.Idle) :
    Arrives allowed ⟨[], s⟩ ⟨[], (s.perform .drain).1⟩ := by
  rw [perform_drain]
  by_cases atOnce : s.delivery.runsAtOnce false = true
  · -- Nothing is in the queue.
    have drained : s.drain = (s, .ok 0) := by
      rw [drain, idle atOnce]
      rfl
    rw [drained]
    exact .refl idle
  · have turns : Turns allowed ⟨[], s⟩ ⟨[], s.drain.1⟩ := drainIds_turns s.queue s 0 rfl sound
    refine ⟨turns, fun atOnce' => absurd atOnce' ?_⟩
    rw [turns.delivery]
    exact atOnce

end Settling

/-! ## Operations -/

theorem recordAndReload_arrives (idle : s.Idle) (name : String) :
    Arrives allowed ⟨held, s⟩ ⟨held, (s.recordAndReload name).1⟩ := by
  unfold recordAndReload
  split
  · exact .refl idle
  · next recorded =>
    obtain ⟨log, rfl⟩ := record_eq_ok recorded
    have logged : Turn allowed ⟨held, s⟩ ⟨held, { s with log }⟩ := .aside ⟨rfl, rfl, rfl, rfl, rfl⟩
    exact (Arrives.single idle logged rfl rfl).trans (reload_arrives idle)

section Foreground

variable (attended : Attended allowed) (idle : s.Idle)
include attended idle

theorem activate_arrives (coordinates : Coordinates) :
    Arrives allowed ⟨held, s⟩ ⟨held, (s.activate coordinates).1⟩ := by
  unfold activate
  split
  · next same => exact .single idle (.refresh attended same) rfl rfl
  · next other =>
    have focused : Arrives allowed ⟨held, s⟩ ⟨held, s.focusOn coordinates⟩ :=
      .single idle (.focus attended (Bool.eq_false_iff.mpr other)) rfl rfl
    exact focused.trans (recordAndReload_arrives focused.idle _)

theorem setService_arrives (service : Option ServiceId) :
    Arrives allowed ⟨held, s⟩ ⟨held, (s.setService service).1⟩ := by
  have rewired : Arrives allowed ⟨held, s⟩ ⟨held, s.rewire service⟩ :=
    .single idle (.rewire attended) rfl rfl
  exact rewired.trans (recordAndReload_arrives rewired.idle _)

theorem stepTo_arrives (time : Option Schedule) :
    Arrives allowed ⟨held, s⟩ ⟨held, (s.stepTo time).1⟩ := by
  cases time with
  | none => exact .refl idle
  | some time =>
      have handed : Arrives allowed ⟨held, s⟩ ⟨held, { s with handed := s.handed ++ [time] }⟩ :=
        .single idle (.aside ⟨rfl, rfl, rfl, rfl, rfl⟩) rfl rfl
      rw [stepTo, answer_fst]
      unfold activateTime
      split
      · exact activate_arrives attended idle _
      · exact handed
      · exact handed.trans (activate_arrives attended handed.idle _)

end Foreground

theorem assign_arrives (idle : s.Idle) (index : Int) (type : Option DataType) :
    Arrives allowed ⟨held, s⟩ ⟨held, (s.assign index type).1⟩ := by
  unfold assign
  split
  · exact .single idle (.aside ⟨rfl, rfl, rfl, rfl, rfl⟩) rfl rfl
  · next assigned =>
    obtain ⟨_, _, _, _, _, _, rfl⟩ := Panel.assign_eq_ok assigned
    refine .single idle (.aside ?_) rfl rfl
    exact ⟨rfl, rfl, rfl, rfl, rfl⟩

/-- Every operation is a sequence of turns. -/
theorem perform_arrives {operation : Operation} (ok : allowed operation) (sound : Sound [] s)
    (idle : s.Idle) : Arrives allowed ⟨[], s⟩ ⟨[], (s.perform operation).1⟩ := by
  have attended : operation.isForeground = true → Attended allowed := fun own =>
    ⟨operation, ok, own⟩
  cases operation with
  | activate coordinates =>
      rw [perform, answer_fst]
      exact activate_arrives (attended rfl) idle _
  | setService service =>
      rw [perform, answer_fst]
      exact setService_arrives (attended rfl) idle _
  | load =>
      rw [perform, answer_fst]
      exact reload_arrives idle
  | stepForward | stepBackward => exact stepTo_arrives (attended rfl) idle _
  | assign index type => exact assign_arrives idle _ _
  | add service key emulator => exact .single idle (.keep (.inl ok)) rfl rfl
  | complete service key emulator =>
      -- The emulator is kept before the requests are finished with it.
      have kept : Turn allowed ⟨[], s⟩ ⟨[], _⟩ := .keep (.inr ok)
      exact (Arrives.single idle kept rfl rfl).trans
        (finishKey_arrives ok (sound.turn kept) idle (offers_keep s service key emulator))
  | fail service key failure =>
      exact finishKey_arrives ok sound idle (offers_failed s service key failure)
  | cancel id =>
      show Arrives allowed ⟨[], s⟩ ⟨[], (s.cancel id).1⟩
      unfold cancel
      split
      · next outstanding =>
        obtain ⟨request, found, _⟩ := Option.map_eq_some_iff.mp outstanding
        exact settle_arrives idle found (.cancel ok outstanding)
      · exact .refl idle
  | evict service key => exact .single idle (.evict ok) rfl rfl
  | provide service key outcome =>
      show Arrives allowed ⟨[], s⟩ ⟨[], s.updateService service (Service.provide key outcome)⟩
      obtain ⟨book, manual⟩ := sound.filed.manual service
      -- Only a pool can be provided with anything.
      rw [updateService_eq_self (by rw [manual]; rfl)]
      exact .refl idle
  | release service =>
      show Arrives allowed ⟨[], s⟩ ⟨[], (s.release service).1⟩
      obtain ⟨book, manual⟩ := sound.filed.manual service
      -- Only a pool has a worker.
      rw [release, manual]
      exact .refl idle
  | write memory varnode content =>
      rw [perform, answer_fst]
      unfold write
      split
      · exact .refl idle
      · exact .single idle (.aside ⟨rfl, rfl, rfl, rfl, rfl⟩) rfl rfl
  | drain => exact drain_arrives sound idle
  | clearLog => exact .single idle (.aside ⟨rfl, rfl, rfl, rfl, rfl⟩) rfl rfl

/-- Every run is a sequence of turns. -/
theorem performAll_arrives {operations : List Operation} (sound : Sound [] s) (idle : s.Idle)
    (ok : ∀ operation ∈ operations, allowed operation) :
    Arrives allowed ⟨[], s⟩ ⟨[], s.performAll operations⟩ := by
  induction operations generalizing s with
  | nil => exact .refl idle
  | cons operation operations ih =>
      have arrives := perform_arrives (ok operation List.mem_cons_self) sound idle
      exact arrives.trans (ih (arrives.turns.sound sound) arrives.idle
        fun other later => ok other (List.mem_cons_of_mem _ later))

/-- At the start nothing has been asked for. -/
theorem IsStart.getElem?_requests (start : s.IsStart) (id : RequestId) :
    s.requests[id]? = none := by
  obtain ⟨config, service, delivery, manager, catalog, log, memories, rfl⟩ := start.eq
  rfl

theorem IsStart.arrives (start : s.IsStart) (operations : List Operation) :
    Arrives (· ∈ operations) ⟨[], s⟩ ⟨[], s.performAll operations⟩ :=
  performAll_arrives start.sound start.idle fun _ listed => listed

end Turns

end Session

end PcodePanel
