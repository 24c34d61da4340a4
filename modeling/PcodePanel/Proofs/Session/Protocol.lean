import Mathlib.Data.List.Chain
import PcodePanel.Proofs.Session.Logging
import PcodePanel.Proofs.Session.Story

/-!
# The protocol of the log

What is logged in the course of a run tells the story of its requests: each is asked for once, and
answered at most once, after that. The generations in the log grow by one where a generation begins,
and nowhere else.

* `Session.Continues` — a story goes on with some events, to the books of a session;
* `Session.Booked.perform`, `Session.Booked.performAll` — the books are kept over every operation,
  and over every run;
* `Session.Protocol` — what a story says of the requests of a session;
* `Session.protocol_performAll` — the main result.
-/

namespace PcodePanel

namespace Session

open Mention

variable {story : List Mention} {due : List RequestId} {events : List Event} {s : Session}
  {id : RequestId}

/-- The story goes on with some events, and the books of the session are kept. -/
def Continues (story : List Mention) (events : List Event) (due : List RequestId) (s : Session) :
    Prop :=
  ∃ more : List Mention, more.map Mention.event = events ∧ Booked (story ++ more) due s

theorem Booked.continues (h : Booked story due s) : Continues story [] due s :=
  ⟨[], rfl, by rwa [List.append_nil]⟩

theorem Continues.trans {events' : List Event} {due' : List RequestId} {s' : Session}
    (first : Continues story events due s)
    (rest : ∀ story, Booked story due s → Continues story events' due' s') :
    Continues story (events ++ events') due' s' := by
  obtain ⟨more, rfl, booked⟩ := first
  obtain ⟨more', rfl, booked'⟩ := rest _ booked
  refine ⟨more ++ more', List.map_append, ?_⟩
  rwa [← List.append_assoc]

/-- One event, and then some more. -/
theorem Continues.cons {m : Mention} {s' : Session} (first : Booked (story ++ [m]) due s)
    (rest : ∀ story, Booked story due s → Continues story events due s') :
    Continues story (m.event :: events) due s' :=
  Continues.trans ⟨[m], rfl, first⟩ rest

/-! ## Loads -/

theorem Booked.reload (h : Booked story due s) (legible : s.panel.current.Legible) :
    Continues story s.reloadEvents due s.reload.1 := by
  unfold Session.reload reloadEvents
  cases s.plan with
  | nothing | placeholder | wait => exact Booked.continues (h.aside rfl rfl rfl)
  | display emulator =>
      obtain ⟨panel, focus, shown⟩ := s.clearLabel.showEmulator_eq emulator
      have booked : Booked story due (s.clearLabel.showEmulator emulator).1 := by
        rw [shown]
        exact h.aside rfl focus.generation focus.current
      exact Booked.continues booked
  | ask service =>
      dsimp only [follow]
      rw [record_of_legible (s := s.clearLabel.showPlaceholder .loading .loading none) legible]
      have recorded : Booked story due
          { s.clearLabel.showPlaceholder .loading .loading none with
            log := s.log.map (·.record (s.event "request" "")) } :=
        h.aside rfl rfl rfl
      exact ⟨[_], rfl, recorded.issue service⟩

/-- A generation begins with an event, and then the panel reloads. -/
theorem Booked.recordAndReload (h : Booked story due s) {t : Session} {name : String}
    (legible : t.panel.current.Legible) (opens : (t.event name "").opens = true)
    (requests : t.requests = s.requests)
    (generation : t.panel.generation = s.panel.generation + 1) :
    Continues story (t.recordAndReloadEvents name) due (t.recordAndReload name).1 := by
  have opened : Booked (story ++ [⟨t.event name "", none⟩]) due
      { t with log := t.log.map (·.record (t.event name "")) } :=
    h.opens opens rfl requests generation
  unfold Session.recordAndReload
  rw [record_of_legible legible]
  exact Continues.cons opened fun _ booked => booked.reload legible

theorem Booked.activate (h : Booked story due s) {c : Coordinates} (legible : c.Legible) :
    Continues story (s.activateEvents c) due (s.activate c).1 := by
  unfold Session.activate activateEvents
  split
  · next same => exact Booked.continues (h.congr rfl rfl same)
  · exact h.recordAndReload (t := s.focusOn c) legible rfl rfl rfl

/-! ## Settled requests -/

/-- The panel is told of a request that is due. -/
theorem Booked.deliver (h : Booked story (id :: due) s) (legible : s.panel.current.Legible) :
    Continues story (s.deliverEvents id) due (s.deliver id).1 := by
  obtain ⟨request, found, settled⟩ := (h.settled id).mp (by simp)
  have forgotten : Booked story (id :: due) (s.forget id) := by
    rw [forget_eq]
    exact h.aside rfl rfl rfl
  have found' : (s.forget id).requests[id]? = some request := by rwa [forget_eq]
  have legible' : (s.forget id).panel.current.Legible := by rwa [forget_eq]
  unfold Session.deliver deliverEvents
  rw [found]
  dsimp only
  generalize s.forget id = s at forgotten found' legible' ⊢
  have answered : ∀ name detail : String, (s.event name detail).Reports request →
      Booked (story ++ [⟨s.event name detail, some id⟩]) due s :=
    fun _ _ reports => forgotten.answer found' reports rfl
  split
  · next current =>
    obtain ⟨uncancelled, generation, sameAs⟩ := isCurrent_iff.mp current
    have names : ∀ name detail : String, (s.event name detail).Names request :=
      fun _ _ => ⟨generation.symm, Coordinates.shown_of_sameAs (Coordinates.sameAs_symm sameAs)⟩
    unfold takeOver
    cases state : request.state with
    | outstanding => exact absurd state settled
    | cancelled => exact absurd state uncancelled
    | finished outcome =>
        cases outcome with
        | failed failure =>
            have booked := answered "failed" failure.text (.failed failure rfl (names ..) state rfl)
            dsimp only
            rw [record_of_legible
              (s := { s with failures := s.failures ++ [request.coordinates.time] }) legible']
            exact ⟨[_], rfl, booked.aside rfl rfl rfl⟩
        | emulated emulator =>
            have booked := answered "apply" "" (.apply emulator rfl (names ..) state)
            dsimp only
            rw [record_of_legible legible']
            dsimp only
            obtain ⟨panel, focus, shown⟩ := showEmulator_eq
              { s with log := s.log.map (·.record (s.event "apply" "")) } emulator
            rw [shown]
            exact ⟨[_], rfl, booked.aside rfl focus.generation focus.current⟩
  · next other =>
    have late : request.generation < s.panel.generation ∨ request.state = .cancelled := by
      by_contra neither
      obtain ⟨recent, uncancelled⟩ := not_or.mp neither
      have live := Int.le_antisymm (forgotten.generation_le found') (Int.not_lt.mp recent)
      exact other (isCurrent_iff.mpr ⟨uncancelled, live, forgotten.live found' live⟩)
    have booked := answered "stale" _ (.stale rfl settled rfl late)
    unfold dropStale
    rw [record_of_legible legible']
    dsimp only
    generalize s.log.map _ = log
    exact Continues.cons (s := setState { s with log } .stale)
      (booked.aside rfl rfl rfl) fun _ booked => booked.reload legible'

/-- Settling a request makes it due, and the panel may be told at once. -/
theorem Booked.settle (h : Booked story s.queue s) (legible : s.panel.current.Legible)
    (outstanding : s.stateOf id = some .outstanding) {state : RequestState}
    (settled : state ≠ .outstanding) (onWorker : Bool) :
    Continues story (s.settleEvents onWorker id state) (s.settle onWorker id state).queue
      (s.settle onWorker id state) := by
  have marked := h.mark outstanding settled
  rw [settle_eq, settleEvents]
  split
  · rw [(undisturbed_deliver (s.mark id state) id).queue]
    exact (marked.perm (List.perm_append_singleton id s.queue)).deliver legible
  · exact Booked.continues (marked.aside rfl rfl rfl)

theorem Booked.finishAll (h : Booked story s.queue s) (legible : s.panel.current.Legible)
    (outcome : Outcome) (ids : List RequestId) :
    Continues story (s.finishAllEvents outcome ids) (s.finishAll outcome ids).1.queue
      (s.finishAll outcome ids).1 := by
  induction ids generalizing s story with
  | nil => exact h.continues
  | cons id ids ih =>
      unfold Session.finishAll finishAllEvents
      split
      · next outstanding =>
        have legible' : (s.settle false id (.finished outcome)).panel.current.Legible := by
          rwa [current_settle]
        exact (h.settle legible outstanding RequestState.noConfusion false).trans
          fun _ booked => ih booked legible'
      · exact h.continues

theorem Booked.finishKey (h : Booked story s.queue s) (legible : s.panel.current.Legible)
    (service : ServiceId) (key : EmulationKey) (outcome : Outcome) :
    Continues story (s.finishKeyEvents service key outcome)
      (s.finishKey service key outcome).1.queue (s.finishKey service key outcome).1 := by
  have taken : Booked story s.queue (s.updateService service (Service.takeUp key)) :=
    h.aside rfl rfl rfl
  rw [Session.finishKey, answer_fst]
  exact Booked.finishAll (s := s.updateService service (Service.takeUp key)) taken legible _ _

theorem Booked.cancel (h : Booked story s.queue s) (legible : s.panel.current.Legible) :
    Continues story (s.cancelEvents id) (s.cancel id).1.queue (s.cancel id).1 := by
  unfold Session.cancel cancelEvents
  split
  · next outstanding => exact h.settle legible outstanding RequestState.noConfusion false
  · exact h.continues

theorem Booked.finishOnWorker (h : Booked story s.queue s) (legible : s.panel.current.Legible)
    (outstanding : s.stateOf id = some .outstanding) (service : ServiceId) (key : EmulationKey)
    (outcome : Outcome) :
    Continues story (s.finishOnWorkerEvents service id key outcome)
      (s.finishOnWorker service id key outcome).queue
      (s.finishOnWorker service id key outcome) := by
  cases outcome with
  | failed failure => exact h.settle legible outstanding RequestState.noConfusion true
  | emulated emulator =>
      have kept : Booked story s.queue
          (s.updateService service (Service.keep key (some emulator))) :=
        h.aside rfl rfl rfl
      exact Booked.settle (s := s.updateService service (Service.keep key (some emulator))) kept
        legible outstanding RequestState.noConfusion true

/-- A worker finishes only what is outstanding. -/
theorem Booked.release (h : Booked story s.queue s) (legible : s.panel.current.Legible)
    (service : ServiceId) :
    Continues story (s.releaseEvents service) (s.release service).1.queue
      (s.release service).1 := by
  unfold Session.release releaseEvents
  cases s.services service with
  | manual book => exact h.continues
  | pool pool =>
      dsimp only
      cases left : pool.waiting.dropWhile (s.stateOf · ≠ some .outstanding) with
      | nil => exact h.continues
      | cons id ids =>
          have outstanding : s.stateOf id = some .outstanding := by
            have first := List.head_dropWhile_not (s.stateOf · ≠ some .outstanding)
              (l := pool.waiting) (by rw [left]; exact List.cons_ne_nil id ids)
            simp only [left, List.head_cons] at first
            simpa using first
          have taken : Booked story s.queue
              (s.updateService service fun _ => .pool { pool with waiting := ids }) :=
            h.aside rfl rfl rfl
          have same : (s.updateService service
              fun _ => .pool { pool with waiting := ids }).requests[id]? = s.requests[id]? := rfl
          dsimp only
          rw [same]
          cases s.requests[id]? with
          | none => exact taken.continues
          | some request =>
              exact Booked.finishOnWorker
                (s := s.updateService service fun _ => .pool { pool with waiting := ids })
                taken legible outstanding service _ _

/-- The panel is told of what is in the queue. -/
theorem Booked.drain {ids : List RequestId} (h : Booked story ids s)
    (legible : s.panel.current.Legible) (queue : s.queue = ids) (count : Nat) :
    Continues story (s.drainEvents ids) (s.drainIds count ids).1.queue
      (s.drainIds count ids).1 := by
  induction ids generalizing s story count with
  | nil =>
      refine Booked.continues ?_
      rw [drainIds, queue]
      exact h
  | cons id ids ih =>
      have taken : Booked story (id :: ids) { s with queue := ids } :=
        h.aside rfl rfl rfl
      have told := taken.deliver legible
      have undisturbed := undisturbed_deliver { s with queue := ids } id
      have legible' : (Session.deliver { s with queue := ids } id).1.panel.current.Legible := by
        rwa [undisturbed.current]
      have left := undisturbed.queue
      unfold drainIds drainEvents
      generalize Session.deliver { s with queue := ids } id = result at told legible' left ⊢
      obtain ⟨t, fault⟩ := result
      cases fault with
      | none => exact told.trans fun _ booked => ih booked legible' left (count + 1)
      | some fault =>
          rw [List.append_nil]
          exact left ▸ told

/-! ## Runs -/

theorem queue_activate (s : Session) (c : Coordinates) : (s.activate c).1.queue = s.queue := by
  unfold Session.activate
  split
  · rfl
  · exact ((s.focusOn c).undisturbed_recordAndReload "activate").queue

theorem Booked.stepTo (h : Booked story s.queue s) {time : Option Schedule}
    (legible : ∀ c, time.bind s.reaches? = some c → c.Legible) :
    Continues story (s.stepEvents time) (s.stepTo time).1.queue (s.stepTo time).1 := by
  cases time with
  | none => exact h.continues
  | some time =>
      have activated : ∀ s : Session, Booked story s.queue s →
          (s.panel.current.withTime time).Legible →
          Continues story (s.activateEvents (s.panel.current.withTime time))
            (s.activate (s.panel.current.withTime time)).1.queue
            (s.activate (s.panel.current.withTime time)).1 := by
        intro s h legible
        rw [queue_activate]
        exact h.activate legible
      have handed : Booked story s.queue { s with handed := s.handed ++ [time] } :=
        h.aside rfl rfl rfl
      have own := activated s h
      have other := activated { s with handed := s.handed ++ [time] } handed
      rw [Session.stepTo, answer_fst]
      obtain ⟨panel, config, delivery, manager, catalog, log, services, requests, queue, memories,
        times, failures⟩ := s
      cases manager with
      | none => exact own (legible _ rfl)
      | some manager =>
          cases manager with
          | record => exact Booked.continues handed
          | apply => exact other (legible _ rfl)

/-- The books are kept over every operation. -/
theorem Booked.perform {operation : Operation} (h : Booked story s.queue s)
    (legible : s.panel.current.Legible)
    (activated : ∀ c, s.activates? operation = some c → c.Legible) :
    Continues story (s.performEvents operation) (s.perform operation).1.queue
      (s.perform operation).1 := by
  cases operation with
  | activate c =>
      rw [Session.perform, answer_fst, queue_activate]
      exact h.activate (activated c rfl)
  | setService service =>
      have left := ((s.rewire service).undisturbed_recordAndReload "service").queue
      rw [Session.perform, answer_fst]
      show Continues story _ ((s.rewire service).recordAndReload "service").1.queue _
      rw [left]
      exact h.recordAndReload (t := s.rewire service) legible rfl rfl rfl
  | load =>
      rw [Session.perform, answer_fst, s.undisturbed_reload.queue]
      exact h.reload legible
  | stepForward | stepBackward => exact h.stepTo activated
  | assign index type =>
      show Continues story [] (s.assign index type).1.queue (s.assign index type).1
      unfold assign
      split
      · exact Booked.continues (h.aside rfl rfl rfl)
      · next assigned =>
        obtain ⟨_, _, _, _, _, _, rfl⟩ := Panel.assign_eq_ok assigned
        exact Booked.continues (h.aside rfl rfl rfl)
  | complete service key emulator =>
      have kept : Booked story s.queue
          (s.updateService service (Service.keep key (some emulator))) :=
        h.aside rfl rfl rfl
      exact Booked.finishKey (s := s.updateService service (Service.keep key (some emulator))) kept
        legible service key (.emulated emulator)
  | fail service key failure => exact h.finishKey legible service key (.failed failure)
  | cancel id => exact h.cancel legible
  | release service => exact h.release legible service
  | write memory varnode content =>
      rw [Session.perform, answer_fst]
      unfold write
      split
      · exact h.continues
      · exact Booked.continues (h.aside rfl rfl rfl)
  | drain =>
      rw [perform_drain]
      exact h.drain legible rfl 0
  | add | evict | provide | clearLog => exact Booked.continues (h.aside rfl rfl rfl)

/-- The books are kept over every run. -/
theorem Booked.performAll {operations : List Operation} (h : Booked story s.queue s)
    (legible : ∀ front, front <+: operations → (s.performAll front).panel.current.Legible) :
    Continues story (s.runEvents operations) (s.performAll operations).queue
      (s.performAll operations) := by
  induction operations generalizing s story with
  | nil => exact h.continues
  | cons operation operations ih =>
      have next : (s.perform operation).1.panel.current.Legible :=
        legible [operation] ⟨operations, rfl⟩
      rw [current_perform] at next
      have first := h.perform (legible [] List.nil_prefix)
        (fun c activates => by rwa [activates] at next)
      refine first.trans fun _ booked => ih booked fun front isFront => ?_
      exact legible (operation :: front) (List.cons_prefix_cons.mpr ⟨rfl, isFront⟩)

/-! ## The protocol -/

/-- What a story says of the requests of a session. -/
structure Protocol (story : List Mention) (s : Session) : Prop where
  /-- The generation grows by one where one begins, and nowhere else. -/
  grows : (story.map Mention.event).IsChain fun e e' =>
    e'.generation = e.generation + if e'.opens then 1 else 0
  first : ∀ m ∈ story.head?, m.event.generation = if m.event.opens then 1 else 0
  sorted : (story.map fun m => m.event.generation).Pairwise (· ≤ ·)
  /-- The requests are asked for in order, each once. -/
  asked : asked story = List.range s.requests.length
  named : ∀ m ∈ story, m.event.asks = true → ∃ id request, m.request = some id
    ∧ s.requests[id]? = some request ∧ m.event.Names request
  /-- No request is answered twice. -/
  once : (answered story).Nodup
  /-- What is answered has been asked for before; what is not stale, in this generation and for
  these coordinates. -/
  matched : ∀ {front : List Mention} {m : Mention}, front ++ [m] <+: story →
    m.event.answers = true → ∃ m' ∈ front, m'.event.asks = true ∧ m.request ≠ none
      ∧ m'.request = m.request
      ∧ (m.event.name ≠ "stale" → m'.event.generation = m.event.generation
        ∧ m'.event.coordinates = m.event.coordinates)
  /-- The answers say what has become of the requests. -/
  reported : ∀ m ∈ story, m.event.answers = true → ∃ id request, m.request = some id
    ∧ s.requests[id]? = some request ∧ m.event.Reports request
  answered_le : (story.map Mention.event).countP Event.answers
    ≤ (story.map Mention.event).countP Event.asks
  answered_eq_iff : (story.map Mention.event).countP Event.answers
      = (story.map Mention.event).countP Event.asks
    ↔ (∀ request ∈ s.requests, request.state ≠ .outstanding) ∧ s.queue = []

theorem Booked.grows (h : Booked story due s) :
    story.IsChain fun m m' =>
      m'.event.generation = m.event.generation + if m'.event.opens then 1 else 0 := by
  refine List.isChain_iff_forall_rel_of_append_cons_cons.mpr fun m m' front back split => ?_
  have here : front ++ [m] <+: story := ⟨m' :: back, by simp [split]⟩
  have next : (front ++ [m]) ++ [m'] <+: story := ⟨back, by simp [split]⟩
  rw [h.counted next, h.counted here, begun_concat, Int.natCast_add]
  split <;> rfl

theorem Booked.sorted (h : Booked story due s) :
    (story.map fun m => m.event.generation).Pairwise (· ≤ ·) := by
  refine List.isChain_iff_pairwise.mp (List.isChain_map_of_isChain _ (fun m m' grows => ?_) h.grows)
  rw [grows]
  split <;> omega

theorem Booked.matched (h : Booked story due s) {front : List Mention} {m : Mention}
    (isFront : front ++ [m] <+: story) (answers : m.event.answers = true) :
    ∃ m' ∈ front, m'.event.asks = true ∧ m.request ≠ none ∧ m'.request = m.request
      ∧ (m.event.name ≠ "stale" → m'.event.generation = m.event.generation
        ∧ m'.event.coordinates = m.event.coordinates) := by
  obtain ⟨id, request, about, found, reports⟩ :=
    h.reported m (isFront.subset (List.mem_append_right _ (List.mem_singleton_self m))) answers
  obtain ⟨m', before, asks, about'⟩ := mem_asked.mp (h.earlier isFront answers id about)
  obtain ⟨id', request', about'', found', names'⟩ :=
    h.named m' (isFront.subset (List.mem_append_left _ before)) asks
  -- Both are about one request.
  cases about'.symm.trans about''
  cases found.symm.trans found'
  refine ⟨m', before, asks, by simp [about], about'.trans about.symm, fun current => ?_⟩
  cases reports with
  | apply _ _ names | failed _ _ names =>
      exact ⟨names'.generation.trans names.generation.symm,
        names'.coordinates.trans names.coordinates.symm⟩
  | stale name => exact absurd name current

theorem Booked.protocol (h : Booked story s.queue s) : Protocol story s := by
  refine ⟨?_, ?_, h.sorted, h.asked, h.named, (List.nodup_append.mp h.once).1, h.matched,
    h.reported, ?_, ?_⟩
  · exact List.isChain_map_of_isChain Mention.event (fun _ _ grows => grows) h.grows
  · intro m first
    have alone : [] ++ [m] <+: story := by
      cases story with
      | nil => cases first
      | cons m' rest =>
          cases first
          exact ⟨rest, rfl⟩
    rw [h.counted alone, begun_concat, Int.natCast_add]
    cases m.event.opens <;> rfl
  · rw [← h.length_answered, ← h.length_asked]
    exact h.length_answered_le
  · rw [← h.length_answered, ← h.length_asked]
    exact h.length_answered_eq_iff

/-- **The log follows the protocol.** After every run in which events are logged and the log is not
full, there is a request to each event that is about one, such that: the generations grow by one at
each event that begins one, and nowhere else; each request is asked for once, by an event of its
generation and coordinates; each is answered at most once and after that, with its outcome by an
event of the same generation and coordinates, or as stale, in a later generation or because it was
cancelled. There are as many answers as requests just when every request is settled and the panel
has been told of all. -/
theorem protocol_performAll {config : Config} {service : Option ServiceId} {delivery : Delivery}
    {manager : Option Manager} {catalog : Catalog} {services : Table ServiceId Service}
    {new : Session} (memories : List Memory) {operations : List Operation}
    (created : create config service delivery manager catalog services = .ok new)
    (traced : config.trace = true)
    (legible : ∀ front, front <+: operations →
      (performAll { new with memories } front).panel.current.Legible)
    (uncleared : .clearLog ∉ operations)
    (fits : (runEvents { new with memories } operations).length ≤ config.capacity) :
    ∃ story : List Mention,
      (performAll { new with memories } operations).log
          = some { capacity := config.capacity.toNat, events := story.map Mention.event }
        ∧ Protocol story (performAll { new with memories } operations) := by
  have first : Booked [] [] { new with memories } := by
    rw [eq_of_create created]
    exact .empty rfl rfl
  have queue : new.queue = [] := by rw [eq_of_create created]
  obtain ⟨story, told, booked⟩ := Booked.performAll (s := { new with memories })
    (show Booked [] new.queue _ from queue.symm ▸ first) legible
  refine ⟨story, ?_, booked.protocol⟩
  have all : (runEvents { new with memories } operations).length - config.capacity.toNat = 0 := by
    omega
  rw [log_performAll memories created legible uncleared, Config.logOf, if_pos traced, all, told,
    List.drop_zero]

/-- A request is cancelled and asked again, the next fails, and the one after that is applied. -/
def Sample.reporting : List Operation :=
  [.activate (spot 1), .cancel 0, .drain, .activate (spot 2),
   .fail "S" (spot 2).key ⟨.runtime, ["boom"]⟩, .drain, .activate (spot 3),
   .complete "S" (spot 3).key (emulator 1), .drain]

/-- The second request is outstanding still. -/
theorem protocol_reporting : ∃ story : List Mention,
    story.map (fun m => (m.event.name, m.event.generation))
        = [("activate", 1), ("request", 1), ("stale", 1), ("request", 1), ("activate", 2),
           ("request", 2), ("failed", 2), ("activate", 3), ("request", 3), ("apply", 3)]
      ∧ Protocol story ((Sample.logged { trace := true }).performAll Sample.reporting) := by
  have legible : ∀ front ∈ Sample.reporting.inits,
      ((Sample.logged { trace := true }).performAll front).panel.current.Legible := by
    decide +kernel
  have created : create { trace := true } (some "S") .queued none .builtin (fun _ => .manual {})
      = .ok _ := rfl
  obtain ⟨story, log, protocol⟩ := protocol_performAll (Sample.start .queued).memories created rfl
    (fun front isFront => legible front ((List.mem_inits ..).mpr isFront)) (by decide)
    (by decide +kernel)
  have shown : (((Sample.logged { trace := true }).performAll Sample.reporting).log.map fun log =>
      log.events.map fun e => (e.name, e.generation))
        = some [("activate", 1), ("request", 1), ("stale", 1), ("request", 1), ("activate", 2),
          ("request", 2), ("failed", 2), ("activate", 3), ("request", 3), ("apply", 3)] := by
    decide +kernel
  refine ⟨story, ?_, protocol⟩
  change ((Sample.logged { trace := true }).performAll Sample.reporting).log = _ at log
  rw [log, Option.map_some, List.map_map] at shown
  exact Option.some.inj shown

end Session

end PcodePanel
