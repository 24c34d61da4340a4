import Mathlib.Logic.Relation
import PcodePanel.Proofs.Session.Filing
import PcodePanel.Proofs.Session.Watching

/-!
# Moves

What an operation does to a session, in the smallest parts between which anything can be said: a
service takes up the requests for a key, one of them is finished, the panel is told of one of them.
A *moment* is a session together with the requests that a service is about to finish, which are
*held*. A request that is settled and delivered at once passes through the queue, which is empty
then.

* `Session.Move` — the moves, one constructor for each;
* `Session.Sound` — the invariant of all moves, of which other invariants make use;
* `Session.perform_leads` — a smooth operation is a sequence of moves;
* `Session.performAll_leads`, `Session.Moves.keep` — so is a smooth run, and it keeps what every
  move keeps.
-/

namespace PcodePanel

namespace Operation

/-- The operation that brings the requests for a key to an outcome. -/
def finishing (service : ServiceId) (key : EmulationKey) : Outcome → Operation
  | .emulated emulator => .complete service key emulator
  | .failed failure => .fail service key failure

/-- What is done to the panel, a memory or the log. Other operations are those of the services and
of the queue. -/
def isForeground : Operation → Bool
  | activate _ | setService _ | load | stepForward | stepBackward | assign .. | write ..
  | clearLog => true
  | add .. | complete .. | fail .. | cancel _ | evict .. | provide .. | release _ | drain => false

end Operation

namespace Session

/-- A session and the requests that are held. -/
structure Moment where
  held : List RequestId
  session : Session

/-- Something may be done in the foreground. -/
def Attended (allowed : Operation → Prop) : Prop :=
  ∃ operation, allowed operation ∧ operation.isForeground = true

/-- Nothing is done but to finish requests and to drain the queue. -/
def Unattended (allowed : Operation → Prop) : Prop :=
  ∀ operation, allowed operation → operation = .drain
    ∨ ∃ service key outcome, operation = .finishing service key outcome

namespace Unattended

variable {allowed : Operation → Prop} {service : ServiceId} {key : EmulationKey}

theorem not_attended (h : Unattended allowed) : ¬ Attended allowed := by
  rintro ⟨operation, ok, foreground⟩
  rcases h operation ok with rfl | ⟨_, _, outcome, rfl⟩
  · cases foreground
  · cases outcome <;> cases foreground

theorem not_add (h : Unattended allowed) {emulator : Emulator} :
    ¬ allowed (.add service key emulator) := by
  intro ok
  rcases h _ ok with same | ⟨_, _, outcome, same⟩
  · cases same
  · cases outcome <;> cases same

theorem not_evict (h : Unattended allowed) : ¬ allowed (.evict service key) := by
  intro ok
  rcases h _ ok with same | ⟨_, _, outcome, same⟩
  · cases same
  · cases outcome <;> cases same

theorem not_cancel (h : Unattended allowed) {id : RequestId} : ¬ allowed (.cancel id) := by
  intro ok
  rcases h _ ok with same | ⟨_, _, outcome, same⟩
  · cases same
  · cases outcome <;> cases same

end Unattended

/-- What requests are finished with is kept already, if it is an emulator. -/
def Offers (s : Session) (service : ServiceId) (key : EmulationKey) (outcome : Outcome) : Prop :=
  ∀ emulator, outcome = .emulated emulator → (s.services service).cached? key = some emulator

/-- The queue is empty if requests are delivered at once. -/
def Idle (s : Session) : Prop :=
  s.delivery.runsAtOnce false = true → s.queue = []

/-- The smallest things that happen to a session. `allowed` limits the operations that they are
part of. -/
inductive Move (allowed : Operation → Prop) : Moment → Moment → Prop
  /-- What no panel, service or request depends on. -/
  | aside {held s catalog log memories handed failures} : Attended allowed →
      Move allowed ⟨held, s⟩ ⟨held, { s with catalog, log, memories, handed, failures }⟩
  /-- The stack level is taken over. -/
  | refresh {held s coordinates} : Attended allowed → s.panel.current.sameAs coordinates = true →
      Move allowed ⟨held, s⟩ ⟨held, { s with panel := { s.panel with current := coordinates } }⟩
  | assign {held s position entry updated} : Attended allowed → s.panel.source ≠ none →
      s.panel.uniques[position]? = some entry → updated.subject = entry.subject →
      Move allowed ⟨held, s⟩
        ⟨held, { s with panel :=
          { s.panel with uniques := s.panel.uniques.set position updated } }⟩
  | keep {held s service key emulator} :
      allowed (.add service key emulator) ∨ allowed (.complete service key emulator) →
      Move allowed ⟨held, s⟩
        ⟨held, s.updateService service (Service.keep key (some emulator))⟩
  | evict {held s service key} : allowed (.evict service key) →
      Move allowed ⟨held, s⟩ ⟨held, s.updateService service (Service.keep key none)⟩
  | takeUp {s service key outcome} : allowed (.finishing service key outcome) →
      Move allowed ⟨[], s⟩
        ⟨(s.services service).waitingFor key, s.updateService service (Service.takeUp key)⟩
  /-- One of those held is settled already, and the others are given up with it. -/
  | giveUp {held s id} : id ∈ held → s.stateOf id ≠ some .outstanding →
      Move allowed ⟨held, s⟩ ⟨[], s⟩
  | finish {held s id outcome} : s.stateOf id = some .outstanding →
      (∀ request, s.requests[id]? = some request →
        allowed (.finishing request.service request.coordinates.key outcome)
          ∧ s.Offers request.service request.coordinates.key outcome) → s.Idle →
      Move allowed ⟨id :: held, s⟩
        ⟨held, { s.mark id (.finished outcome) with queue := s.queue ++ [id] }⟩
  | cancel {held s id} : allowed (.cancel id) → s.stateOf id = some .outstanding → s.Idle →
      Move allowed ⟨held, s⟩ ⟨held, { s.mark id .cancelled with queue := s.queue ++ [id] }⟩
  | load {held s s'} : Attended allowed → Reloaded s s' → Move allowed ⟨held, s⟩ ⟨held, s'⟩
  | focus {held s s' coordinates log} : Attended allowed →
      s.panel.current.sameAs coordinates = false →
      Reloaded
        { s with
          log
          panel :=
            { s.panel with
              previous := s.panel.current, current := coordinates
              generation := s.panel.generation + 1 } } s' →
      Move allowed ⟨held, s⟩ ⟨held, s'⟩
  | rewire {held s s' service log} : Attended allowed →
      Reloaded
        { s with
          log
          panel :=
            { s.panel with service, pending := none, generation := s.panel.generation + 1 } } s' →
      Move allowed ⟨held, s⟩ ⟨held, s'⟩
  | deliver {held s s' id rest} : s.queue = id :: rest →
      Delivered { s with queue := rest } id s' → Move allowed ⟨held, s⟩ ⟨held, s'⟩

/-- Moves one after the other. -/
abbrev Moves (allowed : Operation → Prop) : Moment → Moment → Prop :=
  Relation.ReflTransGen (Move allowed)

/-! ## The invariant of all moves -/

/-- Requests are filed with their services and watched by the panel. -/
structure Sound (held : List RequestId) (s : Session) : Prop where
  filed : Filed held s.services s.requests
  watched : Watched s

theorem IsStart.sound {s : Session} (h : s.IsStart) : Sound [] s := by
  obtain ⟨config, service, delivery, manager, catalog, log, memories, rfl⟩ := h.eq
  refine ⟨filed_empty, ?_, ?_, ?_, ?_, ?_, List.nodup_nil⟩
  · intro id request found
    simp at found
  · intro id request found
    simp at found
  · intro id waits
    cases waits
  · intro id request found
    simp at found
  · intro id queued
    exact absurd queued List.not_mem_nil

theorem IsStart.queue_eq {s : Session} (h : s.IsStart) : s.queue = [] := by
  obtain ⟨config, service, delivery, manager, catalog, log, memories, rfl⟩ := h.eq
  rfl

theorem IsStart.idle {s : Session} (h : s.IsStart) : s.Idle :=
  fun _ => h.queue_eq

variable {held held' : List RequestId} {s s' : Session}

theorem Filed.reloaded (h : Filed held s.services s.requests) (reloaded : Reloaded s s') :
    Filed held s'.services s'.requests := by
  cases reloaded with
  | nothing | placeholder | display | wait => exact h
  | @ask service log plan =>
      have outstanding : Request.state ⟨s.panel.current, s.panel.generation, service,
        .outstanding⟩ = .outstanding := rfl
      exact h.issue outstanding

theorem Filed.delivered {id : RequestId} (h : Filed held s.services s.requests)
    (delivered : Delivered s id s') : Filed held s'.services s'.requests := by
  cases delivered with
  | failed =>
      rw [forget_eq]
      exact h
  | applied => exact h
  | stale _ _ reloaded =>
      refine Filed.reloaded ?_ reloaded
      rw [forget_eq]
      exact h

theorem Sound.move {allowed : Operation → Prop} (h : Sound held s)
    (move : Move allowed ⟨held, s⟩ ⟨held', s'⟩) : Sound held' s' := by
  obtain ⟨filed, watched⟩ := h
  have same := Coordinates.sameAs_self s.panel.current
  cases move with
  | aside => exact ⟨filed, watched.congr rfl same rfl rfl rfl rfl⟩
  | refresh _ sameAs => exact ⟨filed, watched.congr rfl sameAs rfl rfl rfl rfl⟩
  | assign => exact ⟨filed, watched.congr rfl same rfl rfl rfl rfl⟩
  | keep => exact ⟨filed.keep _ _ _, watched.congr rfl same rfl rfl rfl rfl⟩
  | evict => exact ⟨filed.keep _ _ _, watched.congr rfl same rfl rfl rfl rfl⟩
  | takeUp => exact ⟨filed.takeUp _ _, watched.congr rfl same rfl rfl rfl rfl⟩
  | giveUp => exact ⟨filed.giveUp, watched⟩
  | finish outstanding =>
      exact ⟨filed.settle (List.sublist_cons_self ..) fun _ => rfl,
        watched.settle outstanding nofun⟩
  | cancel _ outstanding =>
      refine ⟨filed.settle (List.Sublist.refl _) ?_, watched.settle outstanding nofun⟩
      rintro ⟨outcome, finished⟩
      cases finished
  | load _ reloaded => exact ⟨filed.reloaded reloaded, watched.reloaded reloaded⟩
  | focus _ _ reloaded =>
      refine ⟨Filed.reloaded ?_ reloaded, Watched.reloaded ?_ reloaded⟩
      · exact filed
      · exact watched.advance rfl (.inl rfl) rfl rfl
  | rewire _ reloaded =>
      refine ⟨Filed.reloaded ?_ reloaded, Watched.reloaded ?_ reloaded⟩
      · exact filed
      · exact watched.advance rfl (.inr rfl) rfl rfl
  | deliver queue delivered =>
      refine ⟨Filed.delivered ?_ delivered, watched.delivered queue delivered⟩
      exact filed

/-! ## What moves leave alone -/

section Moves

variable {allowed : Operation → Prop}

/-- A request is never rewritten, but for what has become of it. -/
theorem Move.request {id : RequestId} {request : Request}
    (move : Move allowed ⟨held, s⟩ ⟨held', s'⟩) (found : s.requests[id]? = some request) :
    ∃ request', s'.requests[id]? = some request' ∧ request'.service = request.service
      ∧ request'.coordinates = request.coordinates
      ∧ request'.generation = request.generation := by
  have marked : ∀ (other : RequestId) (state : RequestState), ∃ request',
      (s.mark other state).requests[id]? = some request' ∧ request'.service = request.service
        ∧ request'.coordinates = request.coordinates
        ∧ request'.generation = request.generation := by
    intro other state
    rw [getElem?_mark, found]
    split <;> exact ⟨_, rfl, rfl, rfl, rfl⟩
  cases move with
  | aside | refresh | assign | keep | evict | takeUp | giveUp =>
      exact ⟨request, found, rfl, rfl, rfl⟩
  | finish => exact marked _ _
  | cancel => exact marked _ _
  | load _ reloaded | focus _ _ reloaded | rewire _ reloaded =>
      exact ⟨request, reloaded.undisturbed.getElem? found, rfl, rfl, rfl⟩
  | deliver _ delivered => exact ⟨request, delivered.undisturbed.getElem? found, rfl, rfl, rfl⟩

/-- The settings stay as they are. -/
theorem Move.settings (move : Move allowed ⟨held, s⟩ ⟨held', s'⟩) :
    s'.config = s.config ∧ s'.delivery = s.delivery := by
  cases move with
  | aside | refresh | assign | keep | evict | takeUp | giveUp | finish | cancel =>
      exact ⟨rfl, rfl⟩
  | load _ reloaded | focus _ _ reloaded | rewire _ reloaded =>
      exact ⟨reloaded.undisturbed.config, reloaded.undisturbed.delivery⟩
  | deliver _ delivered => exact ⟨delivered.undisturbed.config, delivered.undisturbed.delivery⟩

/-- What every move keeps, a sequence of moves keeps. -/
theorem Moves.keep {P : List RequestId → Session → Prop} {m m' : Moment}
    (step : ∀ {held s held' s'}, Sound held s → Move allowed ⟨held, s⟩ ⟨held', s'⟩ → P held s →
      P held' s') (moves : Moves allowed m m') (sound : Sound m.held m.session)
    (first : P m.held m.session) : P m'.held m'.session := by
  have both : Sound m'.held m'.session ∧ P m'.held m'.session := by
    induction moves with
    | refl => exact ⟨sound, first⟩
    | tail _ move ih => exact ⟨ih.1.move move, step ih.1 move ih.2⟩
  exact both.2

theorem Moves.sound {m m' : Moment} (moves : Moves allowed m m') (h : Sound m.held m.session) :
    Sound m'.held m'.session :=
  moves.keep (P := Sound) (fun _ move sound => sound.move move) h h

theorem Moves.settings {m m' : Moment} (moves : Moves allowed m m') :
    m'.session.config = m.session.config ∧ m'.session.delivery = m.session.delivery := by
  induction moves with
  | refl => exact ⟨rfl, rfl⟩
  | tail _ move ih =>
      obtain ⟨config, delivery⟩ := ih
      obtain ⟨config', delivery'⟩ := move.settings
      exact ⟨config'.trans config, delivery'.trans delivery⟩

theorem Moves.request {m m' : Moment} {id : RequestId} {request : Request}
    (moves : Moves allowed m m') (found : m.session.requests[id]? = some request) :
    ∃ request', m'.session.requests[id]? = some request' ∧ request'.service = request.service
      ∧ request'.coordinates = request.coordinates
      ∧ request'.generation = request.generation := by
  induction moves with
  | refl => exact ⟨request, found, rfl, rfl, rfl⟩
  | tail _ move ih =>
      obtain ⟨request', found', service, coordinates, generation⟩ := ih
      obtain ⟨request'', found'', service', coordinates', generation'⟩ := move.request found'
      exact ⟨request'', found'', service'.trans service, coordinates'.trans coordinates,
        generation'.trans generation⟩

/-- Moves to a session in which nothing is on its way that is delivered at once. -/
structure Leads (allowed : Operation → Prop) (m m' : Moment) : Prop where
  moves : Moves allowed m m'
  idle : m'.session.Idle

theorem Leads.trans {m₁ m₂ m₃ : Moment} (first : Leads allowed m₁ m₂)
    (second : Leads allowed m₂ m₃) : Leads allowed m₁ m₃ :=
  ⟨first.moves.trans second.moves, second.idle⟩

/-- A move that does not touch the queue. -/
theorem Leads.single {m m' : Moment} (idle : m.session.Idle) (move : Move allowed m m')
    (queue : m'.session.queue = m.session.queue) : Leads allowed m m' := by
  refine ⟨.single move, ?_⟩
  rw [Idle, queue, move.settings.2]
  exact idle

end Moves

/-! ## Operations are moves -/

section Operations

variable {allowed : Operation → Prop}

theorem delivered_of_queue {id : RequestId} {rest : List RequestId} (watched : Watched s)
    (queue : s.queue = id :: rest) (done : deliver { s with queue := rest } id = (s', none)) :
    Delivered { s with queue := rest } id s' := by
  obtain ⟨request, found, settled⟩ := watched.settled (queue ▸ List.mem_cons_self)
  refine delivered_of_deliver found settled ?_ done
  intro current
  obtain ⟨_, _, _, focused, _⟩ := watched.askable_of_isCurrent found current
  exact focused

/-- Settling is one move that lets the request into the queue and, if it is delivered at once,
another one that takes it out again. -/
theorem settle_leads {id : RequestId} {state : RequestState} (sound : Sound held s) (idle : s.Idle)
    (entered : Move allowed ⟨held, s⟩ ⟨held', { s.mark id state with queue := s.queue ++ [id] }⟩)
    (smooth : s.SettlesSmoothly id state) :
    Leads allowed ⟨held, s⟩ ⟨held', s.settle false id state⟩
      ∧ ∀ service, ((s.settle false id state).services service).cached?
        = (s.services service).cached? := by
  rw [settle_eq]
  split
  · next atOnce =>
    -- The request enters an empty queue, and the delivery takes it out again.
    have empty := idle atOnce
    have enters : { s.mark id state with queue := s.queue ++ [id] }.queue = [id] := by
      rw [empty]
      rfl
    have done : deliver { s.mark id state with queue := [] } id
        = (((s.mark id state).deliver id).1, none) := by
      rw [← empty]
      exact Prod.ext rfl (smooth atOnce)
    have told := delivered_of_queue (sound.move entered).watched enters done
    refine ⟨⟨.tail (.single entered) (.deliver enters told), ?_⟩, ?_⟩
    · intro _
      exact told.undisturbed.queue
    · exact told.undisturbed.cached
  · next later =>
    refine ⟨⟨.single entered, fun atOnce => absurd atOnce later⟩, fun _ => rfl⟩

theorem finishAll_leads {service : ServiceId} {key : EmulationKey} {outcome : Outcome}
    (ok : allowed (.finishing service key outcome)) :
    ∀ (ids : List RequestId) (s : Session), Sound ids s → s.Idle → s.Offers service key outcome →
      (∀ id ∈ ids, ∃ request, s.requests[id]? = some request ∧ request.service = service
        ∧ request.coordinates.key = key) →
      s.FinishesSmoothly outcome ids →
      Leads allowed ⟨ids, s⟩ ⟨[], (s.finishAll outcome ids).1⟩ := by
  intro ids
  -- The induction is on the requests that are held. Those behind the first keep their service and
  -- their key while it is finished.
  induction ids with
  | nil =>
      intro s _ idle _ _ _
      exact ⟨.refl, idle⟩
  | cons id ids ih =>
      intro s sound idle offers own smooth
      unfold finishAll
      split
      · next outstanding =>
        obtain ⟨settles, rest⟩ := smooth outstanding
        have entered : Move allowed ⟨id :: ids, s⟩
            ⟨ids, { s.mark id (.finished outcome) with queue := s.queue ++ [id] }⟩ := by
          refine .finish outstanding ?_ idle
          intro request found
          obtain ⟨request', found', sameService, sameKey⟩ := own id List.mem_cons_self
          rw [found] at found'
          injection found' with same
          rw [same, sameService, sameKey]
          exact ⟨ok, offers⟩
        obtain ⟨settled, cached⟩ := settle_leads sound idle entered settles
        refine settled.trans (ih _ (settled.moves.sound sound) settled.idle ?_ ?_ rest)
        · intro emulator emulated
          rw [cached]
          exact offers emulator emulated
        · intro other isHeld
          obtain ⟨request, found, sameService, sameKey⟩ :=
            own other (List.mem_cons_of_mem _ isHeld)
          obtain ⟨request', found', service', coordinates', _⟩ := settled.moves.request found
          exact ⟨request', found', service'.trans sameService, coordinates' ▸ sameKey⟩
      · next closed => exact .single idle (.giveUp List.mem_cons_self closed) rfl

theorem answer_fst (result : Session × Option Fault) (reply : Session → Reply) :
    (answer result reply).1 = result.1 := by
  obtain ⟨s, fault⟩ := result
  cases fault <;> rfl

theorem answer_isOk {result : Session × Option Fault} {reply : Session → Reply}
    (ok : (answer result reply).2.isOk = true) : result.2 = none := by
  obtain ⟨s, fault⟩ := result
  cases fault with
  | none => rfl
  | some fault => cases ok

/-- What a service does to finish the requests for a key, from where it has taken them up. -/
theorem finishTaken_leads {service : ServiceId} {key : EmulationKey} {outcome : Outcome}
    (ok : allowed (.finishing service key outcome)) (sound : Sound [] s) (idle : s.Idle)
    (offers : s.Offers service key outcome)
    (smooth : s.KeyFinishesSmoothly service key outcome) :
    Leads allowed
      ⟨(s.services service).waitingFor key, s.updateService service (Service.takeUp key)⟩
      ⟨[], (s.finishKey service key outcome).1⟩ := by
  rw [finishKey, answer_fst]
  refine finishAll_leads ok _ _ (sound.move (.takeUp ok)) idle ?_ ?_ smooth
  · intro emulator emulated
    rw [services_updateService, cached?_set_takeUp]
    exact offers emulator emulated
  · intro id listed
    obtain ⟨request, found, sameService, sameKey, _⟩ := sound.filed.listed listed
    exact ⟨request, found, sameService, sameKey⟩

theorem finishKey_leads {service : ServiceId} {key : EmulationKey} {outcome : Outcome}
    (ok : allowed (.finishing service key outcome)) (sound : Sound [] s) (idle : s.Idle)
    (offers : s.Offers service key outcome)
    (smooth : s.KeyFinishesSmoothly service key outcome) :
    Leads allowed ⟨[], s⟩ ⟨[], (s.finishKey service key outcome).1⟩ :=
  (Leads.single idle (.takeUp ok) rfl).trans (finishTaken_leads ok sound idle offers smooth)

/-- What is kept when a key is completed is what its requests are finished with. -/
theorem offers_keep (s : Session) (service : ServiceId) (key : EmulationKey)
    (emulator : Emulator) :
    (s.updateService service (Service.keep key (some emulator))).Offers service key
      (.emulated emulator) := by
  intro other same
  injection same with same
  rw [services_updateService, cached?_set_keep, if_pos ⟨rfl, rfl⟩, same]

theorem offers_failed (s : Session) (service : ServiceId) (key : EmulationKey)
    (failure : Failure) : s.Offers service key (.failed failure) := nofun

/-- A smooth drain empties the queue. -/
theorem drainIds_moves : ∀ (ids : List RequestId) (s : Session) (count : Nat), s.queue = ids →
    Sound [] s → (s.drainIds count ids).2.isOk = true →
    Moves allowed ⟨[], s⟩ ⟨[], (s.drainIds count ids).1⟩
      ∧ (s.drainIds count ids).1.queue = [] := by
  intro ids
  -- The queue is the list that is left to drain, since a delivery adds nothing to it.
  induction ids with
  | nil =>
      intro s count queue _ _
      exact ⟨.refl, queue⟩
  | cons id ids ih =>
      intro s count queue sound smooth
      unfold drainIds at smooth ⊢
      split at smooth
      · next s' done =>
        have told := delivered_of_queue sound.watched queue done
        have moved : Move allowed ⟨[], s⟩ ⟨[], s'⟩ := .deliver queue told
        obtain ⟨moves, empty⟩ :=
          ih s' (count + 1) told.undisturbed.queue (sound.move moved) smooth
        exact ⟨.head moved moves, empty⟩
      · simp [Except.isOk, Except.toBool] at smooth

theorem perform_drain (s : Session) :
    s.perform .drain = (s.drain.1, s.drain.2.map Reply.count) := by
  rw [perform]
  cases s.drain with
  | mk s' result => cases result <;> rfl

theorem drain_moves (sound : Sound [] s) (smooth : s.Smooth .drain) :
    Moves allowed ⟨[], s⟩ ⟨[], (s.perform .drain).1⟩ ∧ (s.perform .drain).1.queue = [] := by
  have done : s.drain.2.isOk = true := by
    rw [Smooth, perform_drain] at smooth
    cases drained : s.drain.2 with
    | ok count => rfl
    | error fault =>
        rw [drained] at smooth
        cases smooth
    all_goals exact nofun
  rw [perform_drain]
  exact drainIds_moves s.queue s 0 rfl sound done

section Foreground

variable (attended : Attended allowed) (idle : s.Idle)
include attended idle

theorem activate_leads {coordinates : Coordinates} (smooth : (s.activate coordinates).2 = none) :
    Leads allowed ⟨held, s⟩ ⟨held, (s.activate coordinates).1⟩ := by
  by_cases same : s.panel.current.sameAs coordinates = true
  · rw [activate_of_sameAs same]
    exact .single idle (.refresh attended same) rfl
  · have other := Bool.eq_false_iff.mpr same
    obtain ⟨log, reloaded⟩ := reloaded_of_activate other smooth
    exact .single idle (.focus attended other reloaded) reloaded.undisturbed.queue

theorem setService_leads {service : Option ServiceId}
    (smooth : (s.setService service).2 = none) :
    Leads allowed ⟨held, s⟩ ⟨held, (s.setService service).1⟩ := by
  obtain ⟨log, reloaded⟩ := reloaded_of_setService smooth
  exact .single idle (.rewire attended reloaded) reloaded.undisturbed.queue

theorem stepTo_leads {time : Option Schedule} (smooth : (s.stepTo time).2.isOk = true) :
    Leads allowed ⟨held, s⟩ ⟨held, (s.stepTo time).1⟩ := by
  cases time with
  | none => exact ⟨.refl, idle⟩
  | some time =>
      have done := answer_isOk smooth
      rw [stepTo, answer_fst]
      unfold activateTime at done ⊢
      split at done
      · exact activate_leads attended idle done
      · exact .single idle (.aside attended) rfl
      · have handed : Leads allowed ⟨held, s⟩ ⟨held, { s with handed := s.handed ++ [time] }⟩ :=
          .single idle (.aside attended) rfl
        exact handed.trans (activate_leads attended handed.idle done)

theorem assign_leads {index : Int} {type : Option DataType} :
    Leads allowed ⟨held, s⟩ ⟨held, (s.assign index type).1⟩ := by
  unfold assign
  split
  · exact .single idle (.aside attended) rfl
  · next entry panel catalog done =>
    obtain ⟨source, position, old, loaded, found, assigned, rfl⟩ := Panel.assign_eq_ok done
    have changed : Move allowed ⟨held, s⟩ _ := .assign attended (by rw [loaded]; exact nofun)
      found (Unique.Entry.subject_assign assigned)
    exact ⟨.tail (.single changed) (.aside attended), idle⟩

end Foreground

theorem updateService_eq_self {service : ServiceId} {change : Service → Service}
    (same : change (s.services service) = s.services service) :
    s.updateService service change = s := by
  have unchanged : s.services.set service (s.services service) = s.services := by
    funext other
    by_cases here : other = service
    · rw [here, Table.set_same]
    · rw [Table.set_of_ne _ _ here]
  rw [updateService, same, unchanged]

theorem perform_leads {operation : Operation} (ok : allowed operation) (sound : Sound [] s)
    (idle : s.Idle) (smooth : s.Smooth operation) :
    Leads allowed ⟨[], s⟩ ⟨[], (s.perform operation).1⟩ := by
  have attended : operation.isForeground = true → Attended allowed := fun own =>
    ⟨operation, ok, own⟩
  cases operation with
  | activate coordinates =>
      rw [perform, answer_fst]
      exact activate_leads (attended rfl) idle (answer_isOk smooth)
  | setService service =>
      rw [perform, answer_fst]
      exact setService_leads (attended rfl) idle (answer_isOk smooth)
  | load =>
      rw [perform, answer_fst]
      have reloaded := reloaded_of_reload (Prod.ext rfl (answer_isOk smooth))
      exact .single idle (.load (attended rfl) reloaded) reloaded.undisturbed.queue
  | stepForward | stepBackward => exact stepTo_leads (attended rfl) idle smooth
  | assign index type => exact assign_leads (attended rfl) idle
  | add service key emulator => exact .single idle (.keep (.inl ok)) rfl
  | complete service key emulator =>
      -- The emulator is kept before the requests are finished with it.
      have kept : Move allowed ⟨[], s⟩ ⟨[], _⟩ := .keep (.inr ok)
      exact (Leads.single idle kept rfl).trans
        (finishKey_leads ok (sound.move kept) idle (offers_keep s service key emulator) smooth)
  | fail service key failure =>
      exact finishKey_leads ok sound idle (offers_failed s service key failure) smooth
  | cancel request =>
      show Leads allowed ⟨[], s⟩ ⟨[], (s.cancel request).1⟩
      unfold cancel
      split
      · next outstanding =>
        exact (settle_leads sound idle (.cancel ok outstanding idle) (smooth outstanding)).1
      · exact ⟨.refl, idle⟩
  | evict service key => exact .single idle (.evict ok) rfl
  | provide service key outcome =>
      show Leads allowed ⟨[], s⟩ ⟨[], s.updateService service (Service.provide key outcome)⟩
      obtain ⟨book, manual⟩ := sound.filed.manual service
      -- Only a pool can be provided with anything.
      rw [updateService_eq_self (by rw [manual]; rfl)]
      exact ⟨.refl, idle⟩
  | release service =>
      show Leads allowed ⟨[], s⟩ ⟨[], (s.release service).1⟩
      obtain ⟨book, manual⟩ := sound.filed.manual service
      -- Only a pool has a worker.
      rw [release, manual]
      exact ⟨.refl, idle⟩
  | write memory varnode content =>
      rw [perform, answer_fst]
      unfold write
      split
      · exact ⟨.refl, idle⟩
      · exact .single idle (.aside (attended rfl)) rfl
  | drain =>
      obtain ⟨moves, empty⟩ := drain_moves sound smooth
      exact ⟨moves, fun _ => empty⟩
  | clearLog => exact .single idle (.aside (attended rfl)) rfl

/-! ## Runs -/

/-- A smooth run is a sequence of moves. -/
theorem performAll_leads {operations : List Operation} (sound : Sound [] s) (idle : s.Idle)
    (ok : ∀ operation ∈ operations, allowed operation) (smooth : s.RunsSmoothly operations) :
    Leads allowed ⟨[], s⟩ ⟨[], s.performAll operations⟩ := by
  induction operations generalizing s with
  | nil => exact ⟨.refl, idle⟩
  | cons operation operations ih =>
      obtain ⟨first, rest⟩ := smooth
      have leads := perform_leads (ok operation List.mem_cons_self) sound idle first
      exact leads.trans (ih (leads.moves.sound sound) leads.idle
        (fun other later => ok other (List.mem_cons_of_mem _ later)) rest)

theorem IsStart.leads {operations : List Operation} (start : s.IsStart)
    (smooth : s.RunsSmoothly operations) :
    Leads (· ∈ operations) ⟨[], s⟩ ⟨[], s.performAll operations⟩ :=
  performAll_leads start.sound start.idle (fun _ listed => listed) smooth

end Operations

end Session

end PcodePanel
