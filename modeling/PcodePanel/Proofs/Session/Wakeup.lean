import PcodePanel.Proofs.Session.Waiting

/-!
# No lost wake-up

A panel that is loading waits for a request of the live generation that the service that is set now
either lists still or has settled, so that it is in the queue. Bringing the key to an outcome and
draining the queue therefore wakes the panel, with one exception: a request that has failed already
is not taken up again, and what is behind it in the queue makes the panel ask once more.

* `Session.Awaits` — the request that a loading panel waits for, and where it is;
* `Session.Stocked`, `Session.Missing` — whether what the panel follows is kept;
* `Session.Expecting`, `Session.Overtaken` — the two ways to drain the queue where it is not;
* `Session.loading_wakes` — the main result.
-/

namespace PcodePanel

namespace Session

variable {service : ServiceId} {key : EmulationKey} {outcome : Outcome} {id : RequestId}
  {held held' rest : List RequestId} {s s' : Session}

/-! ## Settling one key -/

/-- The key is brought to an outcome and the queue is drained, and nothing else happens. -/
def Settling (service : ServiceId) (key : EmulationKey) (outcome : Outcome)
    (operation : Operation) : Prop :=
  operation = .drain ∨ operation = .finishing service key outcome

namespace Settling

theorem unattended : Unattended (Settling service key outcome) :=
  fun _ ok => ok.imp_right fun same => ⟨service, key, outcome, same⟩

theorem of_keep {other : ServiceId} {otherKey : EmulationKey} {emulator : Emulator}
    (ok : Settling service key outcome (.add other otherKey emulator)
      ∨ Settling service key outcome (.complete other otherKey emulator)) :
    other = service ∧ otherKey = key ∧ outcome = .emulated emulator := by
  rcases ok with ok | same | same
  · exact absurd ok unattended.not_add
  · cases same
  · cases outcome with
    | emulated =>
        cases same
        exact ⟨rfl, rfl, rfl⟩
    | failed => cases same

theorem of_finishing {other : ServiceId} {otherKey : EmulationKey} {otherOutcome : Outcome}
    (ok : Settling service key outcome (.finishing other otherKey otherOutcome)) :
    other = service ∧ otherKey = key := by
  rcases ok with same | same
  · cases otherOutcome <;> cases same
  · cases outcome <;> cases otherOutcome <;> cases same <;> exact ⟨rfl, rfl⟩

end Settling

/-- What happens from where a service has taken up the requests for a key to where it has brought
them to an outcome and the queue is drained. -/
theorem settling_moves (sound : Sound [] s) (idle : s.Idle) (offers : s.Offers service key outcome)
    (finishes : s.KeyFinishesSmoothly service key outcome)
    (drains : (s.finishKey service key outcome).1.Smooth .drain) :
    Moves (Settling service key outcome)
        ⟨(s.services service).waitingFor key, s.updateService service (Service.takeUp key)⟩
        ⟨[], ((s.finishKey service key outcome).1.perform .drain).1⟩
      ∧ ((s.finishKey service key outcome).1.perform .drain).1.queue = [] := by
  have ok : Settling service key outcome (.finishing service key outcome) := .inr rfl
  have taken : Sound _ (s.updateService service (Service.takeUp key)) := sound.move (.takeUp ok)
  have finished := (finishTaken_leads ok sound idle offers finishes).moves
  obtain ⟨drained, empty⟩ := drain_moves (finished.sound taken) drains
  exact ⟨finished.trans drained, empty⟩

/-! ## What is kept is shown -/

/-- What the panel follows is kept, and no request for it is listed. -/
structure Stocked (service : ServiceId) (key : EmulationKey) (s : Session) : Prop where
  live : s.panel.service = some service
  followed : s.panel.current.key = key
  kept : (s.services service).cached? key ≠ none
  unlisted : (s.services service).waitingFor key = []

namespace Stocked

theorem undisturbed (h : Stocked service key s) (undisturbed : Undisturbed s s')
    (services : s'.services = s.services) : Stocked service key s' := by
  obtain ⟨live, followed, kept, unlisted⟩ := h
  refine ⟨undisturbed.service.trans live, ?_, ?_, ?_⟩
  · rw [undisturbed.current]
    exact followed
  · rw [services]
    exact kept
  · rw [services]
    exact unlisted

theorem reloaded (h : Stocked service key s) (reloaded : Reloaded s s') :
    Stocked service key s' := by
  have undisturbed := reloaded.undisturbed
  cases reloaded with
  | nothing | placeholder | display | wait => exact h.undisturbed undisturbed rfl
  | ask plan =>
      obtain ⟨live, _, absent, _⟩ := plan_eq_ask plan
      rw [h.live] at live
      injection live with live
      rw [h.followed, ← live] at absent
      exact absurd absent h.kept

theorem delivered (h : Stocked service key s) (delivered : Delivered s id s') :
    Stocked service key s' := by
  have undisturbed := delivered.undisturbed
  cases delivered with
  | failed => exact h.undisturbed undisturbed (by rw [forget_eq]; rfl)
  | applied => exact h.undisturbed undisturbed rfl
  | stale _ _ reloaded =>
      refine Stocked.reloaded ?_ reloaded
      rw [forget_eq]
      exact ⟨h.live, h.followed, h.kept, h.unlisted⟩

theorem move (_ : Sound held s)
    (move : Move (Settling service key outcome) ⟨held, s⟩ ⟨held', s'⟩)
    (h : Stocked service key s) : Stocked service key s' := by
  cases move with
  | aside attended | refresh attended | assign attended | load attended | focus attended
  | rewire attended => exact absurd attended Settling.unattended.not_attended
  | keep ok =>
      obtain ⟨rfl, rfl, _⟩ := Settling.of_keep ok
      refine ⟨h.live, h.followed, ?_, ?_⟩
      · rw [services_updateService, cached?_set_keep, if_pos ⟨rfl, rfl⟩]
        exact nofun
      · rw [services_updateService, waitingFor_set_keep]
        exact h.unlisted
  | evict ok => exact absurd ok Settling.unattended.not_evict
  | takeUp ok =>
      obtain ⟨rfl, rfl⟩ := Settling.of_finishing ok
      refine ⟨h.live, h.followed, ?_, ?_⟩
      · rw [services_updateService, cached?_set_takeUp]
        exact h.kept
      · rw [services_updateService, waitingFor_set_takeUp, if_pos ⟨rfl, rfl⟩]
  | giveUp | finish | cancel => exact ⟨h.live, h.followed, h.kept, h.unlisted⟩
  | deliver _ delivered =>
      refine Stocked.delivered ?_ delivered
      exact ⟨h.live, h.followed, h.kept, h.unlisted⟩

/-- Once everything is delivered the panel shows what is kept. -/
theorem not_loading (h : Stocked service key s) (sound : Sound [] s) (waiting : Waiting [] s)
    (empty : s.queue = []) : s.panel.state ≠ .loading := by
  intro loading
  -- A loading panel would wait for a request that is listed, held or in the queue.
  obtain ⟨id, request, pending, found, current⟩ := isWaiting_iff.mp (waiting.loading loading)
  obtain ⟨live, sameKey, _⟩ := sound.watched.askable_of_isCurrent found current
  rcases waiting.tracked.pending pending found with state | queued
  · rcases waiting.tracked.outstanding found state with listed | isHeld
    · rw [h.live] at live
      injection live with live
      rw [peers, ← live, sameKey, h.followed, h.unlisted] at listed
      exact absurd listed List.not_mem_nil
    · exact absurd isHeld List.not_mem_nil
  · rw [empty] at queued
    exact absurd queued List.not_mem_nil

/-- Bringing a key that is kept to an outcome, and draining the queue, wakes the panel. -/
theorem woken (h : Stocked service key (s.updateService service (Service.takeUp key)))
    (sound : Sound [] s) (idle : s.Idle) (waiting : Waiting [] s)
    (offers : s.Offers service key outcome)
    (finishes : s.KeyFinishesSmoothly service key outcome)
    (drains : (s.finishKey service key outcome).1.Smooth .drain) :
    ((s.finishKey service key outcome).1.perform .drain).1.panel.state ≠ .loading := by
  obtain ⟨moves, empty⟩ := settling_moves sound idle offers finishes drains
  have takes : Move (Settling service key outcome) ⟨[], s⟩ ⟨_, _⟩ := .takeUp (.inr rfl)
  have taken := sound.move takes
  have waitingTaken := Waiting.move (fun _ => Settling.unattended.not_cancel) sound takes waiting
  refine not_loading (moves.keep (P := fun _ s => Stocked service key s) move taken h)
    (moves.sound taken) ?_ empty
  exact moves.keep (P := Waiting) (Waiting.move fun _ => Settling.unattended.not_cancel) taken
    waitingTaken

end Stocked

/-! ## What is not kept is waited for -/

/-- What the panel follows can be asked of its service, which does not keep it. -/
structure Missing (service : ServiceId) (s : Session) : Prop where
  live : s.panel.service = some service
  askable : s.panel.current.Askable
  absent : (s.services service).cached? s.panel.current.key = none

namespace Missing

theorem undisturbed (h : Missing service s) (undisturbed : Undisturbed s s') :
    Missing service s' := by
  obtain ⟨live, askable, absent⟩ := h
  refine ⟨undisturbed.service.trans live, ?_, ?_⟩
  · rw [undisturbed.current]
    exact askable
  · rw [undisturbed.cached, undisturbed.current]
    exact absent

theorem plan (h : Missing service s) :
    s.plan = if s.isWaiting then .wait else .ask service := by
  rw [plan_of_askable h.live h.askable, h.absent]

/-- A panel that waits goes on waiting. -/
theorem reloaded_waiting (h : Missing service s) (waits : s.isWaiting = true)
    (reloaded : Reloaded s s') : s' = s.clearLabel.setState .loading := by
  have plan := h.plan
  rw [if_pos waits] at plan
  cases reloaded with
  | wait => rfl
  | nothing other | placeholder other | display other | ask other =>
      rw [plan] at other
      cases other

/-- A panel that does not wait asks, and waits then. -/
theorem reloaded_idle (h : Missing service s) (idle : s.isWaiting = false)
    (reloaded : Reloaded s s') :
    s'.panel.state = .loading ∧ s'.isWaiting = true ∧ s'.panel.pending = some s.requests.length
      ∧ s'.stateOf s.requests.length = some .outstanding := by
  have plan := h.plan
  rw [idle] at plan
  cases reloaded with
  | ask =>
      refine ⟨rfl, isWaiting_issue _ _, rfl, ?_⟩
      show ((s.requests ++ [_])[s.requests.length]?).map Request.state = _
      rw [List.getElem?_concat_length]
      rfl
  | nothing other | placeholder other | display other | wait other =>
      rw [plan] at other
      cases other

/-- A request that is delivered while another one is waited for changes nothing. -/
theorem delivered_other (h : Missing service s) (watched : Watched s)
    (queue : s.queue = id :: rest) (waits : s.isWaiting = true) (other : s.panel.pending ≠ some id)
    (delivered : Delivered { s with queue := rest } id s') :
    ∃ log, s' = { s with
      queue := rest, log, panel := { s.panel with label := none, state := .loading } } := by
  obtain ⟨log, reloaded⟩ := watched.reloaded_of_delivered queue other delivered
  have missing : Missing service
      { s with queue := rest, log, panel := { s.panel with state := .stale } } :=
    ⟨h.live, h.askable, h.absent⟩
  exact ⟨log, missing.reloaded_waiting waits reloaded⟩

/-- A request that is delivered while none is waited for makes the panel ask again. -/
theorem delivered_idle (h : Missing service s) (watched : Watched s)
    (queue : s.queue = id :: rest) (idle : s.panel.pending = none)
    (delivered : Delivered { s with queue := rest } id s') :
    s'.panel.state = .loading ∧ s'.isWaiting = true
      ∧ ∃ new, s'.panel.pending = some new ∧ s'.stateOf new = some .outstanding := by
  obtain ⟨log, reloaded⟩ :=
    watched.reloaded_of_delivered queue (by rw [idle]; exact nofun) delivered
  have missing : Missing service
      { s with queue := rest, log, panel := { s.panel with state := .stale } } :=
    ⟨h.live, h.askable, h.absent⟩
  have notWaiting : isWaiting
      { s with queue := rest, log, panel := { s.panel with state := .stale } } = false := by
    rw [isWaiting, idle]
    rfl
  obtain ⟨loading, waits, pending, outstanding⟩ := missing.reloaded_idle notWaiting reloaded
  exact ⟨loading, waits, _, pending, outstanding⟩

/-- The request that is waited for wakes the panel. -/
theorem delivered_own (waits : s.isWaiting = true)
    (own : s.panel.pending = some id)
    (delivered : Delivered { s with queue := rest } id s') :
    s'.panel.state ≠ .loading ∧ s'.panel.pending = none ∧ s'.services = s.services := by
  obtain ⟨id', request, pending, found, current⟩ := isWaiting_iff.mp waits
  rw [own] at pending
  injection pending with same
  subst same
  cases delivered with
  | failed =>
      rw [forget_eq]
      exact ⟨nofun, if_pos own, rfl⟩
  | applied _ _ _ _ shown =>
      rw [forget_eq] at shown
      obtain ⟨_, _, _, _, samePending⟩ := shown.follows
      exact ⟨shown.not_loading, samePending.trans (if_pos own), rfl⟩
  | stale found' late =>
      rw [show s.requests[id]? = _ from found'] at found
      injection found with found
      rw [found, show request.isCurrent s.panel.current s.panel.generation = _ from current] at late
      cases late

end Missing

/-! ## A request that fails last -/

/-- The last element of a list is that of its tail, unless it is the head alone. -/
theorem getLast?_cons_cases {x : RequestId} {ids : List RequestId}
    (last : (x :: ids).getLast? = some id) : ids = [] ∧ x = id ∨ ids.getLast? = some id := by
  cases ids with
  | nil =>
      injection last with last
      exact .inl ⟨rfl, last⟩
  | cons y ids =>
      rw [List.getLast?_cons_cons] at last
      exact .inr last

/-- An element that occurs once is the last if nothing is behind it. -/
theorem getLast?_eq_some_iff_of_nodup {front back : List RequestId}
    (nodup : (front ++ id :: back).Nodup) :
    (front ++ id :: back).getLast? = some id ↔ back = [] := by
  rw [List.nodup_middle, List.nodup_cons] at nodup
  rw [List.getLast?_append]
  constructor
  · intro last
    have same : (id :: back).getLast? = some id := last
    rcases getLast?_cons_cases same with ⟨none, _⟩ | again
    · exact none
    · exact absurd (List.mem_append_right _ (List.mem_of_getLast? again)) nodup.1
  · rintro rfl
    rfl

/-- The greatest of ascending numbers is the last. -/
theorem getLast?_of_ascending {ids : List RequestId} (ascending : ids.Pairwise (· < ·))
    (listed : id ∈ ids) (greatest : ∀ other ∈ ids, other ≤ id) : ids.getLast? = some id := by
  obtain ⟨front, back, rfl⟩ := List.append_of_mem listed
  have none : back = [] := by
    rw [List.eq_nil_iff_forall_not_mem]
    intro other member
    have tail := (List.pairwise_append.mp ascending).2.1
    have less := List.rel_of_pairwise_cons tail member
    have notGreater := greatest other
      (List.mem_append_right _ (List.mem_cons_of_mem _ member))
    exact absurd less (Nat.not_lt.mpr notGreater)
  rw [none, List.getLast?_concat]

/-- The request that is waited for is the last that will be delivered, or the panel is awake and
nothing more will be. -/
inductive Line (id : RequestId) (held : List RequestId) (s : Session) : Prop
  | due : s.panel.state = .loading → s.panel.pending = some id →
      (s.queue ++ held).getLast? = some id → Line id held s
  | woken : s.panel.state ≠ .loading → s.queue = [] → held = [] → Line id held s

/-- The panel waits for what is not kept and not listed, and will be woken last. -/
structure Expecting (service : ServiceId) (key : EmulationKey) (id : RequestId)
    (held : List RequestId) (s : Session) : Prop where
  missing : Missing service s
  unlisted : (s.services service).waitingFor key = []
  waiting : Waiting held s
  line : Line id held s

namespace Expecting

theorem delivered {x : RequestId} (h : Expecting service key id held s) (watched : Watched s)
    (filed : Filed held s.services s.requests) (queue : s.queue = x :: rest)
    (delivered : Delivered { s with queue := rest } x s') : Expecting service key id held s' := by
  obtain ⟨missing, unlisted, waiting, line⟩ := h
  have undisturbed := delivered.undisturbed
  have missing' : Missing service s' := by
    refine Missing.undisturbed ?_ undisturbed
    exact ⟨missing.live, missing.askable, missing.absent⟩
  have waiting' := Waiting.ofDelivered waiting.tracked filed queue delivered
  cases line with
  | woken _ empty =>
      rw [empty] at queue
      cases queue
  | due loading pending last =>
      have waits := waiting.loading loading
      rw [queue, List.cons_append] at last
      by_cases own : x = id
      · -- Whatever is behind the request in the line would be the request itself.
        subst own
        obtain ⟨awake, _, services⟩ := Missing.delivered_own waits pending delivered
        have none : rest ++ held = [] := by
          rcases getLast?_cons_cases last with ⟨none, _⟩ | again
          · exact none
          · rcases List.mem_append.mp (List.mem_of_getLast? again) with member | member
            · have nodup := watched.queue_nodup
              rw [queue, List.nodup_cons] at nodup
              exact absurd member nodup.1
            · have outstanding := waiting.tracked.outstanding_of_held filed member
              have queued : x ∈ s.queue := by
                rw [queue]
                exact List.mem_cons_self
              exact absurd outstanding (watched.stateOf_ne_outstanding queued)
        obtain ⟨noRest, noHeld⟩ := List.append_eq_nil_iff.mp none
        refine ⟨missing', ?_, waiting', .woken awake (undisturbed.queue.trans noRest) noHeld⟩
        rw [services]
        exact unlisted
      · have other : s.panel.pending ≠ some x := by
          rw [pending]
          exact fun same => own (Option.some.inj same).symm
        obtain ⟨log, rfl⟩ := missing.delivered_other watched queue waits other delivered
        refine ⟨missing', unlisted, waiting', .due rfl pending ?_⟩
        exact (getLast?_cons_cases last).resolve_left fun only => own only.2

theorem move {failure : Failure} (sound : Sound held s)
    (move : Move (Settling service key (.failed failure)) ⟨held, s⟩ ⟨held', s'⟩)
    (h : Expecting service key id held s) : Expecting service key id held' s' := by
  have waiting' := Waiting.move (fun _ => Settling.unattended.not_cancel) sound move h.waiting
  obtain ⟨filed, watched⟩ := sound
  obtain ⟨missing, unlisted, waiting, line⟩ := h
  cases move with
  | aside attended | refresh attended | assign attended | load attended | focus attended
  | rewire attended => exact absurd attended Settling.unattended.not_attended
  | keep ok =>
      obtain ⟨_, _, emulated⟩ := Settling.of_keep ok
      cases emulated
  | evict ok => exact absurd ok Settling.unattended.not_evict
  | cancel ok => exact absurd ok Settling.unattended.not_cancel
  | giveUp isHeld closed => exact absurd (waiting.tracked.outstanding_of_held filed isHeld) closed
  | takeUp ok =>
      obtain ⟨rfl, rfl⟩ := Settling.of_finishing ok
      refine ⟨⟨missing.live, missing.askable, ?_⟩, ?_, waiting', ?_⟩
      · rw [services_updateService, cached?_set_takeUp]
        exact missing.absent
      · rw [services_updateService, waitingFor_set_takeUp, if_pos ⟨rfl, rfl⟩]
      · rw [unlisted]
        cases line with
        | due loading pending last => exact .due loading pending last
        | woken awake empty => exact .woken awake empty rfl
  | finish =>
      refine ⟨⟨missing.live, missing.askable, missing.absent⟩, unlisted, waiting', ?_⟩
      cases line with
      | due loading pending last =>
          refine .due loading pending ?_
          rw [List.append_assoc]
          exact last
      | woken _ _ none => cases none
  | deliver queue delivered =>
      exact Expecting.delivered ⟨missing, unlisted, waiting, line⟩ watched filed queue delivered

/-- When everything is delivered the panel is awake. -/
theorem not_loading (h : Expecting service key id [] s) (empty : s.queue = []) :
    s.panel.state ≠ .loading := by
  cases h.line with
  | due _ _ last =>
      rw [empty] at last
      cases last
  | woken awake => exact awake

end Expecting

/-! ## A request that has failed already -/

/-- How far the queue has been drained in which `back` is behind the request. -/
inductive Overtaken (id : RequestId) (back : List RequestId) (s : Session) : Prop
  | before {front : List RequestId} : s.queue = front ++ id :: back → s.panel.pending = some id →
      s.panel.state = .loading → Overtaken id back s
  | woken : s.queue = back → s.panel.pending = none → s.panel.state ≠ .loading →
      Overtaken id back s
  /-- What was behind the request has made the panel ask again. -/
  | asking {new : RequestId} : back ≠ [] → s.panel.pending = some new →
      s.stateOf new = some .outstanding → s.panel.state = .loading → Overtaken id back s

/-- The queue is drained over what is not kept. -/
structure Draining (service : ServiceId) (id : RequestId) (back held : List RequestId)
    (s : Session) : Prop where
  missing : Missing service s
  waiting : Waiting held s
  overtaken : Overtaken id back s

namespace Draining

variable {back : List RequestId}

theorem delivered {x : RequestId} (h : Draining service id back held s) (watched : Watched s)
    (filed : Filed held s.services s.requests) (queue : s.queue = x :: rest)
    (delivered : Delivered { s with queue := rest } x s') : Draining service id back held s' := by
  obtain ⟨missing, waiting, overtaken⟩ := h
  have undisturbed := delivered.undisturbed
  have missing' : Missing service s' := by
    refine Missing.undisturbed ?_ undisturbed
    exact ⟨missing.live, missing.askable, missing.absent⟩
  refine ⟨missing', Waiting.ofDelivered waiting.tracked filed queue delivered, ?_⟩
  cases overtaken with
  | @before front split pending loading =>
      have waits := waiting.loading loading
      cases front with
      | nil =>
          rw [queue, List.nil_append, List.cons.injEq] at split
          obtain ⟨rfl, rfl⟩ := split
          -- The request itself is delivered.
          obtain ⟨awake, idle, _⟩ := Missing.delivered_own waits pending delivered
          exact .woken undisturbed.queue idle awake
      | cons y front =>
          rw [queue, List.cons_append, List.cons.injEq] at split
          obtain ⟨rfl, behind⟩ := split
          -- Something in front of it is delivered, and the panel goes on waiting.
          have nodup := watched.queue_nodup
          rw [queue, List.nodup_cons, behind] at nodup
          have other : s.panel.pending ≠ some x := by
            rw [pending]
            rintro ⟨⟩
            exact nodup.1 (List.mem_append_right _ List.mem_cons_self)
          obtain ⟨log, rfl⟩ := missing.delivered_other watched queue waits other delivered
          exact .before behind pending rfl
  | woken split idle =>
      obtain ⟨loading, _, new, pending, outstanding⟩ :=
        missing.delivered_idle watched queue idle delivered
      refine .asking ?_ pending outstanding loading
      rw [← split, queue]
      exact List.cons_ne_nil _ _
  | @asking new behind pending outstanding loading =>
      -- The new request is outstanding, so that what is delivered is another one.
      have other : s.panel.pending ≠ some x := by
        rw [pending]
        rintro ⟨⟩
        have queued : x ∈ s.queue := by
          rw [queue]
          exact List.mem_cons_self
        exact watched.stateOf_ne_outstanding queued outstanding
      obtain ⟨log, rfl⟩ :=
        missing.delivered_other watched queue (waiting.loading loading) other delivered
      exact .asking behind pending outstanding rfl

theorem move (sound : Sound held s) (move : Move (· = .drain) ⟨held, s⟩ ⟨held', s'⟩)
    (h : Draining service id back held s) : Draining service id back held' s' := by
  have unattended : Unattended (· = .drain) := fun _ ok => .inl ok
  have notFinishing : ∀ {other key outcome}, Operation.finishing other key outcome ≠ .drain := by
    intro other key outcome
    cases outcome <;> exact nofun
  cases move with
  | aside attended | refresh attended | assign attended | load attended | focus attended
  | rewire attended => exact absurd attended unattended.not_attended
  | keep ok => rcases ok with ok | ok <;> cases ok
  | evict ok | cancel ok => cases ok
  | takeUp ok => exact absurd ok notFinishing
  | giveUp isHeld closed =>
      exact absurd (h.waiting.tracked.outstanding_of_held sound.filed isHeld) closed
  | finish outstanding ok =>
      obtain ⟨request, found, _⟩ := Option.map_eq_some_iff.mp outstanding
      exact absurd (ok request found).1 notFinishing
  | deliver queue delivered => exact h.delivered sound.watched sound.filed queue delivered

/-- When everything is delivered the panel loads if something was behind the request. -/
theorem loading_iff (h : Draining service id back [] s) (empty : s.queue = []) :
    s.panel.state = .loading ↔ back ≠ [] := by
  cases h.overtaken with
  | before split =>
      rw [empty] at split
      simp at split
  | woken split _ awake =>
      rw [← split, empty]
      exact ⟨fun loading => absurd loading awake, fun behind => absurd rfl behind⟩
  | asking behind _ _ loading => exact ⟨fun _ => behind, fun _ => loading⟩

end Draining

/-! ## Waking a panel that is loading -/

/-- The request that a loading panel waits for: it is of the live generation, for the coordinates
that are shown and to the service that is set now. Either it is listed there or it is in the
queue. -/
structure Awaits (s : Session) (id : RequestId) (request : Request) : Prop where
  pending : s.panel.pending = some id
  issued : s.requests[id]? = some request
  generation : request.generation = s.panel.generation
  coordinates : request.coordinates.sameAs s.panel.current = true
  service : s.panel.service = some request.service
  whereabouts :
    request.state = .outstanding
        ∧ id ∈ (s.services request.service).waitingFor s.panel.current.key ∧ id ∉ s.queue
      ∨ request.state ≠ .outstanding
        ∧ id ∉ (s.services request.service).waitingFor s.panel.current.key ∧ id ∈ s.queue

section Awaits

variable {request : Request}

theorem Waiting.awaits (waiting : Waiting [] s) (sound : Sound [] s)
    (loading : s.panel.state = .loading) : ∃ id request, s.Awaits id request := by
  obtain ⟨filed, watched⟩ := sound
  obtain ⟨id, request, pending, found, current⟩ := isWaiting_iff.mp (waiting.loading loading)
  obtain ⟨live, sameKey, _⟩ := watched.askable_of_isCurrent found current
  obtain ⟨_, generation, coordinates⟩ := isCurrent_iff.mp current
  refine ⟨id, request, pending, found, generation, coordinates, live, ?_⟩
  rw [← sameKey]
  by_cases state : request.state = .outstanding
  · refine .inl ⟨state, ?_, ?_⟩
    · exact (waiting.tracked.outstanding found state).resolve_right List.not_mem_nil
    · intro queued
      apply watched.stateOf_ne_outstanding queued
      rw [stateOf, found]
      exact congrArg some state
  · refine .inr ⟨state, ?_, (waiting.tracked.pending pending found).resolve_left state⟩
    intro listed
    obtain ⟨request', found', _, _, isOpen⟩ := filed.listed listed
    rw [found] at found'
    injection found' with found'
    subst found'
    cases settled : request.state with
    | outstanding => exact state settled
    | cancelled => exact waiting.tracked.not_cancelled found settled
    | finished outcome => exact isOpen ⟨outcome, settled⟩

variable (h : s.Awaits id request)
include h

theorem Awaits.current (waiting : Waiting [] s) :
    request.isCurrent s.panel.current s.panel.generation = true :=
  isCurrent_iff.mpr
    ⟨waiting.tracked.not_cancelled h.issued, h.generation, h.coordinates⟩

/-- No request was issued later. -/
theorem Awaits.latest (sound : Sound [] s) {other : RequestId} {service : ServiceId}
    {key : EmulationKey} (listed : other ∈ (s.services service).waitingFor key) : other ≤ id := by
  obtain ⟨_, found, _⟩ := sound.filed.listed listed
  have inside := (List.getElem?_eq_some_iff.mp found).1
  rw [sound.watched.last h.pending] at inside
  exact Nat.le_of_lt_succ inside

/-- What is waited for is kept, or it is missing. -/
theorem Awaits.missing (sound : Sound [] s) (waiting : Waiting [] s)
    (absent : (s.services request.service).cached? s.panel.current.key = none) :
    Missing request.service s := by
  obtain ⟨live, _, askable⟩ := sound.watched.askable_of_isCurrent h.issued (h.current waiting)
  exact ⟨live, askable, absent⟩

/-- A service takes up all that is listed, also where it keeps an emulator before. -/
theorem Awaits.stocked {kept : Session} (panel : kept.panel = s.panel)
    (cached : (kept.services request.service).cached? s.panel.current.key ≠ none) :
    Stocked request.service s.panel.current.key
      (kept.updateService request.service (Service.takeUp s.panel.current.key)) := by
  refine ⟨?_, ?_, ?_, ?_⟩
  · show kept.panel.service = _
    rw [panel]
    exact h.service
  · show kept.panel.current.key = _
    rw [panel]
  · rw [services_updateService, cached?_set_takeUp]
    exact cached
  · rw [services_updateService, waitingFor_set_takeUp, if_pos ⟨rfl, rfl⟩]

theorem Awaits.woken_by_complete (sound : Sound [] s) (idle : s.Idle) (waiting : Waiting [] s)
    (emulator : Emulator)
    (smooth : s.RunsSmoothly
      [.complete request.service s.panel.current.key emulator, .drain]) :
    (s.performAll [.complete request.service s.panel.current.key emulator, .drain]).panel.state
      ≠ .loading := by
  obtain ⟨finishes, drains, _⟩ := smooth
  have keeps : Move (Settling request.service s.panel.current.key (.emulated emulator)) ⟨[], s⟩
      ⟨[], s.updateService request.service
        (Service.keep s.panel.current.key (some emulator))⟩ := .keep (.inr (.inr rfl))
  have offers := offers_keep s request.service s.panel.current.key emulator
  refine Stocked.woken (h.stocked rfl ?_) (sound.move keeps) idle
    (Waiting.move (fun _ => Settling.unattended.not_cancel) sound keeps waiting) offers finishes
    drains
  rw [offers emulator rfl]
  exact nofun

theorem Awaits.woken_by_fail (sound : Sound [] s) (idle : s.Idle) (waiting : Waiting [] s)
    (loading : s.panel.state = .loading) (outstanding : request.state = .outstanding)
    (failure : Failure)
    (smooth : s.RunsSmoothly [.fail request.service s.panel.current.key failure, .drain]) :
    (s.performAll [.fail request.service s.panel.current.key failure, .drain]).panel.state
      ≠ .loading := by
  obtain ⟨finishes, drains, _⟩ := smooth
  have offers := offers_failed s request.service s.panel.current.key failure
  by_cases cached : (s.services request.service).cached? s.panel.current.key = none
  · obtain ⟨moves, empty⟩ := settling_moves sound idle offers finishes drains
    have takes : Move (Settling request.service s.panel.current.key (.failed failure))
        ⟨[], s⟩ ⟨_, _⟩ := .takeUp (.inr rfl)
    have missing := h.missing sound waiting cached
    have listed : id ∈ (s.services request.service).waitingFor s.panel.current.key := by
      rcases h.whereabouts with ⟨_, listed, _⟩ | ⟨settled, _⟩
      · exact listed
      · exact absurd outstanding settled
    have last := getLast?_of_ascending (sound.filed.ascending _ _) listed
      fun other member => h.latest sound member
    have expecting : Expecting request.service s.panel.current.key id
        ((s.services request.service).waitingFor s.panel.current.key)
        (s.updateService request.service (Service.takeUp s.panel.current.key)) := by
      refine ⟨⟨missing.live, missing.askable, ?_⟩, ?_,
        Waiting.move (fun _ => Settling.unattended.not_cancel) sound takes waiting,
        .due loading h.pending ?_⟩
      · rw [services_updateService, cached?_set_takeUp]
        exact missing.absent
      · rw [services_updateService, waitingFor_set_takeUp, if_pos ⟨rfl, rfl⟩]
      · show (s.queue ++ _).getLast? = some id
        rw [List.getLast?_append, last]
        rfl
    have done := moves.keep (P := Expecting request.service s.panel.current.key id)
      Expecting.move (sound.move takes) expecting
    exact done.not_loading empty
  · exact Stocked.woken (h.stocked rfl cached) sound idle waiting offers finishes drains

/-- Nothing is listed any more for a request that has been settled. -/
theorem Awaits.unlisted (sound : Sound [] s) (waiting : Waiting [] s)
    (settled : request.state ≠ .outstanding) :
    (s.services request.service).waitingFor s.panel.current.key = [] := by
  have finished : request.Finished := by
    cases state : request.state with
    | outstanding => exact absurd state settled
    | cancelled => exact absurd state (waiting.tracked.not_cancelled h.issued)
    | finished outcome => exact ⟨outcome, state⟩
  rw [List.eq_nil_iff_forall_not_mem]
  intro other listed
  have notLater := h.latest sound listed
  rw [← Coordinates.key_of_sameAs h.coordinates] at listed
  have later := sound.filed.finished h.issued finished other listed
  exact absurd later (Nat.not_lt.mpr notLater)

theorem Awaits.loading_after_fail_iff (sound : Sound [] s) (idle : s.Idle)
    (waiting : Waiting [] s) (loading : s.panel.state = .loading)
    (settled : request.state ≠ .outstanding) (failure : Failure)
    (smooth : s.RunsSmoothly [.fail request.service s.panel.current.key failure, .drain]) :
    (s.performAll [.fail request.service s.panel.current.key failure, .drain]).panel.state
        = .loading
      ↔ (s.services request.service).cached? s.panel.current.key = none
        ∧ s.queue.getLast? ≠ some id := by
  obtain ⟨finishes, drains, _⟩ := smooth
  by_cases cached : (s.services request.service).cached? s.panel.current.key = none
  · have unlisted := h.unlisted sound waiting settled
    have takes : Move (Settling request.service s.panel.current.key (.failed failure))
        ⟨[], s⟩ ⟨_, _⟩ := .takeUp (.inr rfl)
    have taken := sound.move takes
    have waitingTaken := Waiting.move (fun _ => Settling.unattended.not_cancel) sound takes waiting
    rw [unlisted] at taken waitingTaken
    -- Nothing is taken up, so that only the drain is left.
    have reached : (s.finishKey request.service s.panel.current.key (.failed failure)).1
        = s.updateService request.service (Service.takeUp s.panel.current.key) := by
      rw [finishKey, answer_fst, unlisted]
      rfl
    have queued : id ∈ s.queue := by
      rcases h.whereabouts with ⟨outstanding, _⟩ | ⟨_, _, queued⟩
      · exact absurd outstanding settled
      · exact queued
    obtain ⟨front, back, split⟩ := List.append_of_mem queued
    have missing := h.missing sound waiting cached
    have draining : Draining request.service id back []
        (s.updateService request.service (Service.takeUp s.panel.current.key)) := by
      refine ⟨⟨missing.live, missing.askable, ?_⟩, waitingTaken, .before split h.pending loading⟩
      rw [services_updateService, cached?_set_takeUp]
      exact missing.absent
    have drains' : (s.updateService request.service
        (Service.takeUp s.panel.current.key)).Smooth .drain := by
      rw [← reached]
      exact drains
    have drained : Moves (· = .drain) _ _ ∧ _ := drain_moves taken drains'
    have done := drained.1.keep (P := Draining request.service id back) Draining.move taken
      draining
    show ((s.finishKey request.service s.panel.current.key (.failed failure)).1.perform
      .drain).1.panel.state = .loading ↔ _
    rw [reached, done.loading_iff drained.2]
    have nodup := sound.watched.queue_nodup
    rw [split] at nodup
    rw [split, Ne, Ne, getLast?_eq_some_iff_of_nodup nodup]
    exact ⟨fun behind => ⟨cached, behind⟩, fun behind => behind.2⟩
  · have awake := Stocked.woken (h.stocked rfl cached) sound idle waiting
      (offers_failed s request.service s.panel.current.key failure) finishes drains
    exact ⟨fun loading => absurd loading awake, fun absent => absurd absent.1 cached⟩

end Awaits

/-- A loading panel that can be woken: by completing what it waits for, and by failing it. To fail
what has been settled already does nothing; then the panel loads again if a request behind the one
that it waits for makes it ask once more. -/
structure Wakes (s : Session) (id : RequestId) (request : Request) : Prop where
  awaits : s.Awaits id request
  complete : ∀ emulator,
    s.RunsSmoothly [.complete request.service s.panel.current.key emulator, .drain] →
    (s.performAll [.complete request.service s.panel.current.key emulator, .drain]).panel.state
      ≠ .loading
  fail : request.state = .outstanding → ∀ failure,
    s.RunsSmoothly [.fail request.service s.panel.current.key failure, .drain] →
    (s.performAll [.fail request.service s.panel.current.key failure, .drain]).panel.state
      ≠ .loading
  fail_settled : request.state ≠ .outstanding → ∀ failure,
    s.RunsSmoothly [.fail request.service s.panel.current.key failure, .drain] →
    ((s.performAll [.fail request.service s.panel.current.key failure, .drain]).panel.state
        = .loading
      ↔ (s.services request.service).cached? s.panel.current.key = none
        ∧ s.queue.getLast? ≠ some id)

/-- **No lost wake-up.** After every smooth run without cancellations, a panel that is loading waits
for a request that is on its way, and can be woken. -/
theorem loading_wakes {operations : List Operation} {t : Session} (start : s.IsStart)
    (noCancellation : ∀ id, .cancel id ∉ operations) (smooth : s.RunsSmoothly operations)
    (reached : s.performAll operations = t) (loading : t.panel.state = .loading) :
    ∃ id request, t.Wakes id request := by
  subst reached
  obtain ⟨moves, idle⟩ := start.leads smooth
  have sound := moves.sound start.sound
  have waiting := moves.keep (P := Waiting) (Waiting.move noCancellation) start.sound
    (Waiting.ofStart start)
  obtain ⟨id, request, awaits⟩ := waiting.awaits sound loading
  exact ⟨id, request, awaits, awaits.woken_by_complete sound idle waiting,
    awaits.woken_by_fail sound idle waiting loading,
    awaits.loading_after_fail_iff sound idle waiting loading⟩

/-- The coordinates that are shown fail before those that were left. -/
def Sample.twoFailures : List Operation :=
  [.activate (spot 1), .activate (spot 2), .fail "S" (spot 2).key ⟨.runtime, ["boom"]⟩,
   .fail "S" (spot 1).key ⟨.runtime, ["boom"]⟩]

theorem loading_wakes_twoFailures :
    ∃ id request, ((Sample.start .queued).performAll Sample.twoFailures).Wakes id request :=
  loading_wakes (Sample.isStart_start .queued) (by simp [Sample.twoFailures])
    (by decide +kernel) rfl (by decide +kernel)

/-- To fail the key and to drain the queue does not always end the loading: the request left behind
makes the panel ask again. -/
theorem loading_after_fail_drain :
    ((Sample.start .queued).performAll Sample.twoFailures).panel.state = .loading
      ∧ ((Sample.start .queued).performAll Sample.twoFailures).panel.service = some "S"
      ∧ ((Sample.start .queued).performAll Sample.twoFailures).panel.current.key
        = (Sample.spot 2).key
      ∧ (Sample.start .queued).RunsSmoothly (Sample.twoFailures
        ++ [.fail "S" (Sample.spot 2).key ⟨.runtime, ["boom"]⟩, .drain])
      ∧ ((Sample.start .queued).performAll (Sample.twoFailures
        ++ [.fail "S" (Sample.spot 2).key ⟨.runtime, ["boom"]⟩, .drain])).panel.state
          = .loading := by
  decide +kernel

end Session

end PcodePanel
