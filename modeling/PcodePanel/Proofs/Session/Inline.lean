import PcodePanel.Proofs.Session.Beside

/-!
# Inline and queued deliveries

A delivery runs inline, in the middle of the operation that settles the request, or it waits in the
queue until the panel drains it. A service that finishes the requests for a key settles them one
after the other, so that inline deliveries see some of them outstanding that queued ones see
finished. The panel cannot tell: a run with inline deliveries comes to the same as one in which the
queue is drained after each operation.

* `Session.tellAll` — the panel is told of requests in order, and `Session.drainIds_of_told`
  says that to drain is to tell it of the queue;
* `Session.Anticipates` — a session with inline deliveries is what one with queued deliveries comes
  to when the panel is told of the queue;
* `Session.Anticipates.finish`, `Session.Anticipates.finishAll` — settling a request keeps it, and
  so does finishing those for a key;
* `Session.inline_agrees` — the main result.
-/

namespace PcodePanel

namespace Session

/-! ## Telling the panel of requests -/

/-- Tells the panel of requests in order, up to the first fault. -/
def tellAll (s : Session) : List RequestId → Session × Option Fault
  | [] => (s, none)
  | id :: ids =>
    match s.deliver id with
    | (s, none) => s.tellAll ids
    | (s, some fault) => (s, some fault)

variable {s t : Session} {c : Change} {id : RequestId} {ids : List RequestId}

theorem tellAll_cons_of_none (told : s.deliver id = (t, none)) :
    s.tellAll (id :: ids) = t.tellAll ids := by
  rw [tellAll, told]

theorem tellAll_append {front back : List RequestId} (told : s.tellAll front = (t, none)) :
    s.tellAll (front ++ back) = t.tellAll back := by
  induction front generalizing s with
  | nil =>
      obtain rfl : s = t := congrArg Prod.fst told
      rfl
  | cons id front ih =>
      rw [List.cons_append, tellAll]
      rw [tellAll] at told
      cases delivered : s.deliver id with
      | mk s' fault =>
          rw [delivered] at told
          cases fault with
          | none => exact ih told
          | some fault => cases told

/-- Telling the panel of requests disturbs neither the queue nor the way of delivery, and settles
nothing. -/
theorem tellAll_keeps (ids : List RequestId) (s : Session) :
    (s.tellAll ids).1.delivery = s.delivery ∧ (s.tellAll ids).1.queue = s.queue
      ∧ ∀ (id : RequestId) (request : Request), s.requests[id]? = some request →
        (s.tellAll ids).1.requests[id]? = some request := by
  induction ids generalizing s with
  | nil => exact ⟨rfl, rfl, fun _ _ found => found⟩
  | cons id ids ih =>
      have undisturbed := s.undisturbed_deliver id
      rw [tellAll]
      cases delivered : s.deliver id with
      | mk s' fault =>
          rw [delivered] at undisturbed
          cases fault with
          | none =>
              obtain ⟨delivery, queue, requests⟩ := ih s'
              exact ⟨delivery.trans undisturbed.delivery, queue.trans undisturbed.queue,
                fun other request found => requests other request (undisturbed.getElem? found)⟩
          | some fault =>
              exact ⟨undisturbed.delivery, undisturbed.queue,
                fun other request found => undisturbed.getElem? found⟩

/-- A request that a harmless change leaves alone is left alone also when others are issued. -/
theorem Change.Harmless.getElem?_issued {requests : List Request} (h : c.Harmless requests)
    (same : (c.requests requests)[id]? = requests[id]?) (new : List Request) :
    (c.requests (requests ++ new))[id]? = (requests ++ new)[id]? := by
  rw [h.append]
  rcases Nat.lt_or_ge id requests.length with before | beyond
  · rw [List.getElem?_append_left before, List.getElem?_append_left (h.length ▸ before), same]
  · rw [List.getElem?_append_right beyond, List.getElem?_append_right (h.length ▸ beyond), h.length]

/-- Telling the panel of requests does the same after a change that leaves these alone. -/
theorem tellAll_apply (ids : List RequestId) (s : Session) (h : c.Harmless s.requests)
    (same : ∀ id ∈ ids, (c.requests s.requests)[id]? = s.requests[id]?) :
    (c.apply s).tellAll ids = c.after (s.tellAll ids) := by
  induction ids generalizing s with
  | nil => rfl
  | cons id ids ih =>
      obtain ⟨issued, grown, _⟩ := (s.undisturbed_deliver id).requests
      rw [tellAll, tellAll, deliver_apply h (same id List.mem_cons_self)]
      cases delivered : s.deliver id with
      | mk s' fault =>
          rw [delivered] at grown
          cases fault with
          | some fault => rfl
          | none =>
              refine ih s' ?_ fun other listed => ?_
              · rw [grown]
                exact h.issued issued
              · rw [grown]
                exact h.getElem?_issued (same other (List.mem_cons_of_mem _ listed)) issued

/-! ## Draining the queue -/

/-- To drain the queue is to tell the panel of what is in it. -/
theorem drainIds_of_told (ids : List RequestId) (s : Session) (count : Nat) (empty : s.queue = [])
    (told : s.tellAll ids = (t, none)) :
    ((Change.around s.delivery ids).apply s).drainIds count ids
      = (t, .ok (count + ids.length)) := by
  induction ids generalizing s count with
  | nil =>
      obtain rfl : s = t := congrArg Prod.fst told
      have same : (Change.around s.delivery []).apply s = s := by
        rw [← empty]
        rfl
      rw [same]
      rfl
  | cons id ids ih =>
      have undisturbed := s.undisturbed_deliver id
      have delivers := deliver_apply (Change.harmless_around s.delivery ids s.requests)
        (rfl : s.requests[id]? = s.requests[id]?)
      rw [tellAll] at told
      rw [drainIds]
      show (match ((Change.around s.delivery ids).apply s).deliver id with
        | (s, none) => _ | (s, some fault) => _) = _
      rw [delivers]
      cases delivered : s.deliver id with
      | mk s' fault =>
          rw [delivered] at told undisturbed
          cases fault with
          | some fault => cases told
          | none =>
              have rest := ih s' (count + 1) (undisturbed.queue.trans empty) told
              rw [undisturbed.delivery, Nat.add_assoc, Nat.add_comm 1] at rest
              exact rest

/-! ## Inline deliveries -/

section Anticipation

variable {delivery : Delivery} {q i : Session} {outcome : Outcome}

/-- The session with inline deliveries and nothing in its queue. -/
def inline (delivery : Delivery) (s : Session) : Session :=
  (Change.around delivery []).apply s

/-- A session with inline deliveries is ahead of one with queued deliveries: it is what that one
comes to when the panel is told of the queue. -/
structure Anticipates (delivery : Delivery) (q i : Session) : Prop where
  told : (q.inline delivery).tellAll q.queue = (i, none)
  later : q.delivery = .queued
  settled : ∀ id ∈ q.queue, ∃ request, q.requests[id]? = some request
    ∧ request.state ≠ .outstanding

namespace Anticipates

/-- With an empty queue, they are the same up to the way of delivery. -/
theorem ofEmpty (later : q.delivery = .queued) (empty : q.queue = []) :
    Anticipates delivery q (q.inline delivery) := by
  refine ⟨?_, later, ?_⟩
  · rw [empty]
    rfl
  · rw [empty]
    exact List.forall_mem_nil _

/-- The one ahead knows of the same requests. -/
theorem stateOf (h : Anticipates delivery q i) {state : RequestState}
    (known : q.stateOf id = some state) : i.stateOf id = some state := by
  obtain ⟨request, found, rfl⟩ := Option.map_eq_some_iff.mp known
  obtain ⟨_, _, keeps⟩ := tellAll_keeps q.queue (q.inline delivery)
  rw [h.told] at keeps
  rw [Session.stateOf, keeps id request found]
  rfl

theorem inline_eq (h : Anticipates delivery q i) : i.delivery = delivery ∧ i.queue = [] := by
  obtain ⟨sameDelivery, sameQueue, _⟩ := tellAll_keeps q.queue (q.inline delivery)
  rw [h.told] at sameDelivery sameQueue
  exact ⟨sameDelivery, sameQueue⟩

/-- A request is finished: ahead, the panel is told at once, and it does not matter that the request
was outstanding when it was told of those before. -/
theorem finish (h : Anticipates delivery q i) (atOnce : delivery.runsAtOnce false = true)
    (outstanding : q.stateOf id = some .outstanding)
    (smooth : i.SettlesSmoothly id (.finished outcome)) :
    Anticipates delivery (q.settle false id (.finished outcome))
      (i.settle false id (.finished outcome)) := by
  obtain ⟨ahead, empty⟩ := h.inline_eq
  subst ahead
  have delivered : (i.mark id (.finished outcome)).deliver id
      = (i.settle false id (.finished outcome), none) := by
    rw [settle_eq, if_pos atOnce]
    exact Prod.ext rfl (smooth atOnce)
  have queued : q.settle false id (.finished outcome)
      = { q.mark id (.finished outcome) with queue := q.queue ++ [id] } := by
    rw [settle_eq, h.later, if_neg (by decide)]
  -- Of those in the queue, none is outstanding.
  have apart : ∀ other ∈ q.queue, id ≠ other := by
    rintro other listed rfl
    obtain ⟨request, found, settled⟩ := h.settled id listed
    rw [Session.stateOf, found] at outstanding
    exact settled (Option.some.inj outstanding)
  rw [queued]
  refine ⟨?_, h.later, ?_⟩
  · have before := tellAll_apply q.queue (q.inline i.delivery)
      (Change.harmless_finishing (s := q.inline i.delivery) outstanding outcome)
      fun other listed => List.getElem?_modify_ne _ _ (apart other listed)
    have marks : (Change.finishing (q.inline i.delivery) id outcome).apply i
        = i.mark id (.finished outcome) := by
      show ({ i with queue := [], requests := _ } : Session) = _
      rw [← empty]
      rfl
    rw [h.told, Change.after, marks] at before
    refine (tellAll_append before).trans ?_
    rw [tellAll_cons_of_none delivered]
    rfl
  · intro other listed
    show ∃ request, (q.mark id (.finished outcome)).requests[other]? = some request ∧ _
    rw [getElem?_mark]
    rcases List.mem_append.mp listed with listed | isNew
    · obtain ⟨request, found, settled⟩ := h.settled other listed
      rw [if_neg (apart other listed).symm]
      exact ⟨request, found, settled⟩
    · obtain ⟨request, found, _⟩ := Option.map_eq_some_iff.mp outstanding
      rw [List.mem_singleton.mp isNew, if_pos rfl, found]
      exact ⟨_, rfl, by simp⟩

/-- A request is cancelled while the queue is empty. -/
theorem cancel (later : q.delivery = .queued) (empty : q.queue = [])
    (atOnce : delivery.runsAtOnce false = true) (outstanding : q.stateOf id = some .outstanding)
    (smooth : (q.inline delivery).SettlesSmoothly id .cancelled) :
    Anticipates delivery (q.settle false id .cancelled)
      ((q.inline delivery).settle false id .cancelled) := by
  have delivered : ((q.inline delivery).mark id .cancelled).deliver id
      = ((q.inline delivery).settle false id .cancelled, none) := by
    rw [settle_eq]
    show _ = (if delivery.runsAtOnce false = true then _ else _, _)
    rw [if_pos atOnce]
    exact Prod.ext rfl (smooth atOnce)
  rw [settle_eq q, later, if_neg (by decide), empty]
  refine ⟨tellAll_cons_of_none delivered, later, ?_⟩
  intro other listed
  obtain ⟨request, found, _⟩ := Option.map_eq_some_iff.mp outstanding
  show ∃ request, (q.mark id .cancelled).requests[other]? = some request ∧ _
  rw [List.mem_singleton.mp listed, getElem?_mark, if_pos rfl, found]
  exact ⟨_, rfl, by simp⟩

/-- Requests are finished in order. Both stop at the same one. -/
theorem finishAll (atOnce : delivery.runsAtOnce false = true) (ids : List RequestId)
    (h : Anticipates delivery q i) (known : ∀ id ∈ ids, q.stateOf id ≠ none)
    (smooth : i.FinishesSmoothly outcome ids) :
    Anticipates delivery (q.finishAll outcome ids).1 (i.finishAll outcome ids).1 := by
  induction ids generalizing q i with
  | nil => exact h
  | cons id ids ih =>
      obtain ⟨state, found⟩ := Option.ne_none_iff_exists'.mp (known id List.mem_cons_self)
      have ahead := h.stateOf found
      unfold Session.finishAll
      by_cases outstanding : state = .outstanding
      · subst outstanding
        rw [if_pos found, if_pos ahead]
        obtain ⟨settles, rest⟩ := smooth ahead
        refine ih (h.finish atOnce found settles) ?_ rest
        intro other listed
        exact stateOf_settle_ne_none (known other (List.mem_cons_of_mem _ listed))
      · rw [if_neg fun open' => outstanding (Option.some.inj (found.symm.trans open')),
          if_neg fun open' => outstanding (Option.some.inj (ahead.symm.trans open'))]
        exact h

theorem inline_caughtUp (h : Anticipates delivery q i) :
    inline delivery ((Change.around .queued []).apply i) = i := by
  obtain ⟨rfl, empty⟩ := h.inline_eq
  show ({ i with queue := [] } : Session) = i
  rw [← empty]

/-- To drain the queue is to catch up with the one ahead. -/
theorem drain (h : Anticipates delivery q i) :
    q.drain = ((Change.around .queued []).apply i, .ok q.queue.length) := by
  have told := tellAll_apply q.queue (q.inline delivery)
    (Change.harmless_around .queued [] q.requests) fun _ _ => rfl
  rw [h.told] at told
  have drained := drainIds_of_told q.queue ((Change.around .queued []).apply (q.inline delivery)) 0
    rfl told
  have same : (Change.around .queued q.queue).apply ((Change.around .queued []).apply
      (q.inline delivery)) = q := by
    rw [← h.later]
    rfl
  rw [Session.drain]
  rw [Nat.zero_add] at drained
  exact same ▸ drained

end Anticipates

/-! ## Operations -/

/-- With queued deliveries, nothing that is settled can fail at once. -/
theorem finishesSmoothly_of_queued (later : q.delivery = .queued) (ids : List RequestId) :
    q.FinishesSmoothly outcome ids := by
  induction ids generalizing q with
  | nil => trivial
  | cons id ids ih =>
      intro _
      refine ⟨fun atOnce => ?_, ih ?_⟩
      · rw [later] at atOnce
        cases atOnce
      · rw [settle_eq, later, if_neg (by decide)]
        exact later

theorem keyFinishesSmoothly_of_queued (later : q.delivery = .queued) {service : ServiceId}
    {key : EmulationKey} : q.KeyFinishesSmoothly service key outcome :=
  finishesSmoothly_of_queued (q := q.updateService service (Service.takeUp key)) later _

theorem drain_of_empty (empty : s.queue = []) : s.drain = (s, .ok 0) := by
  rw [drain, empty]
  rfl

/-- What settles and delivers nothing touches neither the queue nor the way of delivery. -/
theorem perform_keeps {operation : Operation} (settles : operation.isSettling = false)
    (s : Session) :
    (s.perform operation).1.delivery = s.delivery ∧ (s.perform operation).1.queue = s.queue := by
  have same : s.perform operation
      = (Change.around s.delivery s.queue).after (s.perform operation) :=
    perform_apply (Change.harmless_around s.delivery s.queue s.requests) settles
  rw [same]
  exact ⟨rfl, rfl⟩

section Steps

variable {operation : Operation} (later : q.delivery = .queued) (empty : q.queue = [])
include later empty

/-- After an operation that settles and delivers nothing, the two are still the same. -/
theorem keeps_anticipates (settles : operation.isSettling = false)
    (smooth : (q.inline delivery).Smooth operation) :
    Anticipates delivery (q.perform operation).1 ((q.inline delivery).perform operation).1
      ∧ q.Smooth operation := by
  have same : (q.inline delivery).perform operation
      = (Change.around delivery []).after (q.perform operation) :=
    perform_apply (Change.harmless_around delivery [] q.requests) settles
  obtain ⟨sameDelivery, sameQueue⟩ := perform_keeps settles q
  refine ⟨?_, ?_⟩
  · rw [same]
    exact .ofEmpty (sameDelivery.trans later) (sameQueue.trans empty)
  · cases operation with
    | activate | setService | load | stepForward | stepBackward =>
        have isOk : ((q.inline delivery).perform _).2.isOk = true := smooth
        rw [same] at isOk
        exact isOk
    | assign | add | evict | provide | write | clearLog => trivial
    | complete | fail | cancel | release | drain => cases settles

variable (filed : Filed [] q.services q.requests) (atOnce : delivery.runsAtOnce false = true)
include filed atOnce

theorem finishKey_anticipates {service : ServiceId} {key : EmulationKey}
    (smooth : (q.inline delivery).KeyFinishesSmoothly service key outcome) :
    Anticipates delivery (q.finishKey service key outcome).1
      ((q.inline delivery).finishKey service key outcome).1 := by
  have start : Anticipates delivery (q.updateService service (Service.takeUp key))
      ((q.updateService service (Service.takeUp key)).inline delivery) := .ofEmpty later empty
  rw [finishKey, finishKey, answer_fst, answer_fst]
  refine start.finishAll atOnce _ (fun id listed => ?_) smooth
  obtain ⟨request, found, _⟩ := filed.listed listed
  show q.stateOf id ≠ none
  rw [stateOf, found]
  exact Option.some_ne_none _

/-- After an operation with inline deliveries, the session is ahead of the one with queued
deliveries, on which the operation is smooth too. -/
theorem perform_anticipates (smooth : (q.inline delivery).Smooth operation) :
    Anticipates delivery (q.perform operation).1 ((q.inline delivery).perform operation).1
      ∧ q.Smooth operation := by
  cases operation with
  | activate | setService | load | stepForward | stepBackward | assign | add | evict | provide
  | write | clearLog => exact keeps_anticipates later empty rfl smooth
  | complete service key emulator =>
      have ahead := finishKey_anticipates (q := q.updateService service (Service.keep key emulator))
        later empty (filed.keep service key emulator) atOnce smooth
      exact ⟨ahead, keyFinishesSmoothly_of_queued
        (q := q.updateService service (Service.keep key emulator)) later⟩
  | fail service key failure =>
      exact ⟨finishKey_anticipates later empty filed atOnce smooth,
        keyFinishesSmoothly_of_queued later⟩
  | cancel id =>
      refine ⟨?_, fun _ runs => ?_⟩
      · show Anticipates delivery (q.cancel id).1 ((q.inline delivery).cancel id).1
        unfold cancel
        show Anticipates delivery _ (if q.stateOf id = some .outstanding then _ else _ : _ × Bool).1
        split
        · next outstanding => exact .cancel later empty atOnce outstanding (smooth outstanding)
        · exact .ofEmpty later empty
      · rw [later] at runs
        cases runs
  | release service =>
      -- Only a pool has a worker.
      obtain ⟨book, manual⟩ := filed.manual service
      have none : ∀ t : Session, t.services service = .manual book →
          t.release service = (t, false) := by
        intro t manual
        rw [release, manual]
      refine ⟨?_, trivial⟩
      show Anticipates delivery (q.release service).1 ((q.inline delivery).release service).1
      rw [none q manual, none (q.inline delivery) manual]
      exact .ofEmpty later empty
  | drain =>
      refine ⟨?_, ?_⟩
      · rw [perform_drain, perform_drain, drain_of_empty empty, drain_of_empty rfl]
        exact .ofEmpty later empty
      · show (q.perform .drain).2.isOk = true
        rw [perform_drain, drain_of_empty empty]
        rfl

end Steps

/-- The operations of a run, with the queue drained after each of them. -/
def drainedAfterEach (operations : List Operation) : List Operation :=
  operations.flatMap fun operation => [operation, .drain]

theorem drainedAfterEach_cons (operation : Operation) (operations : List Operation) :
    drainedAfterEach (operation :: operations)
      = operation :: .drain :: drainedAfterEach operations := rfl

/-- Drained after each operation, the session with queued deliveries is at every time what the one
with inline deliveries is. -/
theorem performAll_inline (atOnce : delivery.runsAtOnce false = true) (operations : List Operation)
    (sound : Sound [] q) (later : q.delivery = .queued) (empty : q.queue = [])
    (smooth : (q.inline delivery).RunsSmoothly operations) :
    (q.inline delivery).performAll operations
        = (q.performAll (drainedAfterEach operations)).inline delivery
      ∧ (q.performAll (drainedAfterEach operations)).queue = []
      ∧ q.RunsSmoothly (drainedAfterEach operations) := by
  induction operations generalizing q with
  | nil => exact ⟨rfl, empty, trivial⟩
  | cons operation operations ih =>
      obtain ⟨first, rest⟩ := smooth
      obtain ⟨ahead, smoothly⟩ := perform_anticipates later empty sound.filed atOnce first
      obtain ⟨i, inlined⟩ : ∃ i, ((q.inline delivery).perform operation).1 = i := ⟨_, rfl⟩
      rw [inlined] at ahead rest
      -- The drain catches up with the session ahead.
      have drained : (q.perform operation).1.perform .drain
          = ((Change.around .queued []).apply i,
            .ok (.count (q.perform operation).1.queue.length)) := by
        rw [perform_drain, ahead.drain]
        rfl
      have sound' : Sound [] ((Change.around .queued []).apply i) := by
        have idle : q.Idle := by
          intro runs
          rw [later] at runs
          cases runs
        have arrives : Arrives (fun _ => True) ⟨[], q⟩ ⟨[], q.performAll [operation, .drain]⟩ :=
          performAll_arrives sound idle fun _ _ => trivial
        rw [performAll_cons, performAll_cons, drained] at arrives
        exact arrives.turns.sound sound
      rw [← ahead.inline_caughtUp] at rest
      obtain ⟨same, drainedLast, smoothly'⟩ := ih sound' rfl rfl rest
      rw [ahead.inline_caughtUp] at same
      rw [drainedAfterEach_cons, performAll_cons, performAll_cons, performAll_cons, inlined,
        drained]
      refine ⟨same, drainedLast, smoothly, ?_, ?_⟩
      · show ((q.perform operation).1.perform .drain).2.isOk = true
        rw [drained]
        rfl
      · show ((q.perform operation).1.perform .drain).1.RunsSmoothly _
        rw [drained]
        exact smoothly'

end Anticipation

/-- **Inline and queued deliveries agree.** Take a run with inline deliveries in which nothing is
refused while rows, values and log entries are written. The same run with queued deliveries, with
the queue drained after each operation, refuses nothing either, and after each operation the two
sessions are the same but for the way of delivery: panel, log, services, requests and all. -/
theorem inline_agrees (start : s.IsStart) (later : s.delivery = .queued) {delivery : Delivery}
    (atOnce : delivery.runsAtOnce false = true) {operations : List Operation}
    (smooth : ({ s with delivery } : Session).RunsSmoothly operations) :
    (∀ front, front <+: operations → ({ s with delivery } : Session).performAll front
        = { s.performAll (drainedAfterEach front) with delivery })
      ∧ s.RunsSmoothly (drainedAfterEach operations) := by
  have sound := start.sound
  have empty := start.queue_eq
  have same : s.inline delivery = { s with delivery } := by
    show ({ s with delivery, queue := [] } : Session) = _
    rw [← empty]
  rw [← same] at smooth ⊢
  refine ⟨?_, (performAll_inline atOnce operations sound later empty smooth).2.2⟩
  rintro front ⟨back, rfl⟩
  obtain ⟨agree, drained, _⟩ :=
    performAll_inline atOnce front sound later empty (runsSmoothly_append.mp smooth).1
  rw [agree]
  show ({ s.performAll (drainedAfterEach front) with delivery, queue := [] } : Session) = _
  rw [← drained]

/-- Two requests for one key fail together, the first of them stale. A third one is cancelled, and
the panel asks again when it is told so. -/
def Sample.failingTogether : List Operation :=
  [.activate (spot 1), .activate (spot 2), .activate (spot 1),
    .fail "S" (spot 1).key ⟨.runtime, ["boom"]⟩, .load, .cancel 3,
    .complete "S" (spot 2).key (emulator 0), .complete "S" (spot 1).key (emulator 0), .load]

theorem inline_agrees_failingTogether :
    ((Sample.start .immediate).performAll Sample.failingTogether).requests.map Request.state
        = [.finished (.failed ⟨.runtime, ["boom"]⟩), .finished (.emulated (Sample.emulator 0)),
          .finished (.failed ⟨.runtime, ["boom"]⟩), .cancelled, .outstanding]
      ∧ ((Sample.start .immediate).performAll Sample.failingTogether).panel.state = .loaded
      ∧ (Sample.start .immediate).performAll Sample.failingTogether
        = { (Sample.start .queued).performAll (drainedAfterEach Sample.failingTogether) with
            delivery := .immediate } := by
  have atOnce : Delivery.immediate.runsAtOnce false = true := rfl
  have smooth : ({ Sample.start .queued with delivery := .immediate } : Session).RunsSmoothly
      Sample.failingTogether := by decide +kernel
  obtain ⟨agree, _⟩ := inline_agrees (Sample.isStart_start .queued) rfl atOnce smooth
  exact ⟨by decide +kernel, by decide +kernel, agree _ (List.prefix_refl _)⟩

end Session

end PcodePanel
