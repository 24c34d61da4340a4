import PcodePanel.Proofs.Session.Turn

/-!
# Requests behind a cancelled one

A service that finishes the requests for a key takes all of them up, and then finishes one after the
other. A request that was cancelled cannot be finished, and this ends it: those behind are neither
finished nor listed any more. They stay as they are, and the panel may wait for one of them for
good.

* `Session.finishAll_finishes` — what becomes of the requests that are finished in order: those
  before the first settled one have the outcome, and the others are as they were;
* `Session.Accounted` — what is outstanding is listed, or held, or an older request for the same key
  was cancelled, an invariant of turns;
* `Session.finishes_unbarred` — the main result;
* `Session.loading_barred` — a run after which the panel waits for good.
-/

namespace PcodePanel

namespace Session

variable {allowed : Operation → Prop} {held held' : List RequestId} {s s' : Session}
  {id : RequestId} {request : Request} {outcome : Outcome}

/-! ## Finishing in order -/

/-- What is listed after a request was settled had been listed, or is new. -/
theorem listed_settle {state : RequestState} {service : ServiceId} {key : EmulationKey}
    {other : RequestId}
    (listed : other ∈ ((s.settle false id state).services service).waitingFor key) :
    other ∈ (s.services service).waitingFor key ∨ s.stateOf other = none := by
  obtain ⟨queue, undisturbed⟩ := s.undisturbed_settle false id state
  obtain ⟨issued, eq, new⟩ := undisturbed.lists service key
  rw [eq] at listed
  refine (List.mem_append.mp listed).imp_right fun isNew => ?_
  have beyond := new other isNew
  rw [mark, List.length_modify] at beyond
  rw [stateOf, List.getElem?_eq_none beyond, Option.map_none]

/-- What becomes of requests that are finished in order, and what is listed then. -/
structure Finishes (outcome : Outcome) (s : Session) (ids : List RequestId)
    (result : Session × Option Fault) : Prop where
  /-- Those before the first one that is settled already have the outcome. -/
  reached : ∀ id ∈ ids, (∀ other ∈ ids, other ≤ id → s.stateOf other = some .outstanding) →
    result.1.stateOf id = some (.finished outcome)
  /-- That one and those behind it are as they were. -/
  barred : ∀ bar ∈ ids, s.stateOf bar ≠ some .outstanding →
    ∀ id, bar ≤ id → s.stateOf id ≠ none → result.1.stateOf id = s.stateOf id
  elsewhere : ∀ id, id ∉ ids → s.stateOf id ≠ none → result.1.stateOf id = s.stateOf id
  listed : ∀ service key id, id ∈ (result.1.services service).waitingFor key →
    id ∈ (s.services service).waitingFor key ∨ s.stateOf id = none
  fault : result.2 = none ∧ (∀ id ∈ ids, s.stateOf id = some .outstanding)
    ∨ result.2 = some .alreadySettled ∧ ∃ id ∈ ids, s.stateOf id ≠ some .outstanding

/-- One that is settled already ends the finishing. -/
theorem Finishes.stop {ids : List RequestId} (behind : ∀ other ∈ ids, id < other)
    (settled : s.stateOf id ≠ some .outstanding) :
    Finishes outcome s (id :: ids) (s, some .alreadySettled) := by
  refine ⟨?_, fun _ _ _ _ _ _ => rfl, fun _ _ _ => rfl, fun _ _ _ => .inl,
    .inr ⟨rfl, id, List.mem_cons_self, settled⟩⟩
  intro other isHeld before
  refine absurd (before id List.mem_cons_self ?_) settled
  rcases List.mem_cons.mp isHeld with rfl | isHeld
  · exact Nat.le_refl _
  · exact Nat.le_of_lt (behind other isHeld)

/-- One that is outstanding is finished, which touches none of those behind it. -/
theorem Finishes.cons {ids : List RequestId} {result : Session × Option Fault}
    (behind : ∀ other ∈ ids, id < other) (known : ∀ other ∈ ids, s.stateOf other ≠ none)
    (outstanding : s.stateOf id = some .outstanding)
    (h : Finishes outcome (s.settle false id (.finished outcome)) ids result) :
    Finishes outcome s (id :: ids) result := by
  have fresh : id ∉ ids := fun again => Nat.lt_irrefl _ (behind id again)
  have agree : ∀ other ∈ ids,
      (s.settle false id (.finished outcome)).stateOf other = s.stateOf other := by
    intro other isHeld
    exact stateOf_settle_of_ne (Nat.ne_of_gt (behind other isHeld)) (known other isHeld)
  obtain ⟨reached, barred, elsewhere, listed, fault⟩ := h
  refine ⟨?_, ?_, ?_, ?_, ?_⟩
  · intro other isHeld before
    rcases List.mem_cons.mp isHeld with rfl | isHeld
    · have settled : (s.settle false other (.finished outcome)).stateOf other
          = some (.finished outcome) := by rw [stateOf_settle outstanding, if_pos rfl]
      rw [elsewhere other fresh (by rw [settled]; exact Option.some_ne_none _), settled]
    · refine reached other isHeld fun earlier isHeld' le => ?_
      rw [agree earlier isHeld']
      exact before earlier (List.mem_cons_of_mem _ isHeld') le
  · intro bar isHeld settled other le known'
    rcases List.mem_cons.mp isHeld with rfl | isHeld
    · exact absurd outstanding settled
    · have different : other ≠ id := Nat.ne_of_gt (Nat.lt_of_lt_of_le (behind bar isHeld) le)
      rw [barred bar isHeld ((agree bar isHeld) ▸ settled) other le (stateOf_settle_ne_none known'),
        stateOf_settle_of_ne different known']
  · intro other notHeld known'
    obtain ⟨different, notHeld⟩ := not_or.mp (mt List.mem_cons.mpr notHeld)
    rw [elsewhere other notHeld (stateOf_settle_ne_none known'),
      stateOf_settle_of_ne different known']
  · intro service key other listed'
    rcases listed service key other listed' with before | unknown
    · exact listed_settle before
    · exact .inr (by_contra fun known' => stateOf_settle_ne_none known' unknown)
  · rcases fault with ⟨none, all⟩ | ⟨some, other, isHeld, settled⟩
    · refine .inl ⟨none, ?_⟩
      intro other isHeld
      rcases List.mem_cons.mp isHeld with rfl | isHeld
      · exact outstanding
      · exact (agree other isHeld) ▸ all other isHeld
    · exact .inr ⟨some, other, List.mem_cons_of_mem _ isHeld, (agree other isHeld) ▸ settled⟩

theorem finishAll_finishes (outcome : Outcome) (ids : List RequestId) (s : Session)
    (ascending : ids.Pairwise (· < ·)) (known : ∀ id ∈ ids, s.stateOf id ≠ none) :
    Finishes outcome s ids (s.finishAll outcome ids) := by
  induction ids generalizing s with
  | nil =>
      exact ⟨by simp, by simp, fun _ _ _ => rfl, fun _ _ _ => .inl,
        .inl ⟨rfl, List.forall_mem_nil _⟩⟩
  | cons id ids ih =>
      obtain ⟨behind, ascending⟩ := List.pairwise_cons.mp ascending
      have knownBehind : ∀ other ∈ ids, s.stateOf other ≠ none :=
        fun other isHeld => known other (List.mem_cons_of_mem _ isHeld)
      unfold finishAll
      split
      · next outstanding =>
        refine .cons behind knownBehind outstanding (ih _ ascending ?_)
        exact fun other isHeld => stateOf_settle_ne_none (knownBehind other isHeld)
      · next settled => exact .stop behind settled

/-! ## What is outstanding -/

/-- An older request to the same service for the same key was cancelled. -/
def Barred (s : Session) (id : RequestId) (request : Request) : Prop :=
  ∃ older before, older < id ∧ s.requests[older]? = some before ∧ before.state = .cancelled
    ∧ before.service = request.service ∧ before.coordinates.key = request.coordinates.key

/-- What is held was listed together, and what is outstanding is listed, held or barred. -/
structure Accounted (held : List RequestId) (s : Session) : Prop where
  together : ∃ service key, ∀ id ∈ held, ∃ request, s.requests[id]? = some request
    ∧ request.service = service ∧ request.coordinates.key = key
  outstanding : ∀ {id : RequestId} {request : Request}, s.requests[id]? = some request →
    request.state = .outstanding →
    id ∈ peers s.services request ∨ id ∈ held ∨ s.Barred id request

namespace Accounted

theorem ofStart (start : s.IsStart) : Accounted [] s := by
  refine ⟨⟨"", Coordinates.nowhere.key, List.forall_mem_nil _⟩, ?_⟩
  intro id request found
  rw [start.getElem?_requests] at found
  cases found

/-- It looks at what is listed, and at the requests. -/
theorem congr (h : Accounted held s) (requests : s'.requests = s.requests)
    (lists : ∀ service key, (s'.services service).waitingFor key
      = (s.services service).waitingFor key) : Accounted held s' := by
  refine ⟨?_, ?_⟩
  · rw [requests]
    exact h.together
  · intro id request found state
    rw [requests] at found
    rw [peers, lists, Barred, requests]
    exact h.outstanding found state

theorem reload (h : Accounted held s) (sound : Sound held s) : Accounted held s.reload.1 := by
  rcases s.reload_cases with ⟨panel, log, _, eq⟩ | ⟨service, panel, log, _, _, eq⟩
  · rw [eq]
    exact h.congr rfl fun _ _ => rfl
  · have lists := fun other key => waitingFor_set_accept s.services service other
      panel.current.key key (sound.filed.manual service) s.requests.length
    have old : ∀ {id request}, s.requests[id]? = some request →
        s.reload.1.requests[id]? = some request := s.undisturbed_reload.getElem?
    rw [eq] at old ⊢
    refine ⟨?_, ?_⟩
    · obtain ⟨own, key, together⟩ := h.together
      refine ⟨own, key, fun id isHeld => ?_⟩
      obtain ⟨request, found, same⟩ := together id isHeld
      exact ⟨request, old found, same⟩
    · intro id request found state
      rw [services_issue, peers, lists]
      rcases issued_cases found with before | ⟨rfl, rfl⟩
      · rcases h.outstanding before state with listed | isHeld | ⟨older, other, le, bar, rest⟩
        · refine .inl ?_
          split
          · exact List.mem_append_left _ listed
          · exact listed
        · exact .inr (.inl isHeld)
        · exact .inr (.inr ⟨older, other, le, old bar, rest⟩)
      · rw [if_pos ⟨rfl, rfl⟩]
        exact .inl (List.mem_append_right _ List.mem_cons_self)

theorem takeUp (h : Accounted [] s) (filed : Filed [] s.services s.requests) (service : ServiceId)
    (key : EmulationKey) :
    Accounted ((s.services service).waitingFor key)
      (s.updateService service (Service.takeUp key)) := by
  refine ⟨⟨service, key, ?_⟩, ?_⟩
  · intro id listed
    obtain ⟨request, found, sameService, sameKey, _⟩ := filed.listed listed
    exact ⟨request, found, sameService, sameKey⟩
  · intro id request found state
    rcases h.outstanding found state with listed | isHeld | barred
    · rw [services_updateService, peers, waitingFor_set_takeUp]
      split
      · next same =>
        rw [peers, same.1, same.2] at listed
        exact .inr (.inl listed)
      · exact .inl listed
    · exact absurd isHeld List.not_mem_nil
    · exact .inr (.inr barred)

/-- What is held behind one that is settled is barred by it: that one was cancelled. -/
theorem giveUp (h : Accounted (id :: held) s) (filed : Filed (id :: held) s.services s.requests)
    (settled : s.stateOf id ≠ some .outstanding) : Accounted [] s := by
  obtain ⟨service, key, together⟩ := h.together
  refine ⟨⟨service, key, List.forall_mem_nil _⟩, ?_⟩
  intro other request found state
  rcases h.outstanding found state with listed | isHeld | barred
  · exact .inl listed
  · refine .inr (.inr ?_)
    obtain ⟨bar, foundBar, sameService, sameKey⟩ := together id List.mem_cons_self
    obtain ⟨request', found', service', key'⟩ := together other isHeld
    rw [found] at found'
    injection found' with same
    subst same
    rw [stateOf, foundBar] at settled
    have cancelled : bar.state = .cancelled := by
      obtain ⟨bar', foundBar', isOpen, _⟩ := filed.held_open List.mem_cons_self
      rw [foundBar] at foundBar'
      injection foundBar' with same
      subst same
      cases state : bar.state with
      | outstanding => exact absurd (by rw [← state]; rfl) settled
      | cancelled => rfl
      | finished outcome => exact absurd ⟨outcome, state⟩ isOpen
    have behind : id < other := by
      rcases List.mem_cons.mp isHeld with rfl | isHeld
      · rw [found] at foundBar
        injection foundBar with same
        rw [← same, state] at cancelled
        cases cancelled
      · exact List.rel_of_pairwise_cons filed.held_ascending isHeld
    exact ⟨id, bar, behind, foundBar, cancelled, sameService.trans service'.symm,
      sameKey.trans key'.symm⟩
  · exact .inr (.inr barred)

/-- A request that is settled is no longer outstanding, and those that are stay accounted for. -/
theorem settle {rest : List RequestId} {state : RequestState} {queue : List RequestId}
    (h : Accounted held s) (outstanding : s.stateOf id = some .outstanding)
    (settled : state ≠ .outstanding) (fewer : ∀ other ∈ rest, other ∈ held)
    (others : ∀ other ∈ held, other = id ∨ other ∈ rest) :
    Accounted rest { s.mark id state with queue } := by
  refine ⟨?_, ?_⟩
  · obtain ⟨service, key, together⟩ := h.together
    refine ⟨service, key, fun other isHeld => ?_⟩
    obtain ⟨request, found, same⟩ := together other (fewer other isHeld)
    have marked := s.getElem?_mark id other state
    rw [found] at marked
    split at marked
    · exact ⟨_, marked, same⟩
    · exact ⟨request, marked, same⟩
  · intro other request found isOutstanding
    rcases mark_cases found with ⟨different, before⟩ | ⟨_, _, _, rfl⟩
    · rcases h.outstanding before isOutstanding with listed | isHeld | ⟨older, bar, le, foundBar,
        cancelled, same⟩
      · exact .inl listed
      · exact .inr (.inl ((others other isHeld).resolve_left different))
      · -- What is settled now had not been cancelled.
        have apart : older ≠ id := by
          rintro rfl
          rw [stateOf, foundBar] at outstanding
          rw [Option.some.inj outstanding] at cancelled
          cases cancelled
        refine .inr (.inr ⟨older, bar, le, ?_, cancelled, same⟩)
        show (s.mark id state).requests[older]? = some bar
        rw [getElem?_mark, if_neg apart]
        exact foundBar
    · exact absurd isOutstanding settled

theorem turn (sound : Sound held s) (turn : Turn allowed ⟨held, s⟩ ⟨held', s'⟩)
    (h : Accounted held s) : Accounted held' s' := by
  cases turn with
  | aside | refresh | focus | rewire => exact h.congr rfl fun _ _ => rfl
  | load => exact h.reload sound
  | keep | evict => exact h.congr rfl fun _ _ => waitingFor_set_keep ..
  | takeUp => exact h.takeUp sound.filed _ _
  | giveUp settled => exact h.giveUp sound.filed settled
  | finish outstanding =>
      exact h.settle outstanding (by simp) (fun _ => List.mem_cons_of_mem _)
        fun _ => List.mem_cons.mp
  | cancel _ outstanding =>
      exact h.settle outstanding (by simp) (fun _ isHeld => isHeld) fun _ => .inr
  | take =>
      rw [forget_eq]
      exact h.congr rfl fun _ _ => rfl

end Accounted

/-! ## The requests for a key -/

/-- What has become of a request that was listed for a key, once the service has finished those for
the key. `before` is what had become of each request until then. -/
inductive Fate (outcome : Outcome) (listed : List RequestId)
    (before : RequestId → Option RequestState) (t : Session) (id : RequestId) : Prop
  | cancelled : before id = some .cancelled → t.stateOf id = some .cancelled →
      Fate outcome listed before t id
  | finished : (∀ other ∈ listed, other ≤ id → before other = some .outstanding) →
      t.stateOf id = some (.finished outcome) → Fate outcome listed before t id
  /-- A cancelled request is listed before it: it stays outstanding, and is listed no more. -/
  | lost : (∃ bar ∈ listed, bar < id ∧ before bar = some .cancelled) →
      before id = some .outstanding → t.stateOf id = some .outstanding →
      (∀ service key, id ∉ (t.services service).waitingFor key) → Fate outcome listed before t id

/-- What a service answers when it has finished the requests for a key. -/
def Answered (listed : List RequestId) (before : RequestId → Option RequestState)
    (reply : Except Fault Reply) : Prop :=
  reply = .ok .nothing ∧ (∀ id ∈ listed, before id = some .outstanding)
    ∨ reply = .error .alreadySettled ∧ ∃ id ∈ listed, before id = some .cancelled

theorem answer_snd (result : Session × Option Fault) (reply : Session → Reply) :
    (answer result reply).2 = result.2.elim (.ok (reply result.1)) .error := by
  obtain ⟨s, fault⟩ := result
  cases fault <;> rfl

/-- What is listed is outstanding or cancelled. -/
theorem Filed.stateOf_listed (filed : Filed [] s.services s.requests) {service : ServiceId}
    {key : EmulationKey} (listed : id ∈ (s.services service).waitingFor key) :
    s.stateOf id = some .outstanding ∨ s.stateOf id = some .cancelled := by
  obtain ⟨request, found, _, _, isOpen⟩ := filed.listed listed
  rw [stateOf, found, Option.map_some]
  cases state : request.state with
  | outstanding => exact .inl rfl
  | cancelled => exact .inr rfl
  | finished outcome => exact absurd ⟨outcome, state⟩ isOpen

/-- What is taken up is listed nowhere. -/
theorem Filed.not_listed_takeUp (filed : Filed [] s.services s.requests) {service other : ServiceId}
    {key otherKey : EmulationKey} (listed : id ∈ (s.services service).waitingFor key) :
    id ∉ ((s.updateService service (Service.takeUp key)).services other).waitingFor otherKey := by
  rw [services_updateService, waitingFor_set_takeUp]
  split
  · exact List.not_mem_nil
  · next apart =>
    intro elsewhere
    obtain ⟨request, found, sameService, sameKey, _⟩ := filed.listed listed
    obtain ⟨request', found', otherService, otherKey, _⟩ := filed.listed elsewhere
    rw [found] at found'
    injection found' with same
    subst same
    exact apart ⟨otherService.symm.trans sameService, otherKey.symm.trans sameKey⟩

theorem finishKey_fates (filed : Filed [] s.services s.requests) (service : ServiceId)
    (key : EmulationKey) (outcome : Outcome) :
    (∀ id ∈ (s.services service).waitingFor key,
        Fate outcome ((s.services service).waitingFor key) s.stateOf
          (s.finishKey service key outcome).1 id)
      ∧ Answered ((s.services service).waitingFor key) s.stateOf
        (s.finishKey service key outcome).2 := by
  have states := fun id (listed : id ∈ (s.services service).waitingFor key) =>
    filed.stateOf_listed listed
  have known : ∀ id ∈ (s.services service).waitingFor key, s.stateOf id ≠ none := by
    intro id listed unknown
    rcases states id listed with state | state <;> rw [state] at unknown <;> cases unknown
  have finishes := finishAll_finishes outcome ((s.services service).waitingFor key)
    (s.updateService service (Service.takeUp key)) (filed.ascending service key) known
  rw [finishKey, answer_fst, answer_snd]
  refine ⟨fun id listed => ?_, ?_⟩
  · have kept : ∀ bar ∈ (s.services service).waitingFor key, bar ≤ id →
        s.stateOf bar = some .cancelled →
        ((s.updateService service (Service.takeUp key)).finishAll outcome
          ((s.services service).waitingFor key)).1.stateOf id = s.stateOf id := by
      intro bar listedBar le cancelled
      exact finishes.barred bar listedBar (ne_of_eq_of_ne cancelled (by decide)) id le
        (known id listed)
    rcases states id listed with outstanding | cancelled
    · by_cases barred : ∃ bar ∈ (s.services service).waitingFor key,
          bar < id ∧ s.stateOf bar = some .cancelled
      · obtain ⟨bar, listedBar, before, cancelled⟩ := barred
        refine .lost ⟨bar, listedBar, before, cancelled⟩ outstanding ?_ ?_
        · exact (kept bar listedBar (Nat.le_of_lt before) cancelled).trans outstanding
        · intro other otherKey still
          rcases finishes.listed other otherKey id still with before | unknown
          · exact filed.not_listed_takeUp listed before
          · exact known id listed unknown
      · have clear : ∀ other ∈ (s.services service).waitingFor key, other ≤ id →
            s.stateOf other = some .outstanding := by
          intro other listedOther le
          rcases Nat.eq_or_lt_of_le le with rfl | before
          · exact outstanding
          · exact (states other listedOther).resolve_right
              fun cancelled => barred ⟨other, listedOther, before, cancelled⟩
        exact .finished clear (finishes.reached id listed clear)
    · exact .cancelled cancelled ((kept id listed (Nat.le_refl id) cancelled).trans cancelled)
  · rcases finishes.fault with ⟨none, all⟩ | ⟨some, id, listed, settled⟩
    · rw [none]
      exact .inl ⟨rfl, all⟩
    · rw [some]
      exact .inr ⟨rfl, id, listed, (states id listed).resolve_left settled⟩

/-- **A cancelled request bars those behind it.** At every state that a run can reach, also with
loads that fail: what is outstanding is listed by its service, or an older request for the same key
was cancelled. When a service finishes the requests for a key, those listed before the first
cancelled one have the outcome. Those listed behind it stay outstanding and are listed no more, and
the service refuses. -/
theorem finishes_unbarred (start : s.IsStart) (operations : List Operation) (service : ServiceId)
    (key : EmulationKey) (outcome : Outcome) :
    (∀ id request, (s.performAll operations).requests[id]? = some request →
        request.state = .outstanding →
        id ∈ peers (s.performAll operations).services request
          ∨ (s.performAll operations).Barred id request)
      ∧ (∀ id ∈ ((s.performAll operations).services service).waitingFor key,
        Fate outcome (((s.performAll operations).services service).waitingFor key)
          (s.performAll operations).stateOf
          ((s.performAll operations).perform (.finishing service key outcome)).1 id)
      ∧ Answered (((s.performAll operations).services service).waitingFor key)
        (s.performAll operations).stateOf
        ((s.performAll operations).perform (.finishing service key outcome)).2 := by
  have turns := (start.arrives operations).turns
  have filed := (turns.sound start.sound).filed
  refine ⟨?_, ?_⟩
  · intro id request found outstanding
    have accounted := turns.keep (P := Accounted) Accounted.turn start.sound
      (Accounted.ofStart start)
    rcases accounted.outstanding found outstanding with listed | isHeld | barred
    · exact .inl listed
    · exact absurd isHeld List.not_mem_nil
    · exact .inr barred
  · generalize s.performAll operations = t at filed ⊢
    cases outcome with
    | failed failure => exact finishKey_fates filed service key _
    | emulated emulator =>
        -- The emulator that is kept first is no matter of the lists.
        have fates := finishKey_fates (s := t.updateService service (Service.keep key emulator))
          (filed.keep service key emulator) service key (.emulated emulator)
        rw [services_updateService, waitingFor_set_keep] at fates
        exact fates

/-- Three requests for one key are listed. The one in the middle is cancelled, and the last was
issued when the panel was told so. -/
def Sample.middleCancelled : List Operation :=
  [.activate (spot 1), .activate (spot 2), .activate (spot 1), .cancel 2, .drain]

theorem finishes_unbarred_middle :
    (((Sample.start .queued).performAll Sample.middleCancelled).services "S").waitingFor
        (Sample.spot 1).key = [0, 2, 3]
      ∧ [0, 2, 3].map ((Sample.start .queued).performAll Sample.middleCancelled).stateOf
        = [some .outstanding, some .cancelled, some .outstanding]
      ∧ ∀ id ∈ [0, 2, 3], Fate (.emulated (Sample.emulator 0)) [0, 2, 3]
        ((Sample.start .queued).performAll Sample.middleCancelled).stateOf
        (((Sample.start .queued).performAll Sample.middleCancelled).perform
          (.complete "S" (Sample.spot 1).key (Sample.emulator 0))).1 id := by
  have listed : (((Sample.start .queued).performAll Sample.middleCancelled).services "S").waitingFor
      (Sample.spot 1).key = [0, 2, 3] := by decide +kernel
  obtain ⟨_, fates, _⟩ := finishes_unbarred (Sample.isStart_start .queued) Sample.middleCancelled
    "S" (Sample.spot 1).key (.emulated (Sample.emulator 0))
  rw [listed] at fates
  exact ⟨listed, by decide +kernel, fates⟩

/-- The request is cancelled, and the panel asks again when it is told so. -/
def Sample.askedTwice : Session :=
  (start .queued).performAll [.activate (spot 1), .cancel 0, .drain]

/-- The service fails the requests for the key: the second one is neither failed nor listed, and the
panel waits for it after every load. -/
def Sample.failedBehind : Session :=
  (askedTwice.perform (.fail "S" (spot 1).key ⟨.runtime, ["boom"]⟩)).1

theorem loading_barred :
    (Sample.askedTwice.services "S").waitingFor (Sample.spot 1).key = [0, 1]
      ∧ Sample.askedTwice.stateOf 1 = some .outstanding
      ∧ (Sample.askedTwice.perform
        (.complete "S" (Sample.spot 1).key (Sample.emulator 0))).1.stateOf 1 = some .outstanding
      ∧ Sample.failedBehind.stateOf 1 = some .outstanding
      ∧ (Sample.failedBehind.services "S").waitingFor (Sample.spot 1).key = []
      ∧ (Sample.failedBehind.performAll [.drain, .load]).panel.state = .loading
      ∧ (Sample.failedBehind.performAll [.drain, .load]).plan = .wait := by
  decide +kernel

end Session

end PcodePanel
