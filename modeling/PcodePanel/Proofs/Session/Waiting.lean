import PcodePanel.Proofs.Session.Move

/-!
# What a loading panel waits for

Where no request is cancelled, each is on its way from the service to the panel: listed, held by the
service, in the queue, delivered. A panel that is loading waits for a current request that has not
been delivered yet.

* `Session.Tracked` — the invariant of requests on their way;
* `Session.Waiting` — the invariant with what it means for a loading panel.
-/

namespace PcodePanel

namespace Session

variable {allowed : Operation → Prop} {held held' : List RequestId} {s s' : Session}

/-- Where the requests are, if none is cancelled. What the panel waits for has not been
delivered. -/
structure Tracked (held : List RequestId) (s : Session) : Prop where
  not_cancelled : ∀ {id : RequestId} {request}, s.requests[id]? = some request →
    request.state ≠ .cancelled
  outstanding : ∀ {id : RequestId} {request}, s.requests[id]? = some request →
    request.state = .outstanding → id ∈ peers s.services request ∨ id ∈ held
  pending : ∀ {id : RequestId} {request}, s.panel.pending = some id →
    s.requests[id]? = some request → request.state = .outstanding ∨ id ∈ s.queue

namespace Tracked

/-- Tracking looks only at requests, lists, the queue and what is waited for. -/
theorem congr (h : Tracked held s) (requests : s'.requests = s.requests)
    (lists : ∀ service key, (s'.services service).waitingFor key
      = (s.services service).waitingFor key)
    (waited : ∀ {id}, s'.panel.pending = some id → s.panel.pending = some id)
    (queue : s'.queue = s.queue) : Tracked held s' := by
  refine ⟨?_, ?_, ?_⟩
  · intro id request found
    rw [requests] at found
    exact h.not_cancelled found
  · intro id request found state
    rw [requests] at found
    rw [peers, lists]
    exact h.outstanding found state
  · intro id request waits found
    rw [requests] at found
    rw [queue]
    exact h.pending (waited waits) found

/-- A held request is outstanding. -/
theorem outstanding_of_held (h : Tracked held s) (filed : Filed held s.services s.requests)
    {id : RequestId} (isHeld : id ∈ held) : s.stateOf id = some .outstanding := by
  obtain ⟨request, found, isOpen, _⟩ := filed.held_open isHeld
  rw [stateOf, found]
  cases state : request.state with
  | outstanding => exact congrArg some state
  | cancelled => exact absurd state (h.not_cancelled found)
  | finished outcome => exact absurd ⟨outcome, state⟩ isOpen

/-- A new request is listed and waited for. -/
theorem issue (h : Tracked held s) {service : ServiceId}
    (manual : ∃ book, s.services service = .manual book) : Tracked held (s.issue service) := by
  have lists := fun other key => waitingFor_set_accept s.services service other
    s.panel.current.key key manual s.requests.length
  refine ⟨?_, ?_, ?_⟩
  · intro id request found
    rcases issued_cases found with found | ⟨_, rfl⟩
    · exact h.not_cancelled found
    · exact nofun
  · intro id request found state
    rw [peers, services_issue, lists]
    rcases issued_cases found with found | ⟨rfl, rfl⟩
    · refine (h.outstanding found state).imp_left fun listed => ?_
      split
      · exact List.mem_append_left _ listed
      · exact listed
    · rw [if_pos ⟨rfl, rfl⟩]
      exact .inl (List.mem_append_right _ List.mem_cons_self)
  · intro id request waits found
    injection waits with waits
    subst waits
    rcases issued_cases found with found | ⟨_, rfl⟩
    · exact absurd (List.getElem?_eq_some_iff.mp found).1 (Nat.lt_irrefl _)
    · exact .inl rfl

/-- A reload issues at most one request. -/
theorem reloaded (h : Tracked held s) (filed : Filed held s.services s.requests)
    (reloaded : Reloaded s s') : Tracked held s' := by
  cases reloaded with
  | nothing | placeholder | wait =>
      exact h.congr rfl (fun _ _ => rfl) (fun waits => waits) rfl
  | display _ _ shown =>
      obtain ⟨_, _, _, _, samePending⟩ := shown.follows
      refine h.congr rfl (fun _ _ => rfl) ?_ rfl
      intro id waits
      exact samePending.symm.trans waits
  | @ask service log plan =>
      refine issue ?_ (filed.manual service)
      exact h.congr rfl (fun _ _ => rfl) (fun waits => waits) rfl

/-- A held request that is finished enters the queue. -/
theorem finish {id : RequestId} {outcome : Outcome} (h : Tracked (id :: held) s) :
    Tracked held { s.mark id (.finished outcome) with queue := s.queue ++ [id] } := by
  refine ⟨?_, ?_, ?_⟩
  · intro other request found
    rcases mark_cases found with ⟨_, found⟩ | ⟨_, _, _, rfl⟩
    · exact h.not_cancelled found
    · exact nofun
  · intro other request found state
    rcases mark_cases found with ⟨different, found⟩ | ⟨_, _, _, rfl⟩
    · rcases h.outstanding found state with listed | isHeld
      · exact .inl listed
      · rcases List.mem_cons.mp isHeld with same | isHeld
        · exact absurd same different
        · exact .inr isHeld
    · cases state
  · intro other request waits found
    rcases mark_cases found with ⟨_, found⟩ | ⟨same, _⟩
    · exact (h.pending waits found).imp_right (List.mem_append_left _)
    · exact .inr (List.mem_append_right _ (List.mem_singleton.mpr same))

/-- What leaves the queue is not waited for any more. -/
theorem take (h : Tracked held s) {id : RequestId} {rest : List RequestId}
    (queue : s.queue = id :: rest) : Tracked held (forget { s with queue := rest } id) := by
  have pending : ∀ {other}, (forget { s with queue := rest } id).panel.pending = some other
      ↔ s.panel.pending = some other ∧ other ≠ id := pending_forget_iff
  rw [forget_eq] at pending ⊢
  refine ⟨h.not_cancelled, h.outstanding, ?_⟩
  intro other request waits found
  obtain ⟨waits, different⟩ := pending.mp waits
  refine (h.pending waits found).imp_right fun queued => ?_
  rw [queue] at queued
  exact (List.mem_cons.mp queued).resolve_left different

end Tracked

/-- A panel that is loading waits for a current request. -/
structure Waiting (held : List RequestId) (s : Session) : Prop where
  tracked : Tracked held s
  loading : s.panel.state = .loading → s.isWaiting = true

namespace Waiting

theorem ofStart (start : s.IsStart) : Waiting [] s := by
  obtain ⟨config, service, delivery, manager, catalog, log, memories, rfl⟩ := start.eq
  refine ⟨⟨?_, ?_, nofun⟩, nofun⟩
  · intro id request found
    simp at found
  · intro id request found
    simp at found

/-- Whether the panel waits depends on requests only through their being current. -/
theorem isWaiting_of_kept (waits : s.isWaiting = true)
    (pending : s'.panel.pending = s.panel.pending)
    (kept : ∀ {id : RequestId} {request}, s.requests[id]? = some request →
      request.isCurrent s.panel.current s.panel.generation = true →
      ∃ request', s'.requests[id]? = some request'
        ∧ request'.isCurrent s'.panel.current s'.panel.generation = true) :
    s'.isWaiting = true := by
  obtain ⟨id, request, pendingId, found, current⟩ := isWaiting_iff.mp waits
  obtain ⟨request', found', current'⟩ := kept found current
  exact isWaiting_iff.mpr ⟨id, request', pending.trans pendingId, found', current'⟩

/-- A reload makes a panel load only if it waits. -/
theorem ofReloaded (tracked : Tracked held s) (filed : Filed held s.services s.requests)
    (reloaded : Reloaded s s') : Waiting held s' := by
  refine ⟨tracked.reloaded filed reloaded, ?_⟩
  intro loading
  cases reloaded with
  | nothing => cases loading
  | placeholder plan =>
      obtain ⟨_, _, ⟨_, state, _⟩ | ⟨_, _, state, _⟩⟩ := plan_eq_placeholder_iff.mp plan
      · subst state
        cases loading
      · subst state
        cases loading
  | display _ _ shown =>
      exact absurd loading shown.not_loading
  | wait plan =>
      obtain ⟨_, _, _, _, waits⟩ := plan_eq_wait plan
      exact waits
  | @ask service log plan =>
      exact isWaiting_issue _ service

theorem ofDelivered {id : RequestId} {rest : List RequestId} (tracked : Tracked held s)
    (filed : Filed held s.services s.requests) (queue : s.queue = id :: rest)
    (delivered : Delivered { s with queue := rest } id s') : Waiting held s' := by
  have taken := tracked.take queue
  rw [forget_eq] at taken
  cases delivered with
  | failed =>
      rw [forget_eq]
      exact ⟨taken.congr rfl (fun _ _ => rfl) (fun waits => waits) rfl, nofun⟩
  | applied _ _ _ _ shown =>
      rw [forget_eq] at shown
      obtain ⟨_, _, _, _, samePending⟩ := shown.follows
      refine ⟨taken.congr rfl (fun _ _ => rfl) ?_ rfl, ?_⟩
      · intro other waits
        exact samePending.symm.trans waits
      · intro loading
        exact absurd loading shown.not_loading
  | stale _ _ reloaded =>
      rw [forget_eq] at reloaded
      refine ofReloaded ?_ ?_ reloaded
      · exact taken.congr rfl (fun _ _ => rfl) (fun waits => waits) rfl
      · exact filed

theorem move (noCancellation : ∀ id, ¬ allowed (.cancel id)) (sound : Sound held s)
    (move : Move allowed ⟨held, s⟩ ⟨held', s'⟩) (h : Waiting held s) : Waiting held' s' := by
  obtain ⟨tracked, loading⟩ := h
  obtain ⟨filed, watched⟩ := sound
  cases move with
  | aside | assign =>
      exact ⟨tracked.congr rfl (fun _ _ => rfl) (fun waits => waits) rfl, loading⟩
  | refresh _ sameAs =>
      refine ⟨tracked.congr rfl (fun _ _ => rfl) (fun waits => waits) rfl, ?_⟩
      intro isLoading
      refine isWaiting_of_kept (loading isLoading) rfl ?_
      intro id request found current
      obtain ⟨state, generation, coordinates⟩ := isCurrent_iff.mp current
      exact ⟨request, found, isCurrent_iff.mpr ⟨state, generation,
        Coordinates.sameAs_trans coordinates sameAs⟩⟩
  | keep | evict =>
      refine ⟨tracked.congr rfl ?_ (fun waits => waits) rfl, loading⟩
      intro other otherKey
      rw [services_updateService, waitingFor_set_keep]
  | @takeUp _ service key =>
      refine ⟨⟨tracked.not_cancelled, ?_, tracked.pending⟩, loading⟩
      intro id request found state
      rcases tracked.outstanding found state with listed | isHeld
      · rw [peers, services_updateService, waitingFor_set_takeUp]
        split
        · next here =>
          rw [peers, here.1, here.2] at listed
          exact .inr listed
        · exact .inl listed
      · exact absurd isHeld List.not_mem_nil
  -- A service gives up only what was cancelled.
  | giveUp isHeld closed => exact absurd (tracked.outstanding_of_held filed isHeld) closed
  | @finish _ _ id outcome =>
      refine ⟨tracked.finish, ?_⟩
      intro isLoading
      refine isWaiting_of_kept (loading isLoading) rfl ?_
      intro other request found current
      obtain ⟨state, isLive⟩ := isCurrent_iff.mp current
      rw [getElem?_mark, found]
      split
      · exact ⟨_, rfl, isCurrent_iff.mpr ⟨by simp, isLive⟩⟩
      · exact ⟨request, rfl, current⟩
  | cancel ok => exact absurd ok (noCancellation _)
  | load _ reloaded => exact ofReloaded tracked filed reloaded
  | focus _ _ reloaded =>
      refine ofReloaded ?_ ?_ reloaded
      · exact tracked.congr rfl (fun _ _ => rfl) (fun waits => waits) rfl
      · exact filed
  | rewire _ reloaded =>
      refine ofReloaded ?_ ?_ reloaded
      · refine tracked.congr rfl (fun _ _ => rfl) ?_ rfl
        intro id waits
        cases waits
      · exact filed
  | deliver queue delivered => exact ofDelivered tracked filed queue delivered

end Waiting

end Session

end PcodePanel
