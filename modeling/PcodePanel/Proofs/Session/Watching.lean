import Mathlib.Data.List.Nodup
import PcodePanel.Proofs.Session.Reload

/-!
# How the panel watches requests

The panel compares the generation of a request with its own. `Session.Watched` says what that
amounts to: a request of the live generation was issued to the service that is set now for the
coordinates that are shown now, and one that the panel has still to be told of, and that was not
cancelled, is the one that the panel waits for. It is an invariant of all that happens to a panel
and its requests.

* `Watched.advance` — a new generation has no requests;
* `Watched.reloaded` — a reload may issue one, and then waits for it;
* `Watched.settle`, `Watched.take` — a request enters the queue and leaves it;
* `Session.Inherits` — nothing is newly waited for, so that an invariant about what is waited for
  goes on.
-/

namespace PcodePanel

namespace Session

/-- How the panel, the requests and the queue go together. -/
structure Watched (s : Session) : Prop where
  generation_le : ∀ {id : RequestId} {request : Request}, s.requests[id]? = some request →
    request.generation ≤ s.panel.generation
  live : ∀ {id : RequestId} {request : Request}, s.requests[id]? = some request →
    request.generation = s.panel.generation → s.panel.service = some request.service
      ∧ request.coordinates.sameAs s.panel.current = true ∧ request.coordinates.Askable
  /-- The panel waits for the latest request, if for any. -/
  last : ∀ {id : RequestId}, s.panel.pending = some id → s.requests.length = id + 1
  awaited : ∀ {id : RequestId} {request : Request}, s.requests[id]? = some request →
    request.generation = s.panel.generation → request.state ≠ .cancelled →
    request.state = .outstanding ∨ id ∈ s.queue → s.panel.pending = some id
  settled : ∀ {id : RequestId}, id ∈ s.queue →
    ∃ request, s.requests[id]? = some request ∧ request.state ≠ .outstanding
  queue_nodup : s.queue.Nodup

namespace Watched

variable {s s' : Session}

/-- Watching looks only at what the panel follows and waits for. -/
theorem congr (h : Watched s) (service : s'.panel.service = s.panel.service)
    (current : s.panel.current.sameAs s'.panel.current = true)
    (generation : s'.panel.generation = s.panel.generation)
    (pending : s'.panel.pending = s.panel.pending) (requests : s'.requests = s.requests)
    (queue : s'.queue = s.queue) : Watched s' := by
  refine ⟨?_, ?_, ?_, ?_, ?_, ?_⟩
  · intro id request found
    rw [requests] at found
    rw [generation]
    exact h.generation_le found
  · intro id request found sameGeneration
    rw [requests] at found
    rw [generation] at sameGeneration
    obtain ⟨sameService, sameAs, askable⟩ := h.live found sameGeneration
    exact ⟨service.trans sameService, Coordinates.sameAs_trans sameAs current, askable⟩
  · intro id waits
    rw [pending] at waits
    rw [requests]
    exact h.last waits
  · intro id request found sameGeneration state undelivered
    rw [requests] at found
    rw [generation] at sameGeneration
    rw [queue] at undelivered
    rw [pending]
    exact h.awaited found sameGeneration state undelivered
  · intro id queued
    rw [queue] at queued
    rw [requests]
    exact h.settled queued
  · rw [queue]
    exact h.queue_nodup

/-- A request of the live generation that was not cancelled is current, and no other is. -/
theorem isCurrent_iff_generation (h : Watched s) {id : RequestId} {request : Request}
    (found : s.requests[id]? = some request) :
    request.isCurrent s.panel.current s.panel.generation = true
      ↔ request.state ≠ .cancelled ∧ request.generation = s.panel.generation := by
  rw [isCurrent_iff]
  constructor
  · rintro ⟨state, generation, _⟩
    exact ⟨state, generation⟩
  · rintro ⟨state, generation⟩
    exact ⟨state, generation, (h.live found generation).2.1⟩

/-- What is current can be asked for. -/
theorem askable_of_isCurrent (h : Watched s) {id : RequestId} {request : Request}
    (found : s.requests[id]? = some request)
    (current : request.isCurrent s.panel.current s.panel.generation = true) :
    s.panel.service = some request.service ∧ request.coordinates.key = s.panel.current.key
      ∧ s.panel.current.Askable := by
  obtain ⟨_, generation, _⟩ := isCurrent_iff.mp current
  obtain ⟨service, sameAs, askable⟩ := h.live found generation
  obtain ⟨trace, time, thread⟩ := Coordinates.sameAs_iff.mp sameAs
  refine ⟨service, Coordinates.key_of_sameAs sameAs, ?_⟩
  rw [Coordinates.Askable, ← trace, ← time, ← thread]
  exact askable

/-- Where there is something to display, it is kept for every request that is current. -/
theorem cached_of_display (h : Watched s) {emulator : Emulator} (plan : s.plan = .display emulator)
    {id : RequestId} {request : Request} (found : s.requests[id]? = some request)
    (current : request.isCurrent s.panel.current s.panel.generation = true) :
    (s.services request.service).cached? request.coordinates.key = some emulator := by
  obtain ⟨service, live, _, cached⟩ := plan_eq_display plan
  obtain ⟨own, key, _⟩ := h.askable_of_isCurrent found current
  rw [live] at own
  injection own with own
  rw [key, ← own]
  exact cached

/-- A panel that a reload lets wait has asked the live service for what is not kept. -/
theorem asked_of_wait (h : Watched s) (plan : s.plan = .wait) :
    ∃ id request, s.panel.pending = some id ∧ s.requests[id]? = some request
      ∧ request.isCurrent s.panel.current s.panel.generation = true
      ∧ s.panel.service = some request.service
      ∧ request.coordinates.key = s.panel.current.key
      ∧ (s.services request.service).cached? request.coordinates.key = none := by
  obtain ⟨service, live, _, absent, waiting⟩ := plan_eq_wait plan
  obtain ⟨id, request, waits, found, current⟩ := isWaiting_iff.mp waiting
  obtain ⟨own, key, _⟩ := h.askable_of_isCurrent found current
  refine ⟨id, request, waits, found, current, own, key, ?_⟩
  rw [live] at own
  injection own with own
  rw [key, ← own]
  exact absent

/-- What is in the queue has been settled. -/
theorem stateOf_ne_outstanding (h : Watched s) {id : RequestId} (queued : id ∈ s.queue) :
    s.stateOf id ≠ some .outstanding := by
  obtain ⟨request, found, settled⟩ := h.settled queued
  rw [stateOf, found]
  intro outstanding
  exact settled (Option.some.inj outstanding)

/-- A request in the queue that is current is waited for. -/
theorem pending_of_isCurrent (h : Watched s) {id : RequestId} {request : Request}
    (queued : id ∈ s.queue) (found : s.requests[id]? = some request)
    (current : request.isCurrent s.panel.current s.panel.generation = true) :
    s.panel.pending = some id := by
  obtain ⟨state, generation⟩ := (h.isCurrent_iff_generation found).mp current
  exact h.awaited found generation state (.inr queued)

/-- To be told of a request that is not waited for is to reload. -/
theorem reloaded_of_delivered (h : Watched s) {id : RequestId} {rest : List RequestId}
    (queue : s.queue = id :: rest) (other : s.panel.pending ≠ some id)
    (delivered : Delivered { s with queue := rest } id s') :
    ∃ log,
      Reloaded { s with queue := rest, log, panel := { s.panel with state := .stale } } s' := by
  have queued : id ∈ s.queue := by
    rw [queue]
    exact List.mem_cons_self
  cases delivered with
  | failed found current => exact absurd (h.pending_of_isCurrent queued found current) other
  | applied found current => exact absurd (h.pending_of_isCurrent queued found current) other
  | @stale _ log _ _ _ reloaded =>
      have unforgotten : forget { s with queue := rest } id = { s with queue := rest } :=
        if_neg other
      rw [unforgotten] at reloaded
      exact ⟨log, reloaded⟩

/-- A new generation has no requests, whatever the panel follows in it. -/
theorem advance (h : Watched s) (generation : s'.panel.generation = s.panel.generation + 1)
    (pending : s'.panel.pending = s.panel.pending ∨ s'.panel.pending = none)
    (requests : s'.requests = s.requests) (queue : s'.queue = s.queue) : Watched s' := by
  have older : ∀ {id : RequestId} {request : Request}, s'.requests[id]? = some request →
      request.generation < s'.panel.generation := by
    intro id request found
    rw [requests] at found
    have := h.generation_le found
    omega
  refine ⟨?_, ?_, ?_, ?_, ?_, ?_⟩
  · intro id request found
    exact Int.le_of_lt (older found)
  · intro id request found same
    exact absurd same (Int.ne_of_lt (older found))
  · intro id waits
    rcases pending with pending | pending
    · rw [pending] at waits
      rw [requests]
      exact h.last waits
    · rw [pending] at waits
      cases waits
  · intro id request found same
    exact absurd same (Int.ne_of_lt (older found))
  · intro id queued
    rw [queue] at queued
    rw [requests]
    exact h.settled queued
  · rw [queue]
    exact h.queue_nodup

/-- A new request for the current coordinates is waited for. It is issued only when no other is. -/
theorem issue (h : Watched s) {service : ServiceId} (live : s.panel.service = some service)
    (askable : s.panel.current.Askable) (idle : s.isWaiting = false) :
    Watched (s.issue service) := by
  refine ⟨?_, ?_, ?_, ?_, ?_, h.queue_nodup⟩
  · intro id request found
    rcases issued_cases found with found | ⟨_, rfl⟩
    · exact h.generation_le found
    · exact Int.le_refl _
  · intro id request found generation
    rcases issued_cases found with found | ⟨_, rfl⟩
    · exact h.live found generation
    · exact ⟨live, Coordinates.sameAs_self _, askable⟩
  · intro id waits
    injection waits with waits
    subst waits
    show (s.requests ++ [_]).length = _
    rw [List.length_append, List.length_singleton]
  · intro id request found generation state undelivered
    rcases issued_cases found with found | ⟨rfl, _⟩
    · -- An undelivered request of this generation would be waited for already.
      have waits := h.awaited found generation state undelivered
      have current := (h.isCurrent_iff_generation found).mpr ⟨state, generation⟩
      rw [isWaiting_iff.mpr ⟨id, request, waits, found, current⟩] at idle
      cases idle
    · rfl
  · intro id queued
    obtain ⟨request, found, state⟩ := h.settled queued
    refine ⟨request, ?_, state⟩
    rw [issue_eq]
    rw [List.getElem?_append_left (List.getElem?_eq_some_iff.mp found).1, found]

/-- A reload keeps the watch. -/
theorem reloaded (h : Watched s) (reloaded : Reloaded s s') : Watched s' := by
  have same := Coordinates.sameAs_self s.panel.current
  cases reloaded with
  | nothing | placeholder | wait => exact h.congr rfl same rfl rfl rfl rfl
  | display _ _ shown =>
      obtain ⟨service, current, _, generation, pending⟩ := shown.follows
      exact h.congr service (by rw [current]; exact same) generation pending rfl rfl
  | @ask service log plan =>
      obtain ⟨live, askable, _, idle⟩ := plan_eq_ask plan
      have shown : Watched { s.clearLabel.showPlaceholder .loading .loading none with log } :=
        h.congr rfl same rfl rfl rfl rfl
      exact shown.issue live askable idle

/-- A request that is settled enters the queue. -/
theorem settle (h : Watched s) {id : RequestId} {state : RequestState}
    (outstanding : s.stateOf id = some .outstanding) (final : state ≠ .outstanding) :
    Watched { s.mark id state with queue := s.queue ++ [id] } := by
  obtain ⟨request, found, open_⟩ := Option.map_eq_some_iff.mp outstanding
  -- Settling changes what has become of one request, and nothing else about it.
  have before : ∀ {other : RequestId} {request' : Request},
      (s.mark id state).requests[other]? = some request' → other ≠ id
        ∧ s.requests[other]? = some request' ∨ other = id
          ∧ request' = { request with state } := by
    intro other request' found'
    refine (mark_cases found').imp_right fun marked => ?_
    obtain ⟨same, before, foundBefore, changed⟩ := marked
    rw [found] at foundBefore
    injection foundBefore with foundBefore
    exact ⟨same, foundBefore ▸ changed⟩
  have absent : id ∉ s.queue := fun member => h.stateOf_ne_outstanding member outstanding
  refine ⟨?_, ?_, ?_, ?_, ?_, ?_⟩
  · intro other request' found'
    rcases before found' with ⟨_, found'⟩ | ⟨_, rfl⟩
    · exact h.generation_le found'
    · show request.generation ≤ s.panel.generation
      exact h.generation_le found
  · intro other request' found' generation
    rcases before found' with ⟨_, found'⟩ | ⟨_, rfl⟩
    · exact h.live found' generation
    · have isLive := h.live found
      exact isLive generation
  · intro other waits
    show (s.mark id state).requests.length = _
    rw [mark, List.length_modify]
    exact h.last waits
  · intro other request' found' generation open' undelivered
    rcases before found' with ⟨different, found'⟩ | ⟨rfl, rfl⟩
    · refine h.awaited found' generation open' (undelivered.imp_right fun member => ?_)
      rcases List.mem_append.mp member with member | member
      · exact member
      · exact absurd (List.mem_singleton.mp member) different
    · refine h.awaited found generation ?_ (.inl open_)
      rw [open_]
      intro cancelled
      cases cancelled
  · intro other member
    show ∃ request, (s.mark id state).requests[other]? = some request ∧ _
    rw [getElem?_mark]
    rcases List.mem_append.mp member with member | member
    · obtain ⟨request', found', settled⟩ := h.settled member
      rw [if_neg (fun same : other = id => absent (same ▸ member))]
      exact ⟨request', found', settled⟩
    · rw [if_pos (List.mem_singleton.mp member), List.mem_singleton.mp member, found]
      exact ⟨_, rfl, final⟩
  · show (s.queue ++ [id]).Nodup
    rw [← List.concat_eq_append, List.nodup_concat]
    exact ⟨absent, h.queue_nodup⟩

/-- A request that leaves the queue is forgotten if the panel waits for it. -/
theorem take (h : Watched s) {id : RequestId} {rest : List RequestId}
    (queue : s.queue = id :: rest) : Watched (forget { s with queue := rest } id) := by
  have member : ∀ {other}, other ∈ rest → other ∈ s.queue := by
    intro other isRest
    rw [queue]
    exact List.mem_cons_of_mem _ isRest
  have nodup := h.queue_nodup
  rw [queue, List.nodup_cons] at nodup
  have pending : ∀ {other}, (forget { s with queue := rest } id).panel.pending = some other
      ↔ s.panel.pending = some other ∧ other ≠ id := pending_forget_iff
  rw [forget_eq] at pending ⊢
  refine ⟨h.generation_le, h.live, fun waits => h.last (pending.mp waits).1, ?_,
    fun queued => h.settled (member queued), nodup.2⟩
  intro other request found generation open_ undelivered
  refine pending.mpr ⟨h.awaited found generation open_ (undelivered.imp_right member), ?_⟩
  -- The request that leaves the queue is neither outstanding nor in the queue a second time.
  rintro rfl
  rcases undelivered with outstanding | isRest
  · obtain ⟨request', found', settled⟩ := h.settled (queue ▸ List.mem_cons_self)
    rw [show s.requests[other]? = some request from found] at found'
    injection found' with found'
    exact settled (found' ▸ outstanding)
  · exact nodup.1 isRest

/-- What is left when a request is dropped is watched. -/
theorem stale (h : Watched s) {id : RequestId} {rest : List RequestId} {log : Option EventLog}
    (queue : s.queue = id :: rest) :
    Watched ({ forget { s with queue := rest } id with log }.setState .stale) := by
  have taken := h.take queue
  rw [forget_eq] at taken ⊢
  exact taken.congr rfl (Coordinates.sameAs_self _) rfl rfl rfl rfl

/-- Telling the panel of the first request in the queue keeps the watch. -/
theorem delivered (h : Watched s) {id : RequestId} {rest : List RequestId}
    (queue : s.queue = id :: rest) (delivered : Delivered { s with queue := rest } id s') :
    Watched s' := by
  have taken := h.take queue
  have same := Coordinates.sameAs_self s.panel.current
  cases delivered with
  | failed =>
      rw [forget_eq] at taken ⊢
      exact taken.congr rfl same rfl rfl rfl rfl
  | applied _ _ _ _ shown =>
      obtain ⟨service, current, _, generation, pending⟩ := shown.follows
      exact taken.congr service (by rw [current, forget_eq]; exact same) generation pending
        (by rw [forget_eq]) (by rw [forget_eq])
  | stale _ _ reloaded => exact (h.stale queue).reloaded reloaded

end Watched

/-! ## What goes on being waited for -/

/-- What is waited for and current afterwards was so before, whatever has become of it since. -/
def Inherits (s s' : Session) : Prop :=
  ∀ id request', s'.panel.pending = some id → s'.requests[id]? = some request' →
    request'.isCurrent s'.panel.current s'.panel.generation = true →
    ∃ request, s.panel.pending = some id ∧ s.requests[id]? = some request
      ∧ request.isCurrent s.panel.current s.panel.generation = true
      ∧ request.service = request'.service ∧ request.coordinates = request'.coordinates

namespace Inherits

variable {s s' : Session}

/-- Of an earlier generation nothing is current. -/
theorem of_advance (h : Watched s) (generation : s'.panel.generation = s.panel.generation + 1)
    (requests : s'.requests = s.requests) : s.Inherits s' := by
  intro id request' _ found current
  rw [requests] at found
  have earlier := h.generation_le found
  have now := (isCurrent_iff.mp current).2.1
  omega

/-- Within a generation it does not matter which stack level is shown. -/
theorem of_generation (h : Watched s) (generation : s'.panel.generation = s.panel.generation)
    (pending : ∀ {id}, s'.panel.pending = some id → s.panel.pending = some id)
    (requests : s'.requests = s.requests) : s.Inherits s' := by
  intro id request' waits found current
  rw [requests] at found
  rw [isCurrent_iff, generation] at current
  obtain ⟨state, sameGeneration, _⟩ := current
  exact ⟨request', pending waits, found,
    (h.isCurrent_iff_generation found).mpr ⟨state, sameGeneration⟩, rfl, rfl⟩

/-- A request that is current when it is settled was current before. -/
theorem of_mark (h : Watched s) {id : RequestId} {state : RequestState} {queue : List RequestId}
    (outstanding : s.stateOf id = some .outstanding) :
    s.Inherits { s.mark id state with queue } := by
  intro other request' waits found current
  rcases mark_cases found with ⟨_, found⟩ | ⟨rfl, before, foundBefore, rfl⟩
  · exact ⟨request', waits, found, current, rfl, rfl⟩
  · have open_ : before.state = .outstanding := by
      rw [stateOf, foundBefore] at outstanding
      injection outstanding
    have notCancelled : before.state ≠ .cancelled := by
      rw [open_]
      exact nofun
    obtain ⟨_, generation, _⟩ := isCurrent_iff.mp current
    exact ⟨before, waits, foundBefore,
      (h.isCurrent_iff_generation foundBefore).mpr ⟨notCancelled, generation⟩, rfl, rfl⟩

/-- A request that is dropped leaves the others waited for. -/
theorem of_stale (h : Watched s) {id : RequestId} {rest : List RequestId} {log : Option EventLog} :
    s.Inherits ({ forget { s with queue := rest } id with log }.setState .stale) := by
  have pending : ∀ {other}, (forget { s with queue := rest } id).panel.pending = some other
      ↔ s.panel.pending = some other ∧ other ≠ id := pending_forget_iff
  rw [forget_eq] at pending ⊢
  exact of_generation h rfl (fun waits => (pending.mp waits).1) rfl

end Inherits

end Session

end PcodePanel
