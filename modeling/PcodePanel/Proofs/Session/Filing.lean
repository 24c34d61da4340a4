import PcodePanel.Proofs.Session.Reload

/-!
# How requests are filed

A manual service lists the requests for a key until it takes them up. While it finishes those it
has taken up, they are *held*: no longer listed, and not settled yet. `Session.Filed` says how the
lists, the held requests and the requests of the session go together; it is an invariant of all
that happens to them.

* `Filed.issue`, `Filed.takeUp` — the way of a request: it is listed, and then held;
* `Filed.settle` — a held request is finished, or any request is cancelled.
-/

namespace PcodePanel

/-- Whether the request has come to an outcome. -/
def Request.Finished (request : Request) : Prop :=
  ∃ outcome, request.state = .finished outcome

namespace Service

@[simp]
theorem waitingFor_keep (service : Service) (key other : EmulationKey)
    (emulator : Option Emulator) :
    (service.keep key emulator).waitingFor other = service.waitingFor other := by
  cases service <;> rfl

theorem waitingFor_takeUp_of_ne (service : Service) {key other : EmulationKey} (h : other ≠ key) :
    (service.takeUp key).waitingFor other = service.waitingFor other := by
  cases service with
  | manual service => exact Table.set_of_ne _ _ h
  | pool service => rfl

/-- A manual service lists a request that it accepts. -/
theorem waitingFor_accept {service : ManualService} (key other : EmulationKey) (id : RequestId) :
    ((Service.manual service).accept key id).waitingFor other =
      if other = key then service.waiting key ++ [id] else service.waiting other := rfl

end Service

namespace Session

theorem services_updateService (s : Session) (service : ServiceId) (change : Service → Service) :
    (s.updateService service change).services
      = s.services.set service (change (s.services service)) := rfl

theorem services_issue (s : Session) (service : ServiceId) :
    (s.issue service).services
      = s.services.set service
        ((s.services service).accept s.panel.current.key s.requests.length) := rfl

section Services

variable (services : Table ServiceId Service) (service other : ServiceId)
  (key otherKey : EmulationKey)

/-- What is kept after an emulator was put in its place, or taken out. -/
theorem cached?_set_keep (emulator : Option Emulator) :
    ((services.set service ((services service).keep key emulator)) other).cached? otherKey =
      if other = service ∧ otherKey = key then emulator else (services other).cached? otherKey := by
  by_cases same : other = service
  · subst same
    rw [Table.set_same, Service.cached?_keep]
    by_cases sameKey : otherKey = key
    · rw [if_pos sameKey, if_pos ⟨rfl, sameKey⟩]
    · rw [if_neg sameKey, if_neg fun h => sameKey h.2]
  · rw [Table.set_of_ne _ _ same, if_neg fun h => same h.1]

theorem cached?_set_takeUp :
    ((services.set service ((services service).takeUp key)) other).cached?
      = (services other).cached? := by
  by_cases same : other = service
  · subst same
    rw [Table.set_same, Service.cached?_takeUp]
  · rw [Table.set_of_ne _ _ same]

theorem waitingFor_set_keep (emulator : Option Emulator) :
    ((services.set service ((services service).keep key emulator)) other).waitingFor otherKey
      = (services other).waitingFor otherKey := by
  by_cases same : other = service
  · subst same
    rw [Table.set_same, Service.waitingFor_keep]
  · rw [Table.set_of_ne _ _ same]

/-- The lists after a service has taken up those for a key. -/
theorem waitingFor_set_takeUp :
    ((services.set service ((services service).takeUp key)) other).waitingFor otherKey =
      if other = service ∧ otherKey = key then [] else (services other).waitingFor otherKey := by
  by_cases same : other = service
  · subst same
    rw [Table.set_same]
    by_cases sameKey : otherKey = key
    · subst sameKey
      rw [Service.waitingFor_takeUp, if_pos ⟨rfl, rfl⟩]
    · rw [Service.waitingFor_takeUp_of_ne _ sameKey, if_neg fun h => sameKey h.2]
  · rw [Table.set_of_ne _ _ same, if_neg fun h => same h.1]

/-- The lists after a manual service has accepted a request. -/
theorem waitingFor_set_accept (manual : ∃ book, services service = .manual book)
    (id : RequestId) :
    ((services.set service ((services service).accept key id)) other).waitingFor otherKey =
      if other = service ∧ otherKey = key then (services other).waitingFor otherKey ++ [id]
      else (services other).waitingFor otherKey := by
  obtain ⟨book, eq⟩ := manual
  by_cases same : other = service
  · subst same
    rw [Table.set_same, eq, Service.waitingFor_accept]
    by_cases sameKey : otherKey = key
    · subst sameKey
      rw [if_pos rfl, if_pos ⟨rfl, rfl⟩]
      rfl
    · rw [if_neg sameKey, if_neg fun h => sameKey h.2]
      rfl
  · rw [Table.set_of_ne _ _ same, if_neg fun h => same h.1]

/-- Whatever a manual service does, it and the others stay manual. -/
theorem manual_set {change : Service → Service}
    (all : ∀ other, ∃ book, services other = .manual book)
    (manual : ∀ book, ∃ book', change (.manual book) = .manual book') :
    ∃ book, (services.set service (change (services service))) other = .manual book := by
  by_cases same : other = service
  · subst same
    obtain ⟨book, eq⟩ := all other
    rw [Table.set_same, eq]
    exact manual book
  · rw [Table.set_of_ne _ _ same]
    exact all other

end Services

variable {held : List RequestId} {services : Table ServiceId Service} {requests : List Request}

/-- The requests that are listed where a request is or would be. -/
def peers (services : Table ServiceId Service) (request : Request) : List RequestId :=
  (services request.service).waitingFor request.coordinates.key

/-- How lists, held requests and requests go together, over manual services. A request is listed
under its own key by its own service, older requests first; what is listed was issued later than
what has been taken up. -/
structure Filed (held : List RequestId) (services : Table ServiceId Service)
    (requests : List Request) : Prop where
  manual : ∀ service, ∃ book, services service = .manual book
  listed : ∀ {service key id}, id ∈ (services service).waitingFor key →
    ∃ request, requests[id]? = some request ∧ request.service = service
      ∧ request.coordinates.key = key ∧ ¬ request.Finished
  ascending : ∀ service key, ((services service).waitingFor key).Pairwise (· < ·)
  held_ascending : held.Pairwise (· < ·)
  held_open : ∀ {id}, id ∈ held → ∃ request, requests[id]? = some request
    ∧ ¬ request.Finished ∧ ∀ later ∈ peers services request, id < later
  finished : ∀ {id request}, requests[id]? = some request → request.Finished →
    ∀ later ∈ peers services request, id < later

/-- A request that is settled keeps its service and its key, and no other is finished by that. -/
theorem getElem?_settled {other : RequestId} {request : Request} (id : RequestId)
    (state : RequestState) (found : requests[other]? = some request) :
    ∃ request', (requests.modify id fun request => { request with state })[other]? = some request'
      ∧ request'.service = request.service ∧ request'.coordinates = request.coordinates
      ∧ (request'.Finished → ¬ request.Finished →
        other = id ∧ ∃ outcome, state = .finished outcome) := by
  by_cases same : id = other
  · subst same
    rw [List.getElem?_modify_eq, found]
    exact ⟨_, rfl, rfl, rfl, fun isFinished _ => ⟨rfl, isFinished⟩⟩
  · rw [List.getElem?_modify_ne _ _ same]
    exact ⟨request, found, rfl, rfl, fun isFinished isOpen => absurd isFinished isOpen⟩

theorem filed_empty : Filed [] (fun _ => .manual {}) [] where
  manual _ := ⟨{}, rfl⟩
  listed h := absurd h List.not_mem_nil
  ascending _ _ := List.Pairwise.nil
  held_ascending := List.Pairwise.nil
  held_open h := absurd h List.not_mem_nil
  finished h := by simp at h

namespace Filed

/-- What is held may be given up: it is then neither listed nor settled. -/
theorem giveUp (h : Filed held services requests) : Filed [] services requests :=
  { h with held_ascending := List.Pairwise.nil, held_open := fun h => absurd h List.not_mem_nil }

/-- Filing looks only at the lists of the services. -/
theorem congr {services' : Table ServiceId Service} (h : Filed held services requests)
    (manual : ∀ service, ∃ book, services' service = .manual book)
    (same : ∀ service key, (services' service).waitingFor key
      = (services service).waitingFor key) : Filed held services' requests := by
  refine ⟨manual, ?_, ?_, h.held_ascending, ?_, ?_⟩
  · intro service key id listed
    rw [same] at listed
    exact h.listed listed
  · intro service key
    rw [same]
    exact h.ascending service key
  · intro id isHeld
    obtain ⟨request, found, isOpen, later⟩ := h.held_open isHeld
    refine ⟨request, found, isOpen, ?_⟩
    rw [peers, same]
    exact later
  · intro id request found isFinished
    rw [peers, same]
    exact h.finished found isFinished

/-- Keeping an emulator, or dropping one, does not touch the lists. -/
theorem keep (h : Filed held services requests) (service : ServiceId) (key : EmulationKey)
    (emulator : Option Emulator) :
    Filed held (services.set service ((services service).keep key emulator)) requests := by
  apply h.congr
  · intro other
    exact manual_set services service other h.manual fun _ => ⟨_, rfl⟩
  · intro other otherKey
    exact waitingFor_set_keep ..

/-- What a service takes up is held from then on. -/
theorem takeUp (h : Filed [] services requests) (service : ServiceId) (key : EmulationKey) :
    Filed ((services service).waitingFor key)
      (services.set service ((services service).takeUp key)) requests := by
  -- Taking up removes from the lists and adds nothing.
  have listedBefore : ∀ {other otherKey id},
      id ∈ ((services.set service ((services service).takeUp key)) other).waitingFor otherKey →
      id ∈ (services other).waitingFor otherKey := by
    intro other otherKey id listed
    rw [waitingFor_set_takeUp] at listed
    split at listed
    · exact absurd listed List.not_mem_nil
    · exact listed
  refine ⟨?_, fun listed => h.listed (listedBefore listed), ?_, h.ascending service key, ?_, ?_⟩
  · intro other
    exact manual_set services service other h.manual fun _ => ⟨_, rfl⟩
  · intro other otherKey
    rw [waitingFor_set_takeUp]
    split
    · exact List.Pairwise.nil
    · exact h.ascending other otherKey
  · intro id isHeld
    obtain ⟨request, found, sameService, sameKey, isOpen⟩ := h.listed isHeld
    refine ⟨request, found, isOpen, ?_⟩
    intro later listed
    rw [peers, waitingFor_set_takeUp, if_pos ⟨sameService, sameKey⟩] at listed
    exact absurd listed List.not_mem_nil
  · intro id request found isFinished later listed
    exact h.finished found isFinished later (listedBefore listed)

/-- A request that is cancelled, or finished once it is the first of those held, stays filed; what
was held with it still is. -/
theorem settle {rest : List RequestId} {id : RequestId} {state : RequestState}
    (h : Filed held services requests) (fewer : rest.Sublist held)
    (first : (∃ outcome, state = .finished outcome) → held = id :: rest) :
    Filed rest services (requests.modify id fun request => { request with state }) := by
  have heldLater : ∀ {other : RequestId}, (∃ outcome, state = .finished outcome) →
      other ∈ rest → id < other := by
    intro other finishes isHeld
    have ascending := h.held_ascending
    rw [first finishes] at ascending
    exact List.rel_of_pairwise_cons ascending isHeld
  have idLater : ∀ {request : Request}, (∃ outcome, state = .finished outcome) →
      requests[id]? = some request → ∀ later ∈ peers services request, id < later := by
    intro request finishes found later listed
    obtain ⟨request', found', _, laterListed⟩ :=
      h.held_open (show id ∈ held by rw [first finishes]; exact List.mem_cons_self)
    rw [found'] at found
    injection found with found
    exact laterListed later (found ▸ listed)
  refine ⟨h.manual, ?_, h.ascending, h.held_ascending.sublist fewer, ?_, ?_⟩
  · intro service key other listed
    obtain ⟨request, found, sameService, sameKey, isOpen⟩ := h.listed listed
    obtain ⟨request', found', service', coordinates', only⟩ := getElem?_settled id state found
    refine ⟨request', found', service'.trans sameService, coordinates' ▸ sameKey, ?_⟩
    intro isFinished
    obtain ⟨rfl, finishes⟩ := only isFinished isOpen
    have before := idLater finishes found other (by
      rw [peers, sameService, sameKey]
      exact listed)
    exact absurd before (Nat.lt_irrefl _)
  · intro other isHeld
    obtain ⟨request, found, isOpen, later⟩ := h.held_open (fewer.subset isHeld)
    obtain ⟨request', found', service', coordinates', only⟩ := getElem?_settled id state found
    refine ⟨request', found', ?_, ?_⟩
    · intro isFinished
      obtain ⟨rfl, finishes⟩ := only isFinished isOpen
      exact absurd (heldLater finishes isHeld) (Nat.lt_irrefl _)
    · rw [peers, service', coordinates']
      exact later
  · intro other request' found' isFinished
    obtain ⟨inside, _⟩ := List.getElem?_eq_some_iff.mp found'
    rw [List.length_modify] at inside
    obtain ⟨request, found⟩ : ∃ request, requests[other]? = some request :=
      ⟨_, List.getElem?_eq_getElem inside⟩
    obtain ⟨request'', found'', service', coordinates', only⟩ := getElem?_settled id state found
    rw [found'] at found''
    injection found'' with same
    subst same
    rw [peers, service', coordinates']
    -- A request that is finished just now was the first of those held, and all that is listed for
    -- its key was issued later.
    by_cases before : request.Finished
    · exact h.finished found before
    · obtain ⟨rfl, finishes⟩ := only isFinished before
      exact idLater finishes found

/-- A new request is the latest of all: what was issued before the peers of a request still was,
when they are joined by the new one. -/
theorem lt_of_accept (h : Filed held services requests) (new : Request) {id : RequestId}
    {request : Request} (older : id < requests.length)
    (before : ∀ later ∈ peers services request, id < later) :
    ∀ later ∈ peers (services.set new.service
      ((services new.service).accept new.coordinates.key requests.length)) request, id < later := by
  intro later listed
  rw [peers, waitingFor_set_accept _ _ _ _ _ (h.manual new.service)] at listed
  split at listed
  · rcases List.mem_append.mp listed with listed | listed
    · exact before later listed
    · rw [List.mem_singleton.mp listed]
      exact older
  · exact before later listed

/-- A new request is listed last under its key. -/
theorem issue (h : Filed held services requests) {request : Request}
    (state : request.state = .outstanding) :
    Filed held
      (services.set request.service
        ((services request.service).accept request.coordinates.key requests.length))
      (requests ++ [request]) := by
  have lists := fun other key => waitingFor_set_accept services request.service other
    request.coordinates.key key (h.manual request.service) requests.length
  have inside : ∀ {id : RequestId} {request' : Request}, requests[id]? = some request' →
      id < requests.length :=
    fun found => (List.getElem?_eq_some_iff.mp found).1
  have old : ∀ {id : RequestId} {request' : Request}, requests[id]? = some request' →
      (requests ++ [request])[id]? = some request' := by
    intro id request' found
    rw [List.getElem?_append_left (inside found), found]
  have newest : (requests ++ [request])[requests.length]? = some request := by simp
  have notFinished : ¬ request.Finished := by
    rintro ⟨outcome, finished⟩
    rw [state] at finished
    cases finished
  refine ⟨?_, ?_, ?_, h.held_ascending, ?_, ?_⟩
  · intro other
    exact manual_set services request.service other h.manual fun _ => ⟨_, rfl⟩
  · intro other key id listed
    rw [lists] at listed
    have fromOld : id ∈ (services other).waitingFor key → ∃ request',
        (requests ++ [request])[id]? = some request' ∧ request'.service = other
          ∧ request'.coordinates.key = key ∧ ¬ request'.Finished := by
      intro listed
      obtain ⟨request', found, rest⟩ := h.listed listed
      exact ⟨request', old found, rest⟩
    split at listed
    · next same =>
      rcases List.mem_append.mp listed with listed | listed
      · exact fromOld listed
      · rw [List.mem_singleton.mp listed]
        exact ⟨request, newest, same.1.symm, same.2.symm, notFinished⟩
    · exact fromOld listed
  · intro other key
    rw [lists]
    split
    · refine List.pairwise_append.mpr ⟨h.ascending other key, List.pairwise_singleton _ _, ?_⟩
      intro id listed last isLast
      obtain ⟨request', found, _⟩ := h.listed listed
      rw [List.mem_singleton.mp isLast]
      exact inside found
    · exact h.ascending other key
  · intro id isHeld
    obtain ⟨request', found, isOpen, later⟩ := h.held_open isHeld
    exact ⟨request', old found, isOpen, h.lt_of_accept request (inside found) later⟩
  · intro id request' found isFinished
    rcases issued_cases found with found | ⟨_, rfl⟩
    · exact h.lt_of_accept request (inside found) (h.finished found isFinished)
    · exact absurd isFinished notFinished

end Filed

end Session

end PcodePanel
