import PcodePanel.Proofs.Session.Turn

/-!
# What a panel does not look at

How news is delivered, what is in the queue and which outcome a request has are no matter of a load:
a panel looks only at whether the request that it waits for is current. So whatever it does, it does
in the same way when these are changed, and a change before comes to the same as the change after.

* `Session.Change` — another way of delivery, another queue and other states of requests;
* `Session.Change.Harmless` — the change leaves it open which requests are current;
* `Session.reload_apply`, `Session.deliver_apply` — loads and deliveries do the same after a
  harmless change;
* `Session.perform_apply` — and so do all operations that settle and deliver nothing.
-/

namespace PcodePanel

/-- What settles requests, or delivers those that are settled. -/
def Operation.isSettling : Operation → Bool
  | complete .. | fail .. | cancel _ | release _ | drain => true
  | activate _ | setService _ | load | stepForward | stepBackward | assign .. | add .. | evict ..
  | provide .. | write .. | clearLog => false

namespace Session

/-- A change of what is beside the panel. -/
structure Change where
  delivery : Delivery
  queue : List RequestId
  requests : List Request → List Request

namespace Change

/-- The session after the change. -/
def apply (c : Change) (s : Session) : Session :=
  { s with delivery := c.delivery, queue := c.queue, requests := c.requests s.requests }

/-- The change touches the requests that there are, but not which of them are current. -/
structure Harmless (c : Change) (requests : List Request) : Prop where
  append : ∀ new, c.requests (requests ++ new) = c.requests requests ++ new
  length : (c.requests requests).length = requests.length
  current : ∀ (id : RequestId) (coordinates : Coordinates) (generation : Int),
    ((c.requests requests)[id]?).map (·.isCurrent coordinates generation)
      = (requests[id]?).map (·.isCurrent coordinates generation)

/-- Another way of delivery and another queue. -/
def around (delivery : Delivery) (queue : List RequestId) : Change :=
  ⟨delivery, queue, id⟩

theorem harmless_around (delivery : Delivery) (queue : List RequestId) (requests : List Request) :
    (around delivery queue).Harmless requests :=
  ⟨fun _ => rfl, rfl, fun _ _ _ => rfl⟩

/-- A request is finished. -/
def finishing (s : Session) (id : RequestId) (outcome : Outcome) : Change :=
  ⟨s.delivery, s.queue, (·.modify id fun request => { request with state := .finished outcome })⟩

/-- To finish a request that is outstanding leaves it as current as it was. -/
theorem harmless_finishing {s : Session} {id : RequestId}
    (outstanding : s.stateOf id = some .outstanding) (outcome : Outcome) :
    (finishing s id outcome).Harmless s.requests := by
  obtain ⟨request, found, state⟩ := Option.map_eq_some_iff.mp outstanding
  refine ⟨?_, List.length_modify .., ?_⟩
  · intro new
    obtain ⟨inside, _⟩ := List.getElem?_eq_some_iff.mp found
    show (s.requests ++ new).modify id _ = s.requests.modify id _ ++ new
    rw [List.modify_eq_set_getElem?, List.modify_eq_set_getElem?, List.getElem?_append_left inside,
      found]
    exact List.set_append_left _ _ inside
  · intro other coordinates generation
    by_cases same : other = id
    · subst same
      rw [finishing, List.getElem?_modify_eq, found]
      simp [Request.isCurrent, state]
    · rw [finishing, List.getElem?_modify_ne _ _ (Ne.symm same)]

/-- What a load, a delivery or an operation comes to, with the change after it. -/
def after {α : Type} (c : Change) (result : Session × α) : Session × α :=
  (c.apply result.1, result.2)

/-- Issuing a request keeps a change harmless. -/
theorem Harmless.issued {c : Change} {requests : List Request} (h : c.Harmless requests)
    (new : List Request) : c.Harmless (requests ++ new) := by
  refine ⟨?_, ?_, ?_⟩
  · intro more
    rw [List.append_assoc, h.append, h.append, List.append_assoc]
  · rw [h.append, List.length_append, List.length_append, h.length]
  · intro id coordinates generation
    rw [h.append]
    rcases Nat.lt_or_ge id requests.length with before | beyond
    · rw [List.getElem?_append_left before, List.getElem?_append_left (h.length ▸ before),
        h.current]
    · rw [List.getElem?_append_right beyond, List.getElem?_append_right (h.length ▸ beyond),
        h.length]

end Change

section Apply

variable {c : Change} {s : Session} {id : RequestId}

theorem panel_apply : (c.apply s).panel = s.panel := rfl

theorem log_apply : (c.apply s).log = s.log := rfl

theorem record_apply (name detail : String) :
    (c.apply s).record name detail = (s.record name detail).map c.apply := by
  unfold record
  rw [log_apply]
  cases s.log with
  | none => rfl
  | some log =>
      show (s.panel.current.text >>= _) = _
      cases s.panel.current.text <;> rfl

theorem showEmulator_apply (emulator : Emulator) :
    (c.apply s).showEmulator emulator = c.after (s.showEmulator emulator) := by
  unfold showEmulator
  rw [panel_apply]
  cases s.panel.current.thread <;> rfl

theorem isWaiting_apply (h : c.Harmless s.requests) : (c.apply s).isWaiting = s.isWaiting := by
  show (s.panel.pending.bind ((c.requests s.requests)[·]?)).any _ = _
  unfold isWaiting
  cases s.panel.pending with
  | none => rfl
  | some id =>
      have same := h.current id s.panel.current s.panel.generation
      rw [Option.bind_some, Option.bind_some]
      show ((c.requests s.requests)[id]?).any (·.isCurrent s.panel.current s.panel.generation) = _
      cases found : s.requests[id]? <;> cases found' : (c.requests s.requests)[id]? <;>
        simp_all

theorem plan_apply (h : c.Harmless s.requests) : (c.apply s).plan = s.plan := by
  unfold plan
  rw [isWaiting_apply h]
  rfl

theorem issue_apply (h : c.Harmless s.requests) (service : ServiceId) :
    (c.apply s).issue service = c.apply (s.issue service) := by
  rw [issue_eq, issue_eq]
  unfold Change.apply
  dsimp only
  rw [h.append, h.length]

theorem follow_apply (h : c.Harmless s.requests) (plan : Plan) :
    (c.apply s).follow plan = c.after (s.follow plan) := by
  cases plan with
  | nothing | placeholder | wait => rfl
  | display emulator => exact showEmulator_apply emulator
  | ask service =>
      have logged : record ((c.apply s).showPlaceholder .loading .loading none) "request" ""
          = (record (s.showPlaceholder .loading .loading none) "request" "").map c.apply :=
        record_apply (s := s.showPlaceholder .loading .loading none) ..
      unfold follow
      dsimp only
      rw [logged]
      cases recorded : record (s.showPlaceholder .loading .loading none) "request" "" with
      | error fault => rfl
      | ok s' =>
          obtain ⟨log, rfl⟩ := record_eq_ok recorded
          have issued := issue_apply (s := { s.showPlaceholder .loading .loading none with log }) h
            service
          exact Prod.ext issued rfl

theorem reload_apply (h : c.Harmless s.requests) :
    (c.apply s).reload = c.after s.reload := by
  rw [reload, reload, plan_apply h]
  exact follow_apply (s := s.clearLabel) h s.plan

theorem recordAndReload_apply (h : c.Harmless s.requests) (name : String) :
    (c.apply s).recordAndReload name = c.after (s.recordAndReload name) := by
  unfold recordAndReload
  rw [record_apply]
  cases recorded : s.record name "" with
  | error fault => rfl
  | ok s' =>
      obtain ⟨log, rfl⟩ := record_eq_ok recorded
      exact reload_apply h

theorem activate_apply (h : c.Harmless s.requests) (coordinates : Coordinates) :
    (c.apply s).activate coordinates = c.after (s.activate coordinates) := by
  unfold activate
  rw [panel_apply]
  by_cases same : s.panel.current.sameAs coordinates = true
  · rw [if_pos same, if_pos same]
    rfl
  · rw [if_neg same, if_neg same]
    exact recordAndReload_apply (s := s.focusOn coordinates) h _

theorem activateTime_apply (h : c.Harmless s.requests) (time : Schedule) :
    (c.apply s).activateTime time = c.after (s.activateTime time) := by
  have handed := activate_apply (s := { s with handed := s.handed ++ [time] }) h
    (s.panel.current.withTime time)
  have own := activate_apply h (s.panel.current.withTime time)
  obtain ⟨_, _, _, manager⟩ := s
  cases manager with
  | none => exact own
  | some manager =>
      cases manager with
      | record => rfl
      | apply => exact handed

theorem forget_apply : (c.apply s).forget id = c.apply (s.forget id) := by
  unfold forget
  rw [panel_apply]
  by_cases waits : s.panel.pending = some id
  · rw [if_pos waits, if_pos waits]
    rfl
  · rw [if_neg waits, if_neg waits]

theorem takeOver_apply (request : Request) :
    (c.apply s).takeOver request = c.after (s.takeOver request) := by
  unfold takeOver
  cases request.state with
  | outstanding | cancelled => rfl
  | finished outcome =>
      cases outcome with
      | failed failure =>
          have logged : record { c.apply s with
                failures := (c.apply s).failures ++ [request.coordinates.time] } "failed"
                failure.text
              = (record { s with failures := s.failures ++ [request.coordinates.time] } "failed"
                failure.text).map c.apply :=
            record_apply (s := { s with failures := s.failures ++ [request.coordinates.time] }) ..
          dsimp only
          rw [logged]
          cases record { s with failures := s.failures ++ [request.coordinates.time] } "failed"
            failure.text <;> rfl
      | emulated emulator =>
          dsimp only
          rw [record_apply]
          cases s.record "apply" "" with
          | error fault => rfl
          | ok s' => exact showEmulator_apply emulator

theorem dropStale_apply (h : c.Harmless s.requests) (request : Request) :
    (c.apply s).dropStale request = c.after (s.dropStale request) := by
  unfold dropStale
  rw [record_apply]
  cases recorded : s.record "stale" _ with
  | error fault => rfl
  | ok s' =>
      obtain ⟨log, rfl⟩ := record_eq_ok recorded
      exact reload_apply (s := setState { s with log } .stale) h

/-- A delivery does the same, unless the request itself is changed. -/
theorem deliver_apply (h : c.Harmless s.requests)
    (same : (c.requests s.requests)[id]? = s.requests[id]?) :
    (c.apply s).deliver id = c.after (s.deliver id) := by
  have found : (c.apply s).requests[id]? = s.requests[id]? := same
  rw [deliver, deliver, found]
  cases s.requests[id]? with
  | none => rfl
  | some request =>
      dsimp only
      rw [forget_apply]
      have harmless : c.Harmless (s.forget id).requests := by
        rw [forget_eq]
        exact h
      rw [panel_apply]
      by_cases current : request.isCurrent (s.forget id).panel.current
          (s.forget id).panel.generation = true
      · rw [if_pos current, if_pos current]
        exact takeOver_apply request
      · rw [if_neg current, if_neg current]
        exact dropStale_apply harmless request

theorem answer_after (result : Session × Option Fault) {reply : Session → Reply}
    (same : ∀ s, reply (c.apply s) = reply s) :
    answer (c.after result) reply = c.after (answer result reply) := by
  obtain ⟨s, fault⟩ := result
  cases fault with
  | none => exact Prod.ext rfl (congrArg Except.ok (same s))
  | some fault => rfl

theorem stepTo_apply (h : c.Harmless s.requests) (time : Option Schedule) :
    (c.apply s).stepTo time = c.after (s.stepTo time) := by
  cases time with
  | none => rfl
  | some time =>
      rw [stepTo, stepTo, activateTime_apply h]
      exact answer_after _ fun _ => rfl

theorem assign_apply (index : Int) (type : Option DataType) :
    (c.apply s).assign index type = c.after (s.assign index type) := by
  have same : (c.apply s).panel.assign index type (c.apply s).catalog (c.apply s).memory
    = s.panel.assign index type s.catalog s.memory := rfl
  unfold assign
  rw [same]
  rcases s.panel.assign index type s.catalog s.memory with ⟨_ | _, _⟩ <;> rfl

theorem write_apply (memory : MemoryId) (varnode : Varnode) (content : Memory.Content) :
    (c.apply s).write memory varnode content = c.after (s.write memory varnode content) := by
  have same : (c.apply s).memory memory = s.memory memory := rfl
  unfold write
  rw [same]
  cases (s.memory memory).store varnode content <;> rfl

/-- An operation that settles and delivers nothing does the same. -/
theorem perform_apply (h : c.Harmless s.requests) {operation : Operation}
    (settles : operation.isSettling = false) :
    (c.apply s).perform operation = c.after (s.perform operation) := by
  cases operation with
  | activate coordinates =>
      rw [perform, perform, activate_apply h]
      exact answer_after _ fun _ => rfl
  | setService service =>
      have rewired := recordAndReload_apply (s := s.rewire service) h "service"
      exact (congrArg (answer · fun _ => .nothing) rewired).trans (answer_after _ fun _ => rfl)
  | load =>
      rw [perform, perform, reload_apply h]
      exact answer_after _ fun _ => rfl
  | stepForward | stepBackward => exact stepTo_apply h _
  | assign index type => exact assign_apply index type
  | write memory varnode content =>
      rw [perform, perform, write_apply]
      exact answer_after _ fun _ => rfl
  | add | evict | provide | clearLog => rfl
  | complete | fail | cancel | release | drain => cases settles

end Apply

end Session

end PcodePanel
