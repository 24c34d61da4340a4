import PcodePanel.Session.Operation

/-!
# Smooth runs

A run performs operations in order, from a session over manual services to which nothing has
happened. It is *smooth* if nothing is refused while rows, values and log entries are written: no
load and no delivery ends in a fault. Other refusals are allowed: a data type that cannot be given,
bytes that cannot be written, a request that is settled already.

* `Session.IsStart` — the sessions that runs start from;
* `Session.Smooth` — an operation is smooth, also where a fault would be seen by nobody: a request
  that is settled at once swallows what its delivery raises;
* `Session.RunsSmoothly` — so is each operation of a run.

The definitions cover manual services, on which the operations of a pool do nothing.
-/

namespace PcodePanel

namespace Coordinates

/-- Whether an emulation can be asked for: there are a trace and a thread, and the instruction is
decoded. -/
def Askable (c : Coordinates) : Prop :=
  c.trace ≠ none ∧ c.thread ≠ none ∧ c.time.pticks ≠ 0

theorem sameAs_iff {a b : Coordinates} :
    a.sameAs b = true ↔ a.trace = b.trace ∧ a.time = b.time ∧ a.thread = b.thread := by
  simp [sameAs]

theorem sameAs_self (c : Coordinates) : c.sameAs c = true :=
  sameAs_iff.mpr ⟨rfl, rfl, rfl⟩

theorem sameAs_symm {a b : Coordinates} (h : a.sameAs b = true) : b.sameAs a = true := by
  obtain ⟨trace, time, thread⟩ := sameAs_iff.mp h
  exact sameAs_iff.mpr ⟨trace.symm, time.symm, thread.symm⟩

theorem sameAs_trans {a b c : Coordinates} (h₁ : a.sameAs b = true) (h₂ : b.sameAs c = true) :
    a.sameAs c = true := by
  obtain ⟨trace₁, time₁, thread₁⟩ := sameAs_iff.mp h₁
  obtain ⟨trace₂, time₂, thread₂⟩ := sameAs_iff.mp h₂
  exact sameAs_iff.mpr ⟨trace₁.trans trace₂, time₁.trans time₂, thread₁.trans thread₂⟩

/-- The same coordinates ask for the same emulation. -/
theorem key_of_sameAs {a b : Coordinates} (h : a.sameAs b = true) : a.key = b.key := by
  obtain ⟨trace, time, _⟩ := sameAs_iff.mp h
  rw [key, key, trace, time]

end Coordinates

namespace Session

/-- A session over manual services to which nothing has happened. The memories of the threads that
will be emulated may hold anything. -/
def IsStart (s : Session) : Prop :=
  ∃ config service delivery manager catalog memories new,
    create config service delivery manager catalog (fun _ => .manual {}) = .ok new
      ∧ s = { new with memories }

/-- What a new session is like, whether or not it logs events. -/
theorem IsStart.eq {s : Session} (h : s.IsStart) :
    ∃ config service delivery manager catalog log memories,
      s = { panel := { service }, config, delivery, manager, catalog, log, memories,
            services := fun _ => .manual {} } := by
  obtain ⟨config, service, delivery, manager, catalog, memories, new, created, rfl⟩ := h
  unfold create at created
  split at created
  · cases capacity : EventLog.ofCapacity config.capacity with
    | error fault => simp [capacity, bind, Except.bind, Functor.map, Except.map] at created
    | ok log =>
        rw [capacity] at created
        injection created with created
        rw [← created]
        exact ⟨config, service, delivery, manager, catalog, some log, memories, rfl⟩
  · injection created with created
    rw [← created]
    exact ⟨config, service, delivery, manager, catalog, none, memories, rfl⟩

/-- The session with another state of a request. -/
def mark (s : Session) (id : RequestId) (state : RequestState) : Session :=
  { s with requests := s.requests.modify id fun request => { request with state } }

/-- Marking changes one request, and of that only the state. -/
theorem getElem?_mark (s : Session) (id other : RequestId) (state : RequestState) :
    (s.mark id state).requests[other]? =
      if other = id then (s.requests[other]?).map fun request => { request with state }
      else s.requests[other]? := by
  rw [mark]
  by_cases same : other = id
  · subst same
    rw [List.getElem?_modify_eq, if_pos rfl]
    rfl
  · rw [List.getElem?_modify_ne _ _ (Ne.symm same), if_neg same]

/-- After marking, a request is the one that is marked, or as it was. -/
theorem mark_cases {s : Session} {id other : RequestId} {state : RequestState} {request : Request}
    (found : (s.mark id state).requests[other]? = some request) :
    other ≠ id ∧ s.requests[other]? = some request
      ∨ other = id ∧ ∃ before, s.requests[id]? = some before
        ∧ request = { before with state } := by
  rw [getElem?_mark] at found
  split at found
  · next same =>
    subst same
    obtain ⟨before, foundBefore, changed⟩ := Option.map_eq_some_iff.mp found
    exact .inr ⟨rfl, before, foundBefore, changed.symm⟩
  · next different => exact .inl ⟨different, found⟩

/-- A request that is settled now is delivered at once, or put at the end of the queue. -/
theorem settle_eq (s : Session) (onWorker : Bool) (id : RequestId) (state : RequestState) :
    s.settle onWorker id state =
      if s.delivery.runsAtOnce onWorker then ((s.mark id state).deliver id).1
      else { s.mark id state with queue := s.queue ++ [id] } := rfl

/-- Settling a request is smooth: if it is delivered at once, the delivery is. -/
def SettlesSmoothly (s : Session) (id : RequestId) (state : RequestState) : Prop :=
  s.delivery.runsAtOnce false → ((s.mark id state).deliver id).2 = none

/-- Finishing requests in order is smooth, up to one that is settled already. -/
def FinishesSmoothly (s : Session) (outcome : Outcome) : List RequestId → Prop
  | [] => True
  | id :: ids =>
    s.stateOf id = some .outstanding →
      s.SettlesSmoothly id (.finished outcome)
        ∧ (s.settle false id (.finished outcome)).FinishesSmoothly outcome ids

/-- Finishing the requests for a key is smooth. -/
def KeyFinishesSmoothly (s : Session) (service : ServiceId) (key : EmulationKey)
    (outcome : Outcome) : Prop :=
  (s.updateService service (Service.takeUp key)).FinishesSmoothly outcome
    ((s.services service).waitingFor key)

/-- Performing an operation is smooth. -/
def Smooth (s : Session) : Operation → Prop
  | .complete service key emulator =>
    (s.updateService service (Service.keep key (some emulator))).KeyFinishesSmoothly service key
      (.emulated emulator)
  | .fail service key failure => s.KeyFinishesSmoothly service key (.failed failure)
  | .cancel id => s.stateOf id = some .outstanding → s.SettlesSmoothly id .cancelled
  | .assign .. | .add .. | .evict .. | .provide .. | .release _ | .write .. | .clearLog => True
  | operation => (s.perform operation).2.isOk = true

/-- Performing operations in order is smooth. -/
def RunsSmoothly (s : Session) : List Operation → Prop
  | [] => True
  | operation :: operations =>
    s.Smooth operation ∧ (s.perform operation).1.RunsSmoothly operations

section Decidable

variable (s : Session)

instance (id : RequestId) (state : RequestState) : Decidable (s.SettlesSmoothly id state) :=
  inferInstanceAs (Decidable (_ → _))

instance instDecidableFinishesSmoothly (outcome : Outcome) :
    (s : Session) → (ids : List RequestId) → Decidable (s.FinishesSmoothly outcome ids)
  | _, [] => inferInstanceAs (Decidable True)
  | s, id :: ids =>
    have := instDecidableFinishesSmoothly outcome (s.settle false id (.finished outcome)) ids
    inferInstanceAs (Decidable (_ → _ ∧ _))

instance (service : ServiceId) (key : EmulationKey) (outcome : Outcome) :
    Decidable (s.KeyFinishesSmoothly service key outcome) :=
  inferInstanceAs (Decidable (FinishesSmoothly ..))

instance : (operation : Operation) → Decidable (s.Smooth operation)
  | .complete .. | .fail .. => inferInstanceAs (Decidable (KeyFinishesSmoothly ..))
  | .cancel _ => inferInstanceAs (Decidable (_ → _))
  | .assign .. | .add .. | .evict .. | .provide .. | .release _ | .write .. | .clearLog =>
    inferInstanceAs (Decidable True)
  | .activate _ | .setService _ | .load | .stepForward | .stepBackward | .drain =>
    inferInstanceAs (Decidable (_ = _))

instance instDecidableRunsSmoothly :
    (s : Session) → (operations : List Operation) → Decidable (s.RunsSmoothly operations)
  | _, [] => inferInstanceAs (Decidable True)
  | s, operation :: operations =>
    have := instDecidableRunsSmoothly (s.perform operation).1 operations
    inferInstanceAs (Decidable (_ ∧ _))

end Decidable

theorem performAll_cons (s : Session) (operation : Operation) (operations : List Operation) :
    s.performAll (operation :: operations) = (s.perform operation).1.performAll operations := rfl

theorem performAll_append (s : Session) (front back : List Operation) :
    s.performAll (front ++ back) = (s.performAll front).performAll back :=
  List.foldl_append ..

theorem runsSmoothly_append {s : Session} {front back : List Operation} :
    s.RunsSmoothly (front ++ back)
      ↔ s.RunsSmoothly front ∧ (s.performAll front).RunsSmoothly back := by
  induction front generalizing s with
  | nil => simp [RunsSmoothly, performAll]
  | cons operation front ih =>
      rw [List.cons_append, RunsSmoothly, RunsSmoothly, ih, performAll_cons, and_assoc]

/-! ## A small world

One instruction of three operations over two temporaries, for runs to be tried on. -/

namespace Sample

def language : Language := { name := "toy", registers := [((0, 8), "r0")] }

/-- `u8 = 7`, `u0 = u8 + r0`, `r0 = u0`. -/
def frame (index : Int) : Frame where
  code :=
    [⟨1, some (.ofUnique 8 8), [⟨.constant, 7, 8, none⟩], ⟨4096, 0⟩⟩,
     ⟨19, some (.ofUnique 0 8), [.ofUnique 8 8, .ofRegister 0 8], ⟨4096, 1⟩⟩,
     ⟨1, some (.ofRegister 0 8), [.ofUnique 0 8], ⟨4096, 2⟩⟩]
  index
  isFallthrough := true

def emulator (index : Int) : Emulator :=
  { language, threads := [⟨"main", some "ADD r0, 7", some (frame index), 0⟩] }

/-- Some operations into the instruction. -/
def spot (pticks : Int) : Coordinates where
  trace := some (.text "trace")
  time := ⟨0, 3, pticks⟩
  thread := some "main"

/-- A new session in which the first temporary has a value. -/
def start (delivery : Delivery) : Session where
  panel := { service := some "S" }
  config := {}
  delivery
  manager := none
  catalog := .builtin
  log := none
  services _ := .manual {}
  memories := [Memory.put {} (.ofUnique 8 8) [7, 0, 0, 0, 0, 0, 0, 0]]

theorem isStart_start (delivery : Delivery) : (start delivery).IsStart :=
  ⟨{}, some "S", delivery, none, .builtin, (start delivery).memories, _, rfl, rfl⟩

end Sample

end Session

end PcodePanel
