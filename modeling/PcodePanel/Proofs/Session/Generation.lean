import PcodePanel.Proofs.Session.Turn

/-!
# What a generation stands for

The generation of a panel is a number, and the panel compares requests by it. It counts all that the
panel has been through: each change of the service, and each departure from the coordinates that it
followed. So requests of one generation are requests for the same, and a request of an earlier one
is stale for good, even if the panel returns to its coordinates.

* `Session.departures` — the coordinates that were left in a run, as they were then;
* `Session.perform_followed` — what an operation does to what the panel follows: it changes the
  service, leaves the coordinates, or leaves both as they are;
* `Session.departed_performAll` — the generation and the previous coordinates, in terms of the
  departures;
* `Session.generation_witnesses` — the main result.
-/

namespace PcodePanel

/-- Whether the operation sets the service of the panel. -/
def Operation.isRewiring : Operation → Bool
  | setService _ => true
  | activate _ | load | stepForward | stepBackward | assign .. | add .. | complete .. | fail ..
  | cancel _ | evict .. | provide .. | release _ | write .. | drain | clearLog => false

namespace Session

/-- The coordinates that are activated for a time. A manager that only keeps times activates
none. -/
def reaches? (s : Session) (time : Schedule) : Option Coordinates :=
  if s.manager = some .record then none else some (s.panel.current.withTime time)

/-- The coordinates that an operation activates. -/
def activates? (s : Session) : Operation → Option Coordinates
  | .activate coordinates => some coordinates
  | .stepForward => s.panel.timeForward?.bind s.reaches?
  | .stepBackward => s.panel.timeBackward?.bind s.reaches?
  | .setService _ | .load | .assign .. | .add .. | .complete .. | .fail .. | .cancel _ | .evict ..
  | .provide .. | .release _ | .write .. | .drain | .clearLog => none

/-- The coordinates that are left if others are activated. -/
def leaves? (s : Session) (coordinates : Coordinates) : Option Coordinates :=
  if s.panel.current.sameAs coordinates then none else some s.panel.current

/-- The coordinates that an operation leaves, if it does. -/
def departure? (s : Session) (operation : Operation) : Option Coordinates :=
  (s.activates? operation).bind s.leaves?

/-- The coordinates that the operations of a run leave. -/
def departures (s : Session) : List Operation → List Coordinates
  | [] => []
  | operation :: operations =>
    (s.departure? operation).toList ++ (s.perform operation).1.departures operations

variable {s t : Session} {operation : Operation} {coordinates : Coordinates}

theorem departures_append (s : Session) (front back : List Operation) :
    s.departures (front ++ back) = s.departures front ++ (s.performAll front).departures back := by
  induction front generalizing s with
  | nil => rfl
  | cons operation front ih =>
      rw [List.cons_append, departures, departures, ih, performAll_cons, List.append_assoc]

/-! ## One operation -/

/-- What an operation does to what the panel follows. -/
inductive Followed (s : Session) (operation : Operation) (t : Session) : Prop
  | rewired : operation.isRewiring = true → s.departure? operation = none →
      t.panel.generation = s.panel.generation + 1 → t.panel.previous = s.panel.previous →
      t.panel.current = s.panel.current → Followed s operation t
  | departed : operation.isRewiring = false → s.departure? operation = some s.panel.current →
      t.panel.generation = s.panel.generation + 1 → t.panel.previous = s.panel.current →
      s.panel.current.sameAs t.panel.current = false → Followed s operation t
  /-- At most the stack level is another one. -/
  | stayed : operation.isRewiring = false → s.departure? operation = none →
      t.panel.generation = s.panel.generation → t.panel.previous = s.panel.previous →
      s.panel.current.sameAs t.panel.current = true → Followed s operation t

theorem Followed.ofSame (rewiring : operation.isRewiring = false)
    (stays : s.departure? operation = none)
    (current : t.panel.current = s.panel.current) (previous : t.panel.previous = s.panel.previous)
    (generation : t.panel.generation = s.panel.generation) : Followed s operation t :=
  .stayed rewiring stays generation previous (by rw [current]; exact Coordinates.sameAs_self _)

/-- What follows on a new focus changes nothing of what the panel follows. -/
theorem undisturbed_recordAndReload (s : Session) (name : String) :
    Undisturbed s (s.recordAndReload name).1 := by
  unfold recordAndReload
  split
  · exact .ofSame rfl rfl rfl rfl rfl rfl rfl rfl rfl rfl
  · next recorded =>
    obtain ⟨log, rfl⟩ := record_eq_ok recorded
    have h := undisturbed_reload { s with log }
    exact ⟨h.config, h.delivery, h.memories, h.queue, h.service, h.current, h.previous,
      h.generation, h.cached, h.requests, h.lists⟩

theorem activate_followed (rewiring : operation.isRewiring = false)
    (activates : s.activates? operation = some coordinates) :
    Followed s operation (s.activate coordinates).1 := by
  have departure : s.departure? operation = s.leaves? coordinates := by
    rw [departure?, activates]
    rfl
  unfold activate
  split
  · next same =>
    refine .stayed rewiring ?_ rfl rfl same
    rw [departure, leaves?, if_pos same]
  · next other =>
    have h := (s.focusOn coordinates).undisturbed_recordAndReload "activate"
    refine .departed rewiring ?_ h.generation h.previous ?_
    · rw [departure, leaves?, if_neg other]
    · exact (congrArg s.panel.current.sameAs h.current).trans (Bool.eq_false_iff.mpr other)

theorem stepTo_followed {time : Option Schedule} (rewiring : operation.isRewiring = false)
    (activates : s.activates? operation = time.bind s.reaches?) :
    Followed s operation (s.stepTo time).1 := by
  cases time with
  | none =>
      refine .ofSame rewiring ?_ rfl rfl rfl
      rw [departure?, activates]
      rfl
  | some time =>
      rw [stepTo, answer_fst]
      unfold activateTime
      split
      · next manager =>
        refine activate_followed rewiring ?_
        rw [activates, Option.bind_some, reaches?, manager, if_neg (by decide)]
      · next manager =>
        refine .ofSame rewiring ?_ rfl rfl rfl
        rw [departure?, activates, Option.bind_some, reaches?, manager, if_pos rfl]
        rfl
      · next manager =>
        have activates' : activates? { s with handed := s.handed ++ [time] } operation
            = some (s.panel.current.withTime time) := by
          have reached : s.activates? operation = some (s.panel.current.withTime time) := by
            rw [activates, Option.bind_some, reaches?, manager, if_neg (by decide)]
          rw [← reached]
          cases operation <;> rfl
        -- The time that is handed over is no matter of the panel.
        cases activate_followed rewiring activates' with
        | rewired own departure generation previous current =>
            exact .rewired own departure generation previous current
        | departed own departure generation previous other =>
            exact .departed own departure generation previous other
        | stayed own departure generation previous same =>
            exact .stayed own departure generation previous same

theorem perform_followed (sound : Sound [] s) (idle : s.Idle) (operation : Operation) :
    Followed s operation (s.perform operation).1 := by
  -- What is done in the background is no matter of what the panel follows.
  have background : operation.isForeground = false → operation.isRewiring = false →
      s.departure? operation = none → Followed s operation (s.perform operation).1 := by
    intro unattended rewiring stays
    have arrives : Arrives (· = operation) ⟨[], s⟩ ⟨[], (s.perform operation).1⟩ :=
      perform_arrives rfl sound idle
    have alone : ¬ Attended (· = operation) := by
      rintro ⟨_, rfl, foreground⟩
      rw [unattended] at foreground
      cases foreground
    obtain ⟨_, current, previous, generation⟩ := arrives.turns.follows alone
    exact .ofSame rewiring stays current previous generation
  cases operation with
  | activate coordinates =>
      rw [perform, answer_fst]
      exact activate_followed rfl rfl
  | setService service =>
      have h := (s.rewire service).undisturbed_recordAndReload "service"
      rw [perform, answer_fst]
      exact .rewired rfl rfl h.generation h.previous h.current
  | load =>
      have h := s.undisturbed_reload
      rw [perform, answer_fst]
      exact .ofSame rfl rfl h.current h.previous h.generation
  | stepForward | stepBackward => exact stepTo_followed rfl rfl
  | write memory varnode content =>
      rw [perform, answer_fst]
      unfold write
      split <;> exact .ofSame rfl rfl rfl rfl rfl
  | clearLog => exact .ofSame rfl rfl rfl rfl rfl
  | assign index type =>
      show Followed s _ (s.assign index type).1
      unfold assign
      split
      · exact .ofSame rfl rfl rfl rfl rfl
      · next assigned =>
        obtain ⟨_, _, _, _, _, _, rfl⟩ := Panel.assign_eq_ok assigned
        exact .ofSame rfl rfl rfl rfl rfl
  | add | complete | fail | cancel | evict | provide | release | drain =>
      exact background rfl rfl rfl

/-! ## Runs -/

/-- How what the panel follows came about: by departures from coordinates, and rewirings. -/
structure Departed (departures : List Coordinates) (rewirings : Nat) (t : Session) : Prop where
  generation : t.panel.generation = (rewirings : Int) + departures.length
  previous : t.panel.previous = departures.getLast?.getD .nowhere
  apart : departures ≠ [] → t.panel.previous.sameAs t.panel.current = false

/-- An operation adds its own departure or rewiring. -/
theorem Departed.followed {departures : List Coordinates} {rewirings : Nat}
    (h : Departed departures rewirings s) (followed : Followed s operation t) :
    Departed (departures ++ (s.departure? operation).toList)
      (rewirings + if operation.isRewiring = true then 1 else 0) t := by
  obtain ⟨counts, last, apart⟩ := h
  cases followed with
  | rewired rewiring stays generation previous current =>
      rw [stays, if_pos rewiring, Option.toList_none, List.append_nil]
      refine ⟨?_, previous.trans last, ?_⟩
      · rw [generation, counts]
        omega
      · rw [previous, current]
        exact apart
  | departed rewiring leaves generation previous other =>
      rw [leaves, rewiring, if_neg Bool.false_ne_true, Option.toList_some, Nat.add_zero]
      refine ⟨?_, ?_, fun _ => ?_⟩
      · rw [generation, counts, List.length_append, List.length_singleton]
        omega
      · rw [previous, List.getLast?_concat]
        rfl
      · rw [previous]
        exact other
  | stayed rewiring stays generation previous same =>
      rw [stays, rewiring, if_neg Bool.false_ne_true, Option.toList_none, List.append_nil,
        Nat.add_zero]
      refine ⟨generation.trans counts, previous.trans last, fun some => ?_⟩
      rw [previous, Bool.eq_false_iff]
      -- The stack level does not tell coordinates apart.
      intro back
      exact Bool.eq_false_iff.mp (apart some)
        (Coordinates.sameAs_trans back (Coordinates.sameAs_symm same))

/-- A run adds its departures and rewirings, one after the other. -/
theorem Departed.performAll {departures : List Coordinates} {rewirings : Nat}
    (operations : List Operation) (h : Departed departures rewirings s) (sound : Sound [] s)
    (idle : s.Idle) :
    Departed (departures ++ s.departures operations)
      (rewirings + operations.countP Operation.isRewiring) (s.performAll operations) := by
  induction operations generalizing s departures rewirings with
  | nil =>
      rw [Session.departures, List.append_nil]
      exact h
  | cons operation operations ih =>
      have arrives : Arrives (fun _ => True) ⟨[], s⟩ ⟨[], (s.perform operation).1⟩ :=
        perform_arrives trivial sound idle
      have rest := ih (h.followed (perform_followed sound idle operation))
        (arrives.turns.sound sound) arrives.idle
      rw [List.countP_cons, Nat.add_comm (operations.countP _), ← Nat.add_assoc, Session.departures,
        ← List.append_assoc]
      exact rest

theorem departed_performAll (start : s.IsStart) (operations : List Operation) :
    Departed (s.departures operations) (operations.countP Operation.isRewiring)
      (s.performAll operations) := by
  have first : Departed [] 0 s := by
    obtain ⟨config, service, delivery, manager, catalog, log, memories, rfl⟩ := start.eq
    exact ⟨rfl, rfl, fun some => absurd rfl some⟩
  have departed := first.performAll operations start.sound start.idle
  rw [List.nil_append, Nat.zero_add] at departed
  exact departed

/-- What a generation says about a session that a run has reached. -/
structure Witnessed (s : Session) (operations : List Operation) (t : Session) : Prop
    extends Departed (s.departures operations) (operations.countP Operation.isRewiring) t where
  /-- Requests of the live generation are for what the panel follows. -/
  live : ∀ (id : RequestId) (request : Request), t.requests[id]? = some request →
    request.generation = t.panel.generation → t.panel.service = some request.service
      ∧ request.coordinates.sameAs t.panel.current = true
  /-- A request of an earlier generation is not current after any later operations. -/
  stale : ∀ (id : RequestId) (request : Request), t.requests[id]? = some request →
    request.generation < t.panel.generation →
    ∀ later : List Operation, ∃ request' : Request,
      (t.performAll later).requests[id]? = some request'
      ∧ request'.generation = request.generation
      ∧ request'.isCurrent (t.performAll later).panel.current
        (t.performAll later).panel.generation = false

/-- **What a generation stands for.** After every run, also one in which loads fail: the generation
is the number of rewirings and departures. The previous coordinates are those that were left last,
as they were then, and show something else than the current ones. The requests of the live
generation are for the current coordinates and were issued to the current service, and one of an
earlier generation is never current again. -/
theorem generation_witnesses (start : s.IsStart) (operations : List Operation) :
    Witnessed s operations (s.performAll operations) := by
  have departed := departed_performAll start operations
  have arrives := start.arrives operations
  have sound := arrives.turns.sound start.sound
  refine ⟨departed, ?_, ?_⟩
  · intro id request found live
    obtain ⟨service, sameAs, _⟩ := sound.watched.live found live
    exact ⟨service, sameAs⟩
  · intro id request found earlier later
    have arrives' : Arrives (· ∈ later) ⟨[], s.performAll operations⟩
        ⟨[], (s.performAll operations).performAll later⟩ :=
      performAll_arrives sound arrives.idle fun _ listed => listed
    obtain ⟨request', found', _, _, generation⟩ := arrives'.turns.request found
    refine ⟨request', found', generation, Bool.eq_false_iff.mpr fun current => ?_⟩
    obtain ⟨_, live, _⟩ := isCurrent_iff.mp current
    -- The generation has only grown.
    have grown := (departed_performAll start (operations ++ later)).generation
    rw [departures_append, List.countP_append, List.length_append, performAll_append] at grown
    have counts := departed.generation
    omega

/-- The panel returns to coordinates at which it has asked before. In between the stack level
changes, and the same service is set again. -/
def Sample.revisiting : List Operation :=
  [.activate (spot 1), .setService (some "S"), .activate (spot 2),
    .activate { spot 2 with frame := 3 }, .stepBackward]

/-- The first request is for the current coordinates, but of another generation. -/
theorem generation_witnesses_revisiting :
    ((Sample.start .queued).performAll Sample.revisiting).panel.generation = 4
      ∧ ((Sample.start .queued).performAll Sample.revisiting).panel.previous
        = { Sample.spot 2 with frame := 3 }
      ∧ ((Sample.start .queued).performAll Sample.revisiting).requests.map
          (fun request => (request.coordinates.time.pticks, request.generation))
        = [(1, 1), (1, 2), (2, 3), (1, 4)]
      ∧ Witnessed (Sample.start .queued) Sample.revisiting
        ((Sample.start .queued).performAll Sample.revisiting) :=
  ⟨by decide +kernel, by decide +kernel, by decide +kernel,
    generation_witnesses (Sample.isStart_start .queued) Sample.revisiting⟩

end Session

end PcodePanel
