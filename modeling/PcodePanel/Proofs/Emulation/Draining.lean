import PcodePanel.Emulation.Dispatcher

/-!
# Callbacks run once, in order

A dispatcher that only queues is given callbacks and drained, in any order of calls. The callbacks
that it runs hand on others while it drains, and one that fails ends the drain midway.

* `Dispatcher.Drained` — what a drain comes to: it takes callbacks from the front, with those handed
  on meanwhile, and stops where one fails or none is left;
* `Dispatcher.drained_drain` — every drain comes to this;
* `Dispatcher.runs_in_order` — what has been handed over is what has run and what waits, in order.
-/

namespace PcodePanel.Dispatcher

variable {dispatcher : Dispatcher}

/-! ## One drain -/

/-- What draining a dispatcher comes to. What waited and what is handed on meanwhile is, in this
order, what has been taken out and what is left. -/
inductive Drained (dispatcher : Dispatcher) : Dispatcher × Except Failure Nat → Prop
  /-- None fails and none is left. -/
  | emptied {ran : List Callback} (smooth : ∀ callback ∈ ran, callback.failure = none)
      (everything : dispatcher.queue ++ ran.flatMap Callback.next = ran) :
      Drained dispatcher
        ({ dispatcher with queue := [], ran := dispatcher.ran ++ ran }, .ok ran.length)
  /-- The last callback that was taken out fails. -/
  | stopped {ran left : List Callback} {failing : Callback} {failure : Failure}
      (smooth : ∀ callback ∈ ran, callback.failure = none) (fails : failing.failure = some failure)
      (everything : dispatcher.queue ++ (ran ++ [failing]).flatMap Callback.next
        = (ran ++ [failing]) ++ left) :
      Drained dispatcher
        ({ dispatcher with queue := left, ran := dispatcher.ran ++ (ran ++ [failing]) },
          .error failure)

theorem runTaken_queued (waiting ran : List Callback) (callback : Callback) :
    runTaken ⟨.queued, waiting, ran⟩ callback
      = (runQueued ⟨.queued, waiting, ran⟩ callback, callback.failure) :=
  rfl

/-- A drain whose first callback does not fail goes on with what is left then. -/
theorem Drained.cons {callback : Callback} {rest : List Callback}
    {result : Dispatcher × Except Failure Nat} (first : dispatcher.queue = callback :: rest)
    (smooth : callback.failure = none)
    (drained : Drained (runQueued { dispatcher with queue := rest } callback) result) :
    Drained dispatcher (result.1, result.2.map (· + 1)) := by
  cases drained with
  | @emptied ran others everything =>
      have all : ∀ other ∈ callback :: ran, other.failure = none :=
        List.forall_mem_cons.mpr ⟨smooth, others⟩
      have conserved : dispatcher.queue ++ (callback :: ran).flatMap Callback.next
          = callback :: ran := by
        simpa [first, runQueued] using everything
      simpa [runQueued, Except.map] using Drained.emptied all conserved
  | @stopped ran left failing failure others fails everything =>
      have all : ∀ other ∈ callback :: ran, other.failure = none :=
        List.forall_mem_cons.mpr ⟨smooth, others⟩
      have conserved : dispatcher.queue ++ (callback :: ran ++ [failing]).flatMap Callback.next
          = (callback :: ran ++ [failing]) ++ left := by
        simpa [first, runQueued] using everything
      simpa [runQueued, Except.map] using Drained.stopped all fails conserved

/-- The count that a drain starts from is added to what it counts. -/
theorem drained_drainFrom (queued : dispatcher.delivery = .queued) (count : Nat) :
    ∃ result, Drained dispatcher result
      ∧ dispatcher.drainFrom count = (result.1, result.2.map (count + ·)) := by
  -- The induction is on what waits: each callback weighs more than all that it hands on.
  fun_induction drainFrom dispatcher count with
  | case1 delivery ran count =>
      have nothing : Drained ⟨delivery, [], ran⟩ (⟨delivery, [], ran ++ []⟩, .ok 0) :=
        .emptied (List.forall_mem_nil _) rfl
      exact ⟨_, nothing, by simp [Except.map]⟩
  | case2 delivery callback rest ran count after step ih =>
      cases queued
      obtain ⟨rfl, smooth⟩ := Prod.mk.inj (step.symm.trans (runTaken_queued rest ran callback))
      obtain ⟨result, drained, goesOn⟩ := ih rfl
      refine ⟨_, drained.cons rfl smooth.symm, ?_⟩
      rw [goesOn]
      cases result.2 with
      | error failure => rfl
      | ok ran => simp only [Except.map, Nat.add_right_comm, Nat.add_assoc]
  | case3 delivery callback rest ran count after failure step =>
      cases queued
      obtain ⟨rfl, fails⟩ := Prod.mk.inj (step.symm.trans (runTaken_queued rest ran callback))
      have one : Drained ⟨.queued, callback :: rest, ran⟩
          (⟨.queued, rest ++ callback.next, ran ++ ([] ++ [callback])⟩, .error failure) :=
        .stopped (List.forall_mem_nil _) fails.symm (by simp)
      exact ⟨_, one, rfl⟩

/-- **One drain.** A drain that ends without a failure leaves nothing and counts what it ran. One
that a failure ends has taken out what it ran, the failing callback last, and leaves the rest. -/
theorem drained_drain (queued : dispatcher.delivery = .queued) :
    Drained dispatcher dispatcher.drain := by
  obtain ⟨result, drained, same⟩ := drained_drainFrom queued 0
  rw [drain, same]
  cases h : result.2 <;> simpa [Except.map, ← h] using drained

/-! ## Many calls -/

/-- What is asked of a dispatcher: to accept a callback, which may come from a worker, or to run
what waits. -/
inductive Call
  | execute (onWorker : Bool) (callback : Callback)
  | drain

/-- The dispatcher after a call, which a failure may have ended. -/
def perform (dispatcher : Dispatcher) : Call → Dispatcher
  | .execute onWorker callback => (dispatcher.execute onWorker callback).1
  | .drain => dispatcher.drain.1

/-- The dispatcher after calls. -/
def performAll (dispatcher : Dispatcher) (calls : List Call) : Dispatcher :=
  calls.foldl perform dispatcher

/-- The callbacks that a call puts into the queue, in order: the one that is given, or those that
the callbacks run by a drain hand on. -/
def enqueued (dispatcher : Dispatcher) : Call → List Callback
  | .execute _ callback => [callback]
  | .drain => (dispatcher.drain.1.ran.drop dispatcher.ran.length).flatMap Callback.next

/-- The callbacks that calls put into the queue, in order. -/
def enqueuedAll (dispatcher : Dispatcher) : List Call → List Callback
  | [] => []
  | call :: calls => dispatcher.enqueued call ++ (dispatcher.perform call).enqueuedAll calls

/-- A call loses nothing and runs nothing twice. -/
theorem perform_conserves (queued : dispatcher.delivery = .queued) (call : Call) :
    (dispatcher.perform call).delivery = .queued
      ∧ (dispatcher.perform call).ran ++ (dispatcher.perform call).queue
        = dispatcher.ran ++ dispatcher.queue ++ dispatcher.enqueued call := by
  cases call with
  | execute onWorker callback =>
      have waits : dispatcher.delivery.runsAtOnce onWorker = false := by rw [queued]; rfl
      have after : dispatcher.perform (.execute onWorker callback)
          = { dispatcher with queue := dispatcher.queue ++ [callback] } := by
        simp only [perform, execute, waits, Bool.false_eq_true, if_false]
      rw [after]
      exact ⟨queued, (List.append_assoc ..).symm⟩
  | drain =>
      have drained := drained_drain queued
      simp only [perform, enqueued]
      generalize dispatcher.drain = result at drained
      cases drained with
      | emptied smooth everything => simp [queued, everything]
      | stopped smooth fails everything => simp [queued, ← everything]

theorem performAll_conserves (queued : dispatcher.delivery = .queued) (calls : List Call) :
    (dispatcher.performAll calls).delivery = .queued
      ∧ (dispatcher.performAll calls).ran ++ (dispatcher.performAll calls).queue
        = dispatcher.ran ++ dispatcher.queue ++ dispatcher.enqueuedAll calls := by
  induction calls generalizing dispatcher with
  | nil => simp [performAll, enqueuedAll, queued]
  | cons call calls ih =>
      obtain ⟨kept, once⟩ := perform_conserves queued call
      obtain ⟨still, all⟩ := ih kept
      exact ⟨still, by rw [enqueuedAll, ← List.append_assoc, ← once]; exact all⟩

/-- **Once and in order.** Whatever is asked of a dispatcher that only queues, the callbacks that
ran and then those that wait are the callbacks that were handed over, in their order and each once,
those handed on by other callbacks included. A drain after that takes callbacks from the front, up
to a failing one or to the last of all. -/
theorem runs_in_order (calls : List Call) :
    let start : Dispatcher := { delivery := .queued }
    let after := start.performAll calls
    after.ran ++ after.queue = start.enqueuedAll calls
      ∧ after.ran.length + after.pending = (start.enqueuedAll calls).length
      ∧ Drained after after.drain := by
  intro start after
  have fresh : start.delivery = .queued := rfl
  obtain ⟨queued, once⟩ := performAll_conserves fresh calls
  have conserved : after.ran ++ after.queue = start.enqueuedAll calls := once
  refine ⟨conserved, ?_, drained_drain queued⟩
  rw [← conserved, List.length_append, pending]

/-- A failing callback ends the drain after it has handed one on, which runs in the next drain. -/
example :
    let inner : Callback := .mk "inner" [] none
    let outer : Callback := .mk "outer" [inner] (some ⟨.runtime, ["boom"]⟩)
    let last : Callback := .mk "last" [] none
    let after := performAll { delivery := .queued }
      [.execute false outer, .execute true last, .drain, .drain]
    after.ran.map Callback.name = ["outer", "last", "inner"] := by
  decide +kernel

end PcodePanel.Dispatcher
