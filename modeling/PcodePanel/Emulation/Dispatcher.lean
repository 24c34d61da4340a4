import PcodePanel.Emulation.Delivery
import PcodePanel.Fault

/-!
# Dispatching callbacks

A dispatcher runs callbacks at once or keeps them in a queue, first in, first out. Callbacks are
finite programs: each may hand on further callbacks and then fail.

* `Dispatcher.execute` accepts a callback;
* `Dispatcher.drain` runs what is in the queue, with what is put there meanwhile, up to the first
  failure.

Both end because a callback is larger than all that it hands on together.
-/

namespace PcodePanel

/-- A callback: a name, the callbacks that it hands on, and how it fails, if it does. -/
inductive Callback
  | mk (name : String) (next : List Callback) (failure : Option Failure)

namespace Callback

instance : Inhabited Callback := ⟨mk "" [] none⟩

/-- The name of a callback. -/
def name : Callback → String
  | mk name _ _ => name

/-- What a callback hands on. -/
def next : Callback → List Callback
  | mk _ next _ => next

/-- How a callback fails. -/
def failure : Callback → Option Failure
  | mk _ _ failure => failure

mutual

/-- How many callbacks a callback stands for, itself included. -/
def weight : Callback → Nat
  | mk _ next _ => 1 + weightAll next

/-- How many callbacks a list of callbacks stands for. -/
def weightAll : List Callback → Nat
  | [] => 0
  | callback :: rest => weight callback + weightAll rest

end

theorem weightAll_append (a b : List Callback) :
    weightAll (a ++ b) = weightAll a + weightAll b := by
  induction a with
  | nil => simp [weightAll]
  | cons callback rest ih => simp only [List.cons_append, weightAll, ih]; omega

theorem weight_eq (callback : Callback) : callback.weight = 1 + weightAll callback.next := by
  cases callback
  rfl

end Callback

/-- A dispatcher: how it delivers, the callbacks that wait, and those that ran. -/
structure Dispatcher where
  delivery : Delivery
  queue : List Callback := []
  ran : List Callback := []

namespace Dispatcher

/-- How many callbacks wait. -/
def pending (dispatcher : Dispatcher) : Nat :=
  dispatcher.queue.length

/-- The dispatcher after a callback has run, and handed on what it hands on to the queue. -/
def runQueued (dispatcher : Dispatcher) (callback : Callback) : Dispatcher :=
  { dispatcher with
    ran := dispatcher.ran ++ [callback], queue := dispatcher.queue ++ callback.next }

mutual

/-- Runs a callback, and all that it hands on, at once. A failure ends the whole run. -/
def runNested (dispatcher : Dispatcher) : Callback → Dispatcher × Option Failure
  | .mk name next failure =>
    match runNestedAll { dispatcher with ran := dispatcher.ran ++ [.mk name next failure] } next with
    | (after, none) => (after, failure)
    | (after, some inner) => (after, some inner)

/-- Runs callbacks at once, one after the other. -/
def runNestedAll (dispatcher : Dispatcher) : List Callback → Dispatcher × Option Failure
  | [] => (dispatcher, none)
  | callback :: rest =>
    match runNested dispatcher callback with
    | (after, none) => runNestedAll after rest
    | (after, some failure) => (after, some failure)

end

/-- Accepts a callback that arises on a worker or on the owner's thread. -/
def execute (dispatcher : Dispatcher) (onWorker : Bool) (callback : Callback) :
    Dispatcher × Option Failure :=
  if dispatcher.delivery.runsAtOnce onWorker then dispatcher.runNested callback
  else ({ dispatcher with queue := dispatcher.queue ++ [callback] }, none)

/-- Takes a callback from the queue and runs it on the owner's thread. -/
def runTaken (dispatcher : Dispatcher) (callback : Callback) : Dispatcher × Option Failure :=
  if dispatcher.delivery.runsAtOnce false then dispatcher.runNested callback
  else (dispatcher.runQueued callback, callback.failure)

mutual

theorem queue_runNested (dispatcher : Dispatcher) :
    (callback : Callback) → (dispatcher.runNested callback).1.queue = dispatcher.queue
  | .mk name next failure => by
    have inner :=
      queue_runNestedAll { dispatcher with ran := dispatcher.ran ++ [.mk name next failure] } next
    rw [runNested]
    split <;> rename_i h <;> simpa [h] using inner

theorem queue_runNestedAll (dispatcher : Dispatcher) :
    (callbacks : List Callback) → (dispatcher.runNestedAll callbacks).1.queue = dispatcher.queue
  | [] => by simp [runNestedAll]
  | callback :: rest => by
    have first := queue_runNested dispatcher callback
    rw [runNestedAll]
    split <;> rename_i after h
    · rw [queue_runNestedAll after rest]
      simpa [h] using first
    · simpa [h] using first

end

/-- What is left after a callback has been taken out and run weighs less. -/
theorem weight_runTaken (dispatcher : Dispatcher) (callback : Callback) (rest : List Callback) :
    Callback.weightAll (runTaken { dispatcher with queue := rest } callback).1.queue
      < Callback.weightAll (callback :: rest) := by
  have positive := callback.weight_eq
  unfold runTaken
  split
  · simp only [queue_runNested, Callback.weightAll]
    omega
  · simp only [runQueued, Callback.weightAll_append, Callback.weightAll]
    omega

/-- Runs what waits, up to the first failure: how many callbacks were run to their end, counted
from `count`, or the failure. A failing callback has been taken out of the queue. -/
def drainFrom : Dispatcher → (count : Nat) → Dispatcher × Except Failure Nat
  | ⟨delivery, [], ran⟩, count => (⟨delivery, [], ran⟩, .ok count)
  | ⟨delivery, callback :: rest, ran⟩, count =>
    match step : runTaken ⟨delivery, rest, ran⟩ callback with
    | (after, none) => after.drainFrom (count + 1)
    | (after, some failure) => (after, .error failure)
termination_by dispatcher => Callback.weightAll dispatcher.queue
decreasing_by
  have less := weight_runTaken ⟨delivery, [], ran⟩ callback rest
  rwa [step] at less

/-- Runs what waits, up to the first failure: how many callbacks were run to their end, or the
failure. -/
def drain (dispatcher : Dispatcher) : Dispatcher × Except Failure Nat :=
  dispatcher.drainFrom 0

end Dispatcher

end PcodePanel
