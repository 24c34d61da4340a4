/-!
# Delivery

How the news that a request is settled reaches the panel. It arises on the panel's own thread or on
a worker, and is handled at once or put into a queue that the panel drains.
-/

namespace PcodePanel

/-- How callbacks are run. -/
inductive Delivery
  /-- At once, on any thread. -/
  | immediate
  /-- From the queue only. -/
  | queued
  /-- At once on the owner's thread, from the queue otherwise. -/
  | affine
deriving DecidableEq, Repr

/-- Whether a callback that arises on a worker, or else on the owner's thread, runs at once. -/
def Delivery.runsAtOnce (delivery : Delivery) (onWorker : Bool) : Bool :=
  match delivery with
  | immediate => true
  | queued => false
  | affine => !onWorker

end PcodePanel
