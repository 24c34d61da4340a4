import PcodePanel.Emulation.Emulator

/-!
# Requests

A request asks a service for an emulation and remembers what for. It is settled once: cancelled, or
finished with an outcome.

* `Request.isCurrent` says whether the panel still waits for it.
-/

namespace PcodePanel

/-- The number of a request, in the order in which they were issued. -/
abbrev RequestId := Nat

/-- The name of a service. -/
abbrev ServiceId := String

/-- What has become of a request. -/
inductive RequestState
  | outstanding
  | cancelled
  | finished (outcome : Outcome)
deriving DecidableEq, Repr

/-- A request for an emulation: the coordinates and the generation that it was issued for, and the
service that it was issued to. -/
structure Request where
  coordinates : Coordinates
  generation : Int
  service : ServiceId
  state : RequestState := .outstanding
deriving DecidableEq, Repr

namespace Request

/-- Whether the request has been cancelled or finished. -/
def isSettled (request : Request) : Bool :=
  request.state ≠ .outstanding

/-- Whether the request was issued for these coordinates in this generation, and not cancelled. -/
def isCurrent (request : Request) (coordinates : Coordinates) (generation : Int) : Bool :=
  request.state ≠ .cancelled ∧ request.generation = generation
    ∧ request.coordinates.sameAs coordinates

/-- The request after an attempt to cancel it, which only a finished one withstands. -/
def cancel (request : Request) : Request :=
  if request.isSettled then request else { request with state := .cancelled }

/-- The request with its outcome; a settled one is refused. -/
def finish (request : Request) (outcome : Outcome) : Except Fault Request :=
  if request.isSettled then .error .alreadySettled
  else .ok { request with state := .finished outcome }

end Request

end PcodePanel
