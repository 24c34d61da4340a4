import PcodePanel.Emulation.Request
import PcodePanel.Table

/-!
# Services

A service emulates on request and keeps what it has emulated. A manual service is told when a
request comes to its end; a pool has a worker that runs the emulations in the order of the requests,
and knows what each will come to.
-/

namespace PcodePanel

/-- A service that is completed by hand. -/
structure ManualService where
  cache : Table EmulationKey (Option Emulator) := fun _ => none
  /-- The requests that were issued for a key and not taken up since. -/
  waiting : Table EmulationKey (List RequestId) := fun _ => []
  /-- The keys that were asked for. -/
  asked : List EmulationKey := []

/-- A service with a worker. -/
structure PoolService where
  cache : Table EmulationKey (Option Emulator) := fun _ => none
  /-- The requests that were not taken up yet. -/
  waiting : List RequestId := []
  /-- What an emulation will come to. -/
  provided : Table EmulationKey (Option Outcome) := fun _ => none

/-- A service. -/
inductive Service
  | manual (service : ManualService)
  | pool (service : PoolService)

namespace Service

/-- The emulator that is kept for a key. -/
def cached? : Service → EmulationKey → Option Emulator
  | manual service => service.cache
  | pool service => service.cache

/-- The service with another emulator kept for a key, or with none. -/
def keep (key : EmulationKey) (emulator : Option Emulator) : Service → Service
  | manual service => manual { service with cache := service.cache.set key emulator }
  | pool service => pool { service with cache := service.cache.set key emulator }

theorem cached?_keep (service : Service) (key other : EmulationKey) (emulator : Option Emulator) :
    (service.keep key emulator).cached? other
      = if other = key then emulator else service.cached? other := by
  cases service <;> rfl

/-- The service with a request for a key accepted. -/
def accept (key : EmulationKey) (id : RequestId) : Service → Service
  | manual service => manual
      { service with
        waiting := service.waiting.set key (service.waiting key ++ [id])
        asked := service.asked ++ [key] }
  | pool service => pool { service with waiting := service.waiting ++ [id] }

/-- The requests that wait for a key at a manual service. -/
def waitingFor (key : EmulationKey) : Service → List RequestId
  | manual service => service.waiting key
  | pool _ => []

/-- The service with the requests for a key taken up. -/
def takeUp (key : EmulationKey) : Service → Service
  | manual service => manual { service with waiting := service.waiting.set key [] }
  | pool service => pool service

/-- Accepting a request emulates nothing yet. -/
@[simp]
theorem cached?_accept (service : Service) (key : EmulationKey) (id : RequestId) :
    (service.accept key id).cached? = service.cached? := by
  cases service <;> rfl

@[simp]
theorem cached?_takeUp (service : Service) (key : EmulationKey) :
    (service.takeUp key).cached? = service.cached? := by
  cases service <;> rfl

@[simp]
theorem waitingFor_takeUp (service : Service) (key : EmulationKey) :
    (service.takeUp key).waitingFor key = [] := by
  cases service <;> simp [takeUp, waitingFor]

/-- The keys that were asked for at a manual service. -/
def asked : Service → List EmulationKey
  | manual service => service.asked
  | pool _ => []

/-- The pool with what an emulation will come to. -/
def provide (key : EmulationKey) (outcome : Outcome) : Service → Service
  | manual service => manual service
  | pool service => pool { service with provided := service.provided.set key (some outcome) }

end Service

/-- The outcome of an emulation that nothing was provided for. -/
def Outcome.unprovided : Outcome :=
  .failed ⟨.runtime, ["nothing provided"]⟩

end PcodePanel
