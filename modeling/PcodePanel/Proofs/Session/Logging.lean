import Mathlib.Data.List.Infix
import PcodePanel.Proofs.Session.Guise

/-!
# Logging

Whether events are logged, and how many of them are kept, makes no difference to anything but the
log: sessions that are set up differently in this agree on all else, and on what each operation
answers. A log keeps the latest events of the run, as many as its capacity says.

Two things limit this. A log cannot be had with a capacity that no machine word holds; and an event
is refused at coordinates with an integer too long to be written, which stops the operation that it
is part of, but not where nothing is logged.

* `Config.logOf` — what a log holds of events;
* `Session.logging` — the guise in which events are logged otherwise;
* `Session.log_performAll` — what the log holds after a run;
* `Session.sameButLog_performAll` — the main result.
-/

namespace PcodePanel

/-- What a log holds of some events, if events are logged: the latest, up to the capacity. -/
def Config.logOf (config : Config) (events : List Event) : Option EventLog :=
  if config.trace then
    some
      { capacity := config.capacity.toNat
        events := events.drop (events.length - config.capacity.toNat) }
  else none

theorem Config.logOf_eq (config : Config) (events : List Event) :
    config.logOf events = (config.logOf []).map (·.recordAll events) := by
  unfold logOf
  split
  · simp [EventLog.events_recordAll]
  · rfl

namespace Session

/-- The sessions are the same, but for the settings of the log and for the log. -/
structure SameButLog (s t : Session) : Prop where
  session : t = { s with config := t.config, log := t.log }
  indent : t.config.indent = s.config.indent

/-! ## Another log -/

/-- The session with another log, and with the settings that belong to it. -/
def relogged (s : Session) (settings : Config) (log : Option EventLog) : Session :=
  { s with config := { settings with indent := s.config.indent }, log }

/-- Events are logged as other settings say. -/
def logging (settings : Config) (own : Option EventLog) : Guise where
  level := id
  settings := fun config => { settings with indent := config.indent }
  log := fun events _ => own.map (·.recordAll events)
  indent_settings := fun _ => rfl
  log_record := by
    intro events _ event
    cases own with
    | none => rfl
    | some log => exact congrArg some (log.recordAll_append events [event])

variable {settings : Config} {own : Option EventLog}

theorem logging_operations (operations : List Operation) :
    operations.map (logging settings own).operation = operations := by
  have same : (logging settings own).operation = id := by
    funext operation
    cases operation <;> rfl
  rw [same, List.map_id]

theorem logging_session (events : List Event) (s : Session) :
    (logging settings own).session events s
      = s.relogged settings (own.map (·.recordAll events)) := by
  have same : (logging settings own).request = id := rfl
  unfold Guise.session
  rw [same, List.map_id]
  rfl

/-- A run with another log is the run, with its events in that log. -/
theorem performAll_relogged (settings : Config) (own : Option EventLog) {s : Session}
    {operations : List Operation}
    (legible : ∀ front, front <+: operations → (s.performAll front).panel.current.Legible)
    (uncleared : .clearLog ∉ operations) :
    (s.relogged settings own).performAll operations
        = (s.performAll operations).relogged settings
          (own.map (·.recordAll (s.runEvents operations)))
      ∧ (s.relogged settings own).replies operations = s.replies operations := by
  have start : (logging settings own).session [] s = s.relogged settings own := by
    rw [logging_session]
    cases own <;> rfl
  obtain ⟨run, replies⟩ := performAll_session (g := logging settings own)
    (fun front isFront => .inl (legible front isFront)) (.inl uncleared)
  rw [logging_operations, start] at run replies
  rw [logging_session] at run
  exact ⟨run, replies⟩

/-! ## Runs -/

section Runs

variable {config : Config} {service : Option ServiceId} {delivery : Delivery}
  {manager : Option Manager} {catalog : Catalog} {services : Table ServiceId Service}
  {new : Session} (memories : List Memory) {operations : List Operation}

/-- A new session is determined by what it is made of. -/
theorem eq_of_create (created : create config service delivery manager catalog services = .ok new) :
    new = { panel := { service }, config, delivery, manager, catalog, services,
            log := config.logOf [] } := by
  unfold create at created
  unfold Config.logOf
  split at created
  · next traced =>
    rw [if_pos traced, List.drop_nil]
    unfold EventLog.ofCapacity at created
    split at created
    · cases created
    · split at created <;> cases created
      rfl
  · next untraced =>
    rw [if_neg untraced]
    cases created
    rfl

/-- After a run the log holds the latest of its events. -/
theorem log_performAll (created : create config service delivery manager catalog services = .ok new)
    (legible : ∀ front, front <+: operations →
      (performAll { new with memories } front).panel.current.Legible)
    (uncleared : .clearLog ∉ operations) :
    (performAll { new with memories } operations).log
      = config.logOf (runEvents { new with memories } operations) := by
  have self : relogged { new with memories } config (config.logOf []) = { new with memories } := by
    rw [eq_of_create created]
    rfl
  have run := (performAll_relogged config (config.logOf []) legible uncleared).1
  rw [self] at run
  exact (congrArg Session.log run).trans (config.logOf_eq _).symm

/-- **Logging only observes.** Two sessions that are set up alike but for the log go through the
same run: after each operation all but the log is the same in both, and each operation answers the
same. Either log, if events are logged there, holds the latest events of the run, in order and as
many as its capacity says. -/
theorem sameButLog_performAll {config' : Config} {new' : Session}
    (created : create config service delivery manager catalog services = .ok new)
    (created' : create config' service delivery manager catalog services = .ok new')
    (indent : config'.indent = config.indent)
    (legible : ∀ front, front <+: operations →
      (performAll { new with memories } front).panel.current.Legible)
    (uncleared : .clearLog ∉ operations) {front : List Operation} (isFront : front <+: operations) :
    SameButLog (performAll { new with memories } front) (performAll { new' with memories } front)
      ∧ replies { new' with memories } operations = replies { new with memories } operations
      ∧ (performAll { new with memories } front).log
        = config.logOf (runEvents { new with memories } front)
      ∧ (performAll { new' with memories } front).log
        = config'.logOf (runEvents { new with memories } front) := by
  have other : relogged { new with memories } config' (config'.logOf [])
      = { new' with memories } := by
    rw [eq_of_create created, eq_of_create created']
    exact congrArg (Session.mk { service } · delivery manager catalog (config'.logOf []) services
      [] [] memories [] []) (by rw [← indent])
  have legible' : ∀ first, first <+: front →
      (performAll { new with memories } first).panel.current.Legible :=
    fun first isFirst => legible first (isFirst.trans isFront)
  have uncleared' : .clearLog ∉ front := fun cleared => uncleared (isFront.subset cleared)
  have run := (performAll_relogged config' (config'.logOf []) legible' uncleared').1
  have replies :=
    (performAll_relogged config' (config'.logOf []) legible uncleared).2
  rw [other] at run replies
  rw [run]
  exact ⟨⟨rfl, rfl⟩, replies, log_performAll memories created legible' uncleared',
    (config'.logOf_eq _).symm⟩

end Runs

/-- A new session with settings of its own, in which events may be logged. -/
def Sample.logged (config : Config) : Session :=
  { Sample.start .queued with config, log := config.logOf [] }

/-- One log is full, and the other session logs nothing. -/
theorem sameButLog_full :
    SameButLog
        ((Sample.logged { trace := true, capacity := 3 }).performAll (Sample.climbing 0 0))
        ((Sample.logged {}).performAll (Sample.climbing 0 0))
      ∧ ((Sample.logged { trace := true, capacity := 3 }).performAll (Sample.climbing 0 0)).log
        = some
          { capacity := 3
            events :=
              [⟨"stale", 2, "trace@0:3.2/main", "generation 1"⟩,
               ⟨"activate", 3, "trace@0:3.3/main", ""⟩, ⟨"request", 3, "trace@0:3.3/main", ""⟩] }
      ∧ ((Sample.logged {}).performAll (Sample.climbing 0 0)).log = none := by
  have legible : ∀ front ∈ (Sample.climbing 0 0).inits,
      ((Sample.logged { trace := true, capacity := 3 }).performAll front).panel.current.Legible := by
    decide +kernel
  have created : create { trace := true, capacity := 3 } (some "S") .queued none .builtin
      (fun _ => .manual {}) = .ok _ := rfl
  have created' : create {} (some "S") .queued none .builtin (fun _ => .manual {}) = .ok _ := rfl
  obtain ⟨same, _, log, none⟩ := sameButLog_performAll (Sample.start .queued).memories created
    created' rfl (fun front isFront => legible front ((List.mem_inits ..).mpr isFront)) (by decide)
    (List.prefix_refl (Sample.climbing 0 0))
  exact ⟨same, log.trans (by decide +kernel), none⟩

/-- A spot at a time that is too long to be written. -/
def Sample.beyond : Coordinates :=
  { Sample.spot 1 with time := ⟨Int.ofNat (Nat.pow 10 Numeral.digitLimit), 0, 1⟩ }

/-- Logging is not always possible. A capacity may be larger than a machine word holds, and a time
too long to be written: its activation is refused where it is to be logged, and not where nothing is
logged. -/
theorem logging_refused :
    create { trace := true, capacity := 9223372036854775808 } (some "S") .queued none .builtin
          (fun _ => .manual {}) = .error .capacityTooLarge
      ∧ (create { capacity := 9223372036854775808 } (some "S") .queued none .builtin
          fun _ => .manual {}).isOk = true
      ∧ ((Sample.logged { trace := true }).perform (.activate Sample.beyond)).2
        = .error .numeralTooLong
      ∧ ((Sample.logged {}).perform (.activate Sample.beyond)).2 = .ok .nothing := by
  refine ⟨?_, ?_, ?_, ?_⟩
  · rfl
  · rfl
  · decide +kernel
  · decide +kernel

end Session

end PcodePanel
