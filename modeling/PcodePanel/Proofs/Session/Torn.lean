import PcodePanel.Proofs.Session.Reload

/-!
# Loads that fail

A load writes the coordinates, the text of the instruction, the rows and the temporaries one after
the other. Making the rows may fail, and so may decoding the temporaries: what was written before
stays, and nobody takes it back. A panel that was loaded then says that it still is, with the text
of one instruction above the code of another.

* `Trigger` — what makes a panel load;
* `Panel.Torn` — how a panel fails to show a thread;
* `Session.torn_of_pull` — a load that fails leaves a torn panel, unless the log refuses the event;
* `Session.mixed_of_pull` — what a torn panel shows;
* `Session.loaded_torn` — a run after which the panel is loaded and torn.
-/

namespace PcodePanel

/-- What makes a panel load. -/
inductive Trigger
  | activate (coordinates : Coordinates)
  | setService (service : Option ServiceId)
  | reload
  | deliver (id : RequestId)
deriving DecidableEq, Repr

/-- How a panel fails to show a thread of an emulator. -/
inductive Panel.Torn (indent : Option Bool) (memories : MemoryId → Memory) (emulator : Emulator)
    (path : String) (panel : Panel) : Panel → Fault → Prop
  /-- The frame cannot be listed: only the text of the instruction is new. -/
  | unlisted {thread : EmulatedThread} {frame : Frame} {fault : Fault} :
      emulator.thread? path = some thread → thread.frame = some frame →
      Listing.ofFrame emulator.language frame indent = .error fault →
      Torn indent memories emulator path panel { panel with label := thread.instruction } fault
  /-- A temporary cannot be decoded: the rows are new too. -/
  | undecodable {thread : EmulatedThread} {frame : Frame} {listing : Listing} {fault : Fault} :
      emulator.thread? path = some thread → thread.frame = some frame →
      Listing.ofFrame emulator.language frame indent = .ok listing →
      Unique.decodeAll (Unique.collect frame) (memories thread.memory) emulator.language
        = .error fault →
      Torn indent memories emulator path panel
        { panel with
          label := thread.instruction, rows := listing.rows, nextRow := listing.nextRow } fault

theorem Panel.torn_of_showEmulator {indent : Option Bool} {memories : MemoryId → Memory}
    {emulator : Emulator} {path : String} {p p' : Panel} {fault : Fault}
    (failed : p.showEmulator indent memories emulator path = (p', some fault)) :
    Torn indent memories emulator path p p' fault := by
  unfold showEmulator at failed
  cases found : emulator.thread? path with
  | none =>
      rw [found] at failed
      cases failed
  | some thread =>
      simp only [found] at failed
      cases decoded : thread.frame with
      | none =>
          rw [decoded] at failed
          cases failed
      | some frame =>
          simp only [decoded, showFrame] at failed
          cases listed : Listing.ofFrame emulator.language frame indent with
          | error fault' =>
              rw [listed] at failed
              cases failed
              exact .unlisted found decoded listed
          | ok listing =>
              cases values : Unique.decodeAll (Unique.collect frame) (memories thread.memory)
                  emulator.language with
              | error fault' =>
                  simp only [listed, values] at failed
                  cases failed
                  exact .undecodable found decoded listed values
              | ok uniques => simp [listed, values] at failed

namespace Session

variable {trigger : Trigger} {emulator : Emulator} {id : RequestId} {request : Request}
  {fault : Fault} {s t : Session}

/-- Loads what a trigger makes the panel load. -/
def pull (s : Session) : Trigger → Session × Option Fault
  | .activate coordinates => s.activate coordinates
  | .setService service => s.setService service
  | .reload => s.reload
  | .deliver id => s.deliver id

/-- The trigger tells the panel of a request that is not current any more. -/
def TellsLate (s : Session) : Trigger → Prop
  | .deliver id => ∃ request, s.requests[id]? = some request
      ∧ request.isCurrent s.panel.current s.panel.generation = false
  | .activate _ | .setService _ | .reload => False

/-- The emulator that a trigger makes the panel show: the one that is kept for what it then follows,
or the outcome of a current request. -/
def Offered (s : Session) (emulator : Emulator) : Trigger → Prop
  | .activate coordinates => (s.focusOn coordinates).plan = .display emulator
  | .setService service => (s.rewire service).plan = .display emulator
  | .reload => s.plan = .display emulator
  | .deliver id => ∃ request, s.requests[id]? = some request
      ∧ (request.isCurrent s.panel.current s.panel.generation = true
          ∧ request.state = .finished (.emulated emulator)
        ∨ request.isCurrent s.panel.current s.panel.generation = false
          ∧ s.plan = .display emulator)

/-- The panel is about to show something, after a trigger: it differs from the panel before in what
it follows and waits for, may have lost its text, and says so if it drops a late result. -/
structure Onset (s : Session) (trigger : Trigger) (panel : Panel) : Prop where
  rows : panel.rows = s.panel.rows
  nextRow : panel.nextRow = s.panel.nextRow
  uniques : panel.uniques = s.panel.uniques
  source : panel.source = s.panel.source
  state : panel.state = s.panel.state ∧ ¬ s.TellsLate trigger
    ∨ panel.state = .stale ∧ s.TellsLate trigger

/-- The log refuses an event only if it cannot write the coordinates. -/
theorem record_eq_error {name detail : String} (refused : s.record name detail = .error fault) :
    s.log ≠ none ∧ s.panel.current.text = .error fault := by
  unfold record at refused
  split at refused
  · cases refused
  · next log eq =>
    refine ⟨by rw [eq]; exact nofun, ?_⟩
    cases text : s.panel.current.text with
    | error fault' =>
        rw [text] at refused
        cases refused
        rfl
    | ok coordinates =>
        rw [text] at refused
        cases refused

/-- The log refuses the event. -/
def Refused (t : Session) (fault : Fault) : Prop :=
  t.log ≠ none ∧ t.panel.current.text = .error fault

theorem torn_of_showEmulator (failed : s.showEmulator emulator = (t, some fault)) :
    ∃ path, s.panel.current.thread = some path
      ∧ Panel.Torn s.config.indent s.memory emulator path s.panel t.panel fault := by
  unfold showEmulator at failed
  cases thread : s.panel.current.thread with
  | none =>
      rw [thread] at failed
      cases failed
  | some path =>
      simp only [thread, Prod.mk.injEq] at failed
      obtain ⟨rfl, failed⟩ := failed
      exact ⟨path, rfl, Panel.torn_of_showEmulator (Prod.ext rfl failed)⟩

/-- A reload fails if the log refuses the event or an emulator that is kept cannot be shown. -/
theorem torn_of_reload (failed : s.reload = (t, some fault)) :
    t.Refused fault ∨ ∃ emulator path, s.plan = .display emulator
      ∧ s.panel.current.thread = some path
      ∧ Panel.Torn s.config.indent s.memory emulator path s.clearLabel.panel t.panel fault := by
  unfold reload at failed
  cases plan : s.plan with
  | nothing | placeholder | wait =>
      rw [plan] at failed
      cases failed
  | display emulator =>
      rw [plan] at failed
      obtain ⟨path, thread, torn⟩ := torn_of_showEmulator (s := s.clearLabel) failed
      exact .inr ⟨emulator, path, rfl, thread, torn⟩
  | ask service =>
      simp only [plan, follow] at failed
      split at failed
      · next refused =>
        cases failed
        exact .inl (record_eq_error refused)
      · cases failed

theorem torn_of_recordAndReload {name : String}
    (failed : s.recordAndReload name = (t, some fault)) :
    t.Refused fault ∨ ∃ emulator path, s.plan = .display emulator
      ∧ s.panel.current.thread = some path
      ∧ Panel.Torn s.config.indent s.memory emulator path s.clearLabel.panel t.panel fault := by
  unfold recordAndReload at failed
  split at failed
  · next refused =>
    cases failed
    exact .inl (record_eq_error refused)
  · next recorded =>
    obtain ⟨log, rfl⟩ := record_eq_ok recorded
    exact torn_of_reload (s := { s with log }) failed

/-- What is delivered fails if the log refuses the event, or if the outcome or an emulator that is
kept cannot be shown. -/
theorem torn_of_deliver (failed : s.deliver id = (t, some fault)) :
    t.Refused fault ∨ ∃ emulator path before, s.Offered emulator (.deliver id)
      ∧ s.Onset (.deliver id) before ∧ before.current.thread = some path
      ∧ Panel.Torn s.config.indent s.memory emulator path before t.panel fault := by
  unfold deliver at failed
  split at failed
  · cases failed
  · next request found =>
    obtain ⟨pending, eq⟩ : ∃ pending, s.forget id = { s with panel := { s.panel with pending } } :=
      ⟨_, forget_eq s id⟩
    rw [eq] at failed
    dsimp only at failed
    split at failed
    · next current =>
      have notLate : ¬ s.TellsLate (.deliver id) := by
        rintro ⟨request', found', late⟩
        rw [found] at found'
        cases found'
        rw [late] at current
        cases current
      unfold takeOver at failed
      split at failed
      · dsimp only at failed
        split at failed
        · next refused =>
          cases failed
          exact .inl (record_eq_error refused)
        · cases failed
      · next emulator state =>
        split at failed
        · next refused =>
          cases failed
          exact .inl (record_eq_error refused)
        · next recorded =>
          obtain ⟨log, rfl⟩ := record_eq_ok recorded
          obtain ⟨path, thread, torn⟩ := torn_of_showEmulator failed
          exact .inr ⟨emulator, path, { s.panel with pending },
            ⟨request, found, .inl ⟨current, state⟩⟩,
            ⟨rfl, rfl, rfl, rfl, .inl ⟨rfl, notLate⟩⟩, thread, torn⟩
      · cases failed
      · cases failed
    · next late =>
      have isLate : request.isCurrent s.panel.current s.panel.generation = false := by
        simpa using late
      unfold dropStale at failed
      split at failed
      · next refused =>
        cases failed
        exact .inl (record_eq_error refused)
      · next recorded =>
        obtain ⟨log, rfl⟩ := record_eq_ok recorded
        rcases torn_of_reload failed with refused | ⟨emulator, path, plan, thread, torn⟩
        · exact .inl refused
        · exact .inr ⟨emulator, path, { s.panel with pending, state := .stale, label := none },
            ⟨request, found, .inr ⟨isLate, plan_display_congr plan rfl rfl rfl⟩⟩,
            ⟨rfl, rfl, rfl, rfl, .inr ⟨rfl, request, found, isLate⟩⟩, thread, torn⟩

/-- A load fails if the log refuses the event, or else it leaves a torn panel. -/
theorem torn_of_pull (failed : s.pull trigger = (t, some fault)) :
    t.Refused fault ∨ ∃ emulator path before, s.Offered emulator trigger ∧ s.Onset trigger before
      ∧ before.current.thread = some path
      ∧ Panel.Torn s.config.indent s.memory emulator path before t.panel fault := by
  cases trigger with
  | activate coordinates =>
      by_cases same : s.panel.current.sameAs coordinates = true
      · rw [pull, activate_of_sameAs same] at failed
        cases failed
      · have eq : s.activate coordinates = (s.focusOn coordinates).recordAndReload "activate" :=
          if_neg same
        rw [pull, eq] at failed
        refine (torn_of_recordAndReload failed).imp_right ?_
        rintro ⟨emulator, path, plan, thread, torn⟩
        exact ⟨emulator, path, (s.focusOn coordinates).clearLabel.panel, plan,
          ⟨rfl, rfl, rfl, rfl, .inl ⟨rfl, nofun⟩⟩, thread, torn⟩
  | setService service =>
      refine (torn_of_recordAndReload (s := s.rewire service) failed).imp_right ?_
      rintro ⟨emulator, path, plan, thread, torn⟩
      exact ⟨emulator, path, (s.rewire service).clearLabel.panel, plan,
        ⟨rfl, rfl, rfl, rfl, .inl ⟨rfl, nofun⟩⟩, thread, torn⟩
  | reload =>
      refine (torn_of_reload failed).imp_right ?_
      rintro ⟨emulator, path, plan, thread, torn⟩
      exact ⟨emulator, path, s.clearLabel.panel, plan,
        ⟨rfl, rfl, rfl, rfl, .inl ⟨rfl, nofun⟩⟩, thread, torn⟩
  | deliver id => exact torn_of_deliver failed

/-- **What a failing load leaves.** The panel is loaded afterwards if it was before, unless a late
result was dropped. It keeps the temporaries, has the text of the instruction that could not be
shown, and its rows are the old ones or those of that instruction. -/
theorem mixed_of_pull (failed : s.pull trigger = (t, some fault))
    (written : t.log = none ∨ ∃ text, t.panel.current.text = .ok text) :
    (t.panel.state = .loaded ↔ s.panel.state = .loaded ∧ ¬ s.TellsLate trigger)
      ∧ t.panel.uniques = s.panel.uniques ∧ t.panel.source = s.panel.source
      ∧ ∃ emulator thread frame, s.Offered emulator trigger
        ∧ t.panel.current.thread.bind emulator.thread? = some thread ∧ thread.frame = some frame
        ∧ t.panel.label = thread.instruction
        ∧ (Listing.ofFrame emulator.language frame s.config.indent = .error fault
            ∧ t.panel.rows = s.panel.rows ∧ t.panel.nextRow = s.panel.nextRow
          ∨ ∃ listing, Listing.ofFrame emulator.language frame s.config.indent = .ok listing
            ∧ Unique.decodeAll (Unique.collect frame) (s.memory thread.memory) emulator.language
              = .error fault
            ∧ t.panel.rows = listing.rows ∧ t.panel.nextRow = listing.nextRow) := by
  rcases torn_of_pull failed with ⟨logs, refused⟩ | ⟨emulator, path, before, offered, onset,
    focused, torn⟩
  · -- A log that can write the coordinates does not refuse.
    rcases written with none | ⟨text, eq⟩
    · exact absurd none logs
    · rw [refused] at eq
      cases eq
  have loaded : before.state = .loaded ↔ s.panel.state = .loaded ∧ ¬ s.TellsLate trigger := by
    rcases onset.state with ⟨state, onTime⟩ | ⟨state, late⟩
    · rw [state]
      exact ⟨fun loaded => ⟨loaded, onTime⟩, fun h => h.1⟩
    · rw [state]
      exact ⟨fun loaded => (by cases loaded), fun h => absurd late h.2⟩
  -- What the display is torn from is the panel at the onset.
  generalize t.panel = after at torn ⊢
  cases torn with
  | @unlisted thread frame _ found hasFrame unlisted =>
      refine ⟨loaded, onset.uniques, onset.source, emulator, thread, frame, offered, ?_, hasFrame,
        rfl, .inl ⟨unlisted, onset.rows, onset.nextRow⟩⟩
      rw [focused]
      exact found
  | @undecodable thread frame listing _ found hasFrame listed undecodable =>
      refine ⟨loaded, onset.uniques, onset.source, emulator, thread, frame, offered, ?_, hasFrame,
        rfl, .inr ⟨listing, listed, undecodable, rfl, rfl⟩⟩
      rw [focused]
      exact found

/-- A branch to a constant of no bytes, which cannot be listed. -/
def Sample.unlistable : Emulator where
  language := Sample.language
  threads := [⟨"main", some "JMP 0",
    some { code := [⟨4, none, [⟨.constant, 0, 0, none⟩], ⟨4096, 0⟩⟩] }, 0⟩]

/-- An instruction is shown. The one behind it is kept already, and cannot be listed. -/
def Sample.shown : Session :=
  (start .queued).performAll
    [.add "S" (spot 1).key (Sample.emulator 0), .add "S" (spot 2).key unlistable,
     .activate (spot 1)]

theorem mixed_of_pull_unlistable :
    ((Sample.shown.pull (.activate (Sample.spot 2))).1.panel.state = .loaded
        ↔ Sample.shown.panel.state = .loaded ∧ ¬ Sample.shown.TellsLate (.activate (Sample.spot 2)))
      ∧ (Sample.shown.pull (.activate (Sample.spot 2))).1.panel.uniques
        = Sample.shown.panel.uniques := by
  have fault : (Sample.shown.pull (.activate (Sample.spot 2))).2 = some .negativeWidth := by
    decide +kernel
  have failed : Sample.shown.pull (.activate (Sample.spot 2))
      = ((Sample.shown.pull (.activate (Sample.spot 2))).1, some .negativeWidth) := by
    rw [← fault]
  have unlogged : (Sample.shown.pull (.activate (Sample.spot 2))).1.log = none :=
    Option.isNone_iff_eq_none.mp (by decide +kernel)
  obtain ⟨loaded, uniques, _⟩ := mixed_of_pull failed (.inl unlogged)
  exact ⟨loaded, uniques⟩

/-- The load fails, and the panel is loaded: at the new coordinates it shows the new text above the
old rows and the old temporaries. -/
theorem loaded_torn :
    Sample.shown.panel.state = .loaded
      ∧ Sample.shown.panel.current = Sample.spot 1
      ∧ Sample.shown.panel.label = some "ADD r0, 7"
      ∧ (Sample.shown.activate (Sample.spot 2)).2 ≠ none
      ∧ (Sample.shown.activate (Sample.spot 2)).1.panel.state = .loaded
      ∧ (Sample.shown.activate (Sample.spot 2)).1.panel.current = Sample.spot 2
      ∧ (Sample.shown.activate (Sample.spot 2)).1.panel.label = some "JMP 0"
      ∧ (Sample.shown.activate (Sample.spot 2)).1.panel.rows = Sample.shown.panel.rows
      ∧ Sample.shown.panel.rows ≠ []
      ∧ (Sample.shown.activate (Sample.spot 2)).1.panel.uniques = Sample.shown.panel.uniques := by
  decide +kernel

end Session

end PcodePanel
