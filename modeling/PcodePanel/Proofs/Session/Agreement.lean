import PcodePanel.Proofs.Display.NextRow
import PcodePanel.Proofs.Session.Move

/-!
# The display agrees with the coordinates

What a panel shows goes with what it follows: where there is nothing to emulate it shows why, while
it waits it shows that, and only a loaded panel has temporaries and a next row.

A reload that finds its request on the way leaves the rows as they are. That they say so already is
the hidden half of the invariant: while a current request is waited for and nothing is kept for its
key, the panel shows that it is loading.

* `Panel.Agrees` — the six ways in which a panel can agree with its coordinates;
* `Session.Agreeing` — the invariant of all moves, as long as no service drops an emulator;
* `Session.consistent_performAll` — the main result, in terms of what is shown.
-/

namespace PcodePanel

namespace Panel

/-- Nothing but these rows is shown. -/
structure Blank (p : Panel) (rows : List Row) : Prop where
  rows : p.rows = rows
  nextRow : p.nextRow = none
  uniques : p.uniques = []
  source : p.source = none

/-- How what is shown agrees with what is followed. -/
inductive Agrees (p : Panel) : Prop
  | nothing : p.service = none ∨ p.current.trace = none → p.state = .noCoordinates →
      p.Blank [] → Agrees p
  | noThread : p.service ≠ none → p.current.trace ≠ none → p.current.thread = none →
      p.state = .noThread → p.Blank [.ofKind .noThread none] → Agrees p
  | notDecoded : p.service ≠ none → p.current.trace ≠ none → p.current.thread ≠ none →
      p.state = .notDecoded → p.Blank [.ofKind .notDecoded none] → Agrees p
  | failed {detail : String} : p.service ≠ none → p.current.Askable → p.state = .notDecoded →
      p.Blank [.ofKind .emulationFailed (some detail)] → Agrees p
  | loading : p.service ≠ none → p.current.Askable → p.state = .loading →
      p.Blank [.ofKind .loading none] → Agrees p
  | loaded : p.service ≠ none → p.current.Askable → p.state = .loaded →
      Unique.Ascending p.uniques → MarksNext p.rows p.nextRow → Numbered p.rows → Agrees p

variable {p p' : Panel}

theorem Blank.congr {rows : List Row} (h : p.Blank rows) (sameRows : p'.rows = p.rows)
    (sameNext : p'.nextRow = p.nextRow) (sameUniques : p'.uniques = p.uniques)
    (sameSource : p'.source = p.source) : p'.Blank rows :=
  ⟨sameRows.trans h.rows, sameNext.trans h.nextRow, sameUniques.trans h.uniques,
    sameSource.trans h.source⟩

/-- A panel that shows an emulator agrees with coordinates that ask for one. -/
theorem Shown.agrees {indent : Option Bool} {memories : MemoryId → Memory} {emulator : Emulator}
    {path : String} (shown : Shown indent memories emulator path p p') (live : p.service ≠ none)
    (askable : p.current.Askable) : p'.Agrees := by
  obtain ⟨trace, thread, decoded⟩ := askable
  cases shown with
  | missing | undecoded => exact .notDecoded live trace thread rfl ⟨rfl, rfl, rfl, rfl⟩
  | decoded _ _ listed values =>
      refine .loaded live ⟨trace, thread, decoded⟩ rfl ?_ (Listing.marksNext_ofFrame listed)
        (Listing.numbered_ofFrame listed)
      exact Unique.ascending_of_subjects (Unique.subjects_decodeAll values)
        (Unique.ascending_collect _)

/-- Only the trace, the time and the thread matter, and not the stack level. -/
theorem Agrees.refresh (h : p.Agrees) {coordinates : Coordinates}
    (sameAs : p.current.sameAs coordinates = true) :
    Agrees { p with current := coordinates } := by
  obtain ⟨trace, time, thread⟩ := Coordinates.sameAs_iff.mp sameAs
  have askable : p.current.Askable → coordinates.Askable := by
    rw [Coordinates.Askable, Coordinates.Askable, trace, time, thread]
    exact id
  cases h with
  | nothing absent state blank =>
      rw [trace] at absent
      exact .nothing absent state (blank.congr rfl rfl rfl rfl)
  | noThread live hasTrace noThread state blank =>
      rw [trace] at hasTrace
      rw [thread] at noThread
      exact .noThread live hasTrace noThread state (blank.congr rfl rfl rfl rfl)
  | notDecoded live hasTrace hasThread state blank =>
      rw [trace] at hasTrace
      rw [thread] at hasThread
      exact .notDecoded live hasTrace hasThread state (blank.congr rfl rfl rfl rfl)
  | failed live isAskable state blank =>
      exact .failed live (askable isAskable) state (blank.congr rfl rfl rfl rfl)
  | loading live isAskable state blank =>
      exact .loading live (askable isAskable) state (blank.congr rfl rfl rfl rfl)
  | loaded live isAskable state ascending marks numbered =>
      exact .loaded live (askable isAskable) state ascending marks numbered

/-- A panel that has values is loaded. A data type changes the order of the temporaries no more than
their subjects. -/
theorem Agrees.assign (h : p.Agrees) (hasSource : p.source ≠ none) {uniques : List Unique.Entry}
    (subjects : uniques.map Unique.Entry.subject = p.uniques.map Unique.Entry.subject) :
    Agrees { p with uniques } := by
  cases h with
  | nothing _ _ blank => exact absurd blank.source hasSource
  | noThread _ _ _ _ blank => exact absurd blank.source hasSource
  | notDecoded _ _ _ _ blank => exact absurd blank.source hasSource
  | failed _ _ _ blank => exact absurd blank.source hasSource
  | loading _ _ _ blank => exact absurd blank.source hasSource
  | loaded live askable state ascending marks numbered =>
      exact .loaded live askable state (Unique.ascending_of_subjects subjects ascending) marks
        numbered

end Panel

namespace Session

variable {allowed : Operation → Prop} {held held' : List RequestId} {s s' : Session}

/-- While the panel waits for what is not kept, it shows that it is loading. -/
def Awaiting (s : Session) : Prop :=
  ∀ id request, s.panel.pending = some id → s.requests[id]? = some request →
    request.isCurrent s.panel.current s.panel.generation = true →
    (s.services request.service).cached? request.coordinates.key = none →
    s.panel.Blank [.ofKind .loading none]

/-- The panel agrees with its coordinates, also where a reload will not touch its rows. -/
structure Agreeing (s : Session) : Prop where
  agrees : s.panel.Agrees
  awaiting : s.Awaiting

theorem Awaiting.of_pending_none (idle : s.panel.pending = none) : s.Awaiting := by
  intro id request waits
  rw [idle] at waits
  cases waits

/-- A panel that a reload would let wait shows so already. -/
theorem Awaiting.blank_of_wait (awaiting : s.Awaiting) (watched : Watched s)
    (plan : s.plan = .wait) : s.panel.Blank [.ofKind .loading none] := by
  obtain ⟨id, request, waits, found, current, _, _, absent⟩ := watched.asked_of_wait plan
  exact awaiting id request waits found current absent

/-- What is awaited goes on being awaited, as long as the panel shows it and services keep what they
have. -/
theorem Awaiting.inherit (awaiting : s.Awaiting) (inherits : s.Inherits s')
    (blank : s.panel.Blank [.ofKind .loading none] → s'.panel.Blank [.ofKind .loading none])
    (absent : ∀ service key, (s'.services service).cached? key = none →
      (s.services service).cached? key = none) : s'.Awaiting := by
  intro id request' waits found current absent'
  obtain ⟨request, waits, found, current, sameService, sameCoordinates⟩ :=
    inherits id request' waits found current
  refine blank (awaiting id request waits found current ?_)
  rw [sameService, sameCoordinates]
  exact absent _ _ absent'

/-- A request that is dropped leaves the others awaited. -/
theorem Awaiting.stale (awaiting : s.Awaiting) (watched : Watched s) {id : RequestId}
    {rest : List RequestId} {log : Option EventLog} :
    Awaiting ({ forget { s with queue := rest } id with log }.setState .stale) := by
  refine awaiting.inherit (.of_stale watched) (fun blank => ?_) ?_
  · rw [forget_eq]
    exact blank.congr rfl rfl rfl rfl
  · rw [forget_eq]
    exact fun _ _ absent => absent

namespace Agreeing

theorem ofStart (start : s.IsStart) : Agreeing s := by
  obtain ⟨config, service, delivery, manager, catalog, log, memories, rfl⟩ := start.eq
  exact ⟨.nothing (.inr rfl) rfl ⟨rfl, rfl, rfl, rfl⟩, .of_pending_none rfl⟩

/-- A reload makes the panel agree, whatever it showed before. -/
theorem ofReloaded (watched : Watched s) (awaiting : s.Awaiting) (reloaded : Reloaded s s') :
    Agreeing s' := by
  cases reloaded with
  | nothing plan =>
      have absent := plan_eq_nothing_iff.mp plan
      refine ⟨.nothing absent rfl ⟨rfl, rfl, rfl, rfl⟩, ?_⟩
      intro id request waits found current
      -- What is current was asked of a service, for a trace.
      obtain ⟨live, _, trace, _⟩ := watched.askable_of_isCurrent found current
      rcases absent with absent | absent
      · rw [absent] at live
        cases live
      · exact absurd absent trace
  | placeholder plan =>
      obtain ⟨live, trace, ⟨thread, rfl, rfl⟩ | ⟨thread, undecoded, rfl, rfl⟩⟩ :=
        plan_eq_placeholder_iff.mp plan
      · refine ⟨.noThread live trace thread rfl ⟨rfl, rfl, rfl, rfl⟩, ?_⟩
        intro id request waits found current
        obtain ⟨_, _, _, focused, _⟩ := watched.askable_of_isCurrent found current
        exact absurd thread focused
      · refine ⟨.notDecoded live trace thread rfl ⟨rfl, rfl, rfl, rfl⟩, ?_⟩
        intro id request waits found current
        obtain ⟨_, _, _, _, decoded⟩ := watched.askable_of_isCurrent found current
        exact absurd undecoded decoded
  | @display emulator path panel plan thread shown =>
      obtain ⟨service, live, askable, _⟩ := plan_eq_display plan
      obtain ⟨_, _, _, sameGeneration, samePending⟩ := shown.follows
      refine ⟨shown.agrees (Option.ne_none_iff_exists'.mpr ⟨service, live⟩) askable, ?_⟩
      have inherits : s.Inherits { s.clearLabel with panel } :=
        .of_generation watched sameGeneration (fun waits => samePending.symm.trans waits) rfl
      -- What is displayed is kept, so that nothing is waited for.
      intro id request' waits found current absent
      obtain ⟨request, _, found, current, sameService, sameCoordinates⟩ :=
        inherits id request' waits found current
      have cached := watched.cached_of_display plan found current
      rw [sameService, sameCoordinates] at cached
      cases absent.symm.trans cached
  | wait plan =>
      obtain ⟨service, live, askable, _⟩ := plan_eq_wait plan
      have blank := awaiting.blank_of_wait watched plan
      have blank' : (s.clearLabel.setState .loading).panel.Blank [.ofKind .loading none] :=
        blank.congr rfl rfl rfl rfl
      exact ⟨.loading (Option.ne_none_iff_exists'.mpr ⟨_, live⟩) askable rfl blank',
        fun _ _ _ _ _ _ => blank'⟩
  | ask plan =>
      obtain ⟨live, askable, _⟩ := plan_eq_ask plan
      exact ⟨.loading (Option.ne_none_iff_exists'.mpr ⟨_, live⟩) askable rfl ⟨rfl, rfl, rfl, rfl⟩,
        fun _ _ _ _ _ _ => ⟨rfl, rfl, rfl, rfl⟩⟩

/-- A delivery makes the panel agree. The request that it takes over is waited for no longer. -/
theorem ofDelivered {id : RequestId} {rest : List RequestId} (watched : Watched s)
    (queue : s.queue = id :: rest) (awaiting : s.Awaiting)
    (delivered : Delivered { s with queue := rest } id s') : Agreeing s' := by
  have queued : id ∈ s.queue := by
    rw [queue]
    exact List.mem_cons_self
  cases delivered with
  | failed found current state =>
      obtain ⟨live, _, askable⟩ := watched.askable_of_isCurrent found current
      rw [forget_eq]
      refine ⟨.failed (Option.ne_none_iff_exists'.mpr ⟨_, live⟩) askable rfl
        ⟨rfl, rfl, rfl, rfl⟩, .of_pending_none ?_⟩
      exact if_pos (watched.pending_of_isCurrent queued found current)
  | @applied request emulator path panel log found current state thread shown =>
      obtain ⟨live, _, askable⟩ := watched.askable_of_isCurrent found current
      rw [forget_eq] at shown
      obtain ⟨_, _, _, _, samePending⟩ := shown.follows
      refine ⟨shown.agrees (Option.ne_none_iff_exists'.mpr ⟨_, live⟩) askable,
        .of_pending_none (samePending.trans ?_)⟩
      exact if_pos (watched.pending_of_isCurrent queued found current)
  | stale _ _ reloaded => exact ofReloaded (watched.stale queue) (awaiting.stale watched) reloaded

theorem move (noEviction : ∀ service key, ¬ allowed (.evict service key)) (sound : Sound held s)
    (move : Move allowed ⟨held, s⟩ ⟨held', s'⟩) (h : Agreeing s) : Agreeing s' := by
  obtain ⟨agrees, awaiting⟩ := h
  obtain ⟨_, watched⟩ := sound
  cases move with
  | aside | giveUp => exact ⟨agrees, awaiting⟩
  | refresh _ sameAs =>
      refine ⟨agrees.refresh sameAs, awaiting.inherit ?_ ?_ fun _ _ => id⟩
      · exact .of_generation watched rfl id rfl
      · exact fun blank => blank.congr rfl rfl rfl rfl
  | assign _ hasSource found sameSubject =>
      have subjects := Unique.subjects_set found sameSubject
      refine ⟨agrees.assign hasSource subjects, awaiting.inherit ?_ ?_ fun _ _ => id⟩
      · exact .of_generation watched rfl id rfl
      · exact fun blank => absurd blank.source hasSource
  | keep =>
      refine ⟨agrees, awaiting.inherit (.of_generation watched rfl id rfl) id ?_⟩
      intro other otherKey absent
      rw [services_updateService, cached?_set_keep] at absent
      split at absent
      · cases absent
      · exact absent
  | evict ok => exact absurd ok (noEviction _ _)
  | takeUp =>
      refine ⟨agrees, awaiting.inherit (.of_generation watched rfl id rfl) id ?_⟩
      intro other otherKey absent
      rw [services_updateService, cached?_set_takeUp] at absent
      exact absent
  | finish outstanding | cancel _ outstanding =>
      exact ⟨agrees, awaiting.inherit (.of_mark watched outstanding) id fun _ _ => id⟩
  | load _ reloaded => exact ofReloaded watched awaiting reloaded
  | focus _ _ reloaded =>
      refine ofReloaded ?_ ?_ reloaded
      · exact watched.advance rfl (.inl rfl) rfl rfl
      · refine awaiting.inherit (.of_advance watched rfl rfl) ?_ fun _ _ => id
        exact fun blank => blank.congr rfl rfl rfl rfl
  | rewire _ reloaded =>
      refine ofReloaded ?_ ?_ reloaded
      · exact watched.advance rfl (.inr rfl) rfl rfl
      · exact .of_pending_none rfl
  | deliver queue delivered => exact ofDelivered watched queue awaiting delivered

end Agreeing

/-- What is shown is consistent with what is followed. -/
structure Consistent (s : Session) : Prop where
  state_ne_stale : s.panel.state ≠ .stale
  noCoordinates_iff : s.panel.state = .noCoordinates
    ↔ s.panel.service = none ∨ s.panel.current.trace = none
  noCoordinates : s.panel.state = .noCoordinates → s.panel.rows = []
  noThread_iff : s.panel.state = .noThread
    ↔ s.panel.service ≠ none ∧ s.panel.current.trace ≠ none ∧ s.panel.current.thread = none
  noThread : s.panel.state = .noThread → s.panel.rows = [.ofKind .noThread none]
  undecoded : s.panel.service ≠ none → s.panel.current.trace ≠ none →
    s.panel.current.thread ≠ none → s.panel.current.time.pticks = 0 →
    s.panel.state = .notDecoded ∧ s.panel.rows = [.ofKind .notDecoded none]
  loading : s.panel.state = .loading → s.panel.rows = [.ofKind .loading none]
  notDecoded : s.panel.state = .notDecoded → s.panel.rows = [.ofKind .notDecoded none]
    ∨ ∃ detail, s.panel.rows = [.ofKind .emulationFailed (some detail)]
  not_loaded : s.panel.state ≠ .loaded → s.panel.uniques = [] ∧ s.panel.nextRow = none
    ∧ ∀ index type, (s.perform (.assign index type)).2 = .error .nothingLoaded
  loaded : s.panel.state = .loaded → Unique.Ascending s.panel.uniques
    ∧ MarksNext s.panel.rows s.panel.nextRow ∧ Numbered s.panel.rows

/-- Without values no data type is given. -/
theorem assign_of_source_none (none : s.panel.source = none) (index : Int)
    (type : Option DataType) : (s.perform (.assign index type)).2 = .error .nothingLoaded := by
  rw [perform, assign, Panel.assign, none]

theorem consistent_of_agrees (h : s.panel.Agrees) : s.Consistent := by
  have noneLoaded : ∀ {rows}, s.panel.Blank rows → s.panel.uniques = [] ∧ s.panel.nextRow = none
      ∧ ∀ index type, (s.perform (.assign index type)).2 = .error .nothingLoaded := by
    intro rows blank
    exact ⟨blank.uniques, blank.nextRow, assign_of_source_none blank.source⟩
  cases h with
  | nothing absent state blank =>
      constructor <;> simp [state, absent, blank.rows, noneLoaded blank]
      all_goals
        intro live trace
        exact absurd absent (not_or.mpr ⟨live, trace⟩)
  | noThread live trace thread state blank =>
      constructor <;> simp [state, live, trace, thread, blank.rows, noneLoaded blank]
  | notDecoded live trace thread state blank =>
      constructor <;> simp [state, live, trace, thread, blank.rows, noneLoaded blank]
  | failed live askable state blank =>
      obtain ⟨trace, thread, decoded⟩ := askable
      constructor <;> simp [state, live, trace, thread, decoded, blank.rows, noneLoaded blank]
      exact .inr ⟨_, rfl⟩
  | loading live askable state blank =>
      obtain ⟨trace, thread, decoded⟩ := askable
      constructor <;> simp [state, live, trace, thread, decoded, blank.rows, noneLoaded blank]
  | loaded live askable state ascending marks numbered =>
      obtain ⟨trace, thread, decoded⟩ := askable
      constructor <;> simp [state, live, trace, thread, decoded, ascending, marks, numbered]

/-- **The display agrees with the coordinates.** After every smooth run in which no service drops
an emulator, what the panel shows is consistent with what it follows. -/
theorem consistent_performAll {operations : List Operation} (start : s.IsStart)
    (noEviction : ∀ service key, .evict service key ∉ operations)
    (smooth : s.RunsSmoothly operations) : (s.performAll operations).Consistent := by
  have moves := (start.leads smooth).moves
  have agreeing := moves.keep (P := fun _ s => Agreeing s) (Agreeing.move noEviction) start.sound
    (Agreeing.ofStart start)
  exact consistent_of_agrees agreeing.agrees

/-- A late failure is told while the request for other coordinates is on its way: the panel reloads
and goes on waiting. -/
def Sample.lateFailure : List Operation :=
  [.activate (spot 1), .activate (spot 2), .assign 0 none, .cancel 5,
   .fail "S" (spot 1).key ⟨.runtime, ["boom"]⟩, .drain]

theorem consistent_lateFailure :
    ((Sample.start .queued).performAll Sample.lateFailure).panel.state = .loading
      ∧ ((Sample.start .queued).performAll Sample.lateFailure).Consistent :=
  ⟨by decide +kernel,
    consistent_performAll (Sample.isStart_start .queued) (by simp [Sample.lateFailure])
      (by decide +kernel)⟩

end Session

end PcodePanel
