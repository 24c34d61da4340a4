import PcodePanel.Proofs.Session.UpToDate

/-!
# Late results

A request that is not current any more is dropped, and the panel reloads. Where it is up to date
with an emulator that is still kept, the reload shows the same rows and the same values again. Only
the data types do not survive it: the temporaries are decoded anew, and nobody remembers what was
given to them.

* `Session.Dropped` — what dropping a late result does to a loaded panel;
* `Session.DropsLate` — every late result is dropped, however it is settled;
* `Session.dropped_of_late` — this holds where the panel is up to date, and so after every run that
  spares what is shown;
* `Session.uniques_change_late` — a run after which a late result takes a data type away.
-/

namespace PcodePanel

/-- A panel that is up to date and shows the emulator again shows the same, but for the data
types. -/
theorem Panel.UpToDate.showEmulator {indent : Option Bool} {memories : MemoryId → Memory}
    {emulator : Emulator} {thread : EmulatedThread} {frame : Frame} {path : String} {p : Panel}
    (h : p.UpToDate indent memories emulator thread frame)
    (focused : p.current.thread = some path) :
    ∃ fresh, Panel.showEmulator { p with label := none } indent memories emulator path
        = ({ p with state := .loaded, uniques := fresh }, none)
      ∧ List.Forall₂ (Unique.Entry.Untyped (memories thread.memory) emulator.language) p.uniques
        fresh := by
  obtain ⟨fresh, values⟩ := h.decodable
  obtain ⟨listing, listed, rows, nextRow⟩ := h.listed
  have found : emulator.thread? path = some thread := by
    have found := h.focused
    rw [focused] at found
    exact found
  refine ⟨fresh, ?_, Unique.untyped_of_decodeAll h.subjects h.entries values⟩
  simp only [Panel.showEmulator, Panel.showFrame, found, h.decoded, listed, values]
  rw [← rows, ← nextRow, ← h.label, ← h.source]

namespace Session

variable {id : RequestId} {request : Request} {emulator : Emulator} {thread : EmulatedThread}
  {frame : Frame} {s t : Session}

/-- Where the panel is up to date with what is kept, a reload takes the data types away and changes
nothing else. -/
theorem reload_of_upToDate
    (upToDate : s.panel.UpToDate s.config.indent s.memory emulator thread frame)
    (kept : s.plan = .display emulator) :
    ∃ fresh, s.reload
        = ({ s with panel := { s.panel with state := .loaded, uniques := fresh } }, none)
      ∧ List.Forall₂ (Unique.Entry.Untyped (s.memory thread.memory) emulator.language)
        s.panel.uniques fresh := by
  obtain ⟨_, _, ⟨_, focused, _⟩, _⟩ := plan_eq_display kept
  obtain ⟨path, focused⟩ := Option.ne_none_iff_exists'.mp focused
  obtain ⟨fresh, shows, untyped⟩ := upToDate.showEmulator focused
  refine ⟨fresh, ?_, untyped⟩
  have onPath : s.clearLabel.panel.current.thread = some path := focused
  rw [reload, kept]
  show s.clearLabel.showEmulator emulator = _
  rw [showEmulator, onPath]
  dsimp only
  rw [show s.clearLabel.panel.showEmulator s.clearLabel.config.indent s.clearLabel.memory emulator
    path = _ from shows]
  rfl

/-- What dropping a late result does to a loaded panel. It touches nothing but the temporaries,
which lose their data types, and what the panel waits for. If the log refuses the event, it does not
even come to that. -/
structure Dropped (memory : Memory) (language : Language) (before : Panel)
    (result : Session × Option Fault) : Prop where
  panel : result.1.panel
    = { before with pending := result.1.panel.pending, uniques := result.1.panel.uniques }
  untyped : result.2 = none →
    List.Forall₂ (Unique.Entry.Untyped memory language) before.uniques result.1.panel.uniques
  refused : result.2 ≠ none → result.1.panel.uniques = before.uniques

/-- What is not current when it is delivered is dropped. -/
theorem deliver_of_late (found : s.requests[id]? = some request)
    (late : request.isCurrent s.panel.current s.panel.generation = false) :
    s.deliver id = (s.forget id).dropStale request := by
  have same : (s.forget id).panel.current = s.panel.current
      ∧ (s.forget id).panel.generation = s.panel.generation := by
    rw [forget_eq]
    exact ⟨rfl, rfl⟩
  simp only [deliver, found, same, late]
  rfl

theorem dropped_of_dropStale (late : Request)
    (upToDate : s.panel.UpToDate s.config.indent s.memory emulator thread frame)
    (loaded : s.panel.state = .loaded) (kept : s.plan = .display emulator) :
    Dropped (s.memory thread.memory) emulator.language s.panel (s.dropStale late) := by
  unfold dropStale
  split
  · exact ⟨rfl, fun none => (by cases none), fun _ => rfl⟩
  · next recorded =>
    obtain ⟨log, rfl⟩ := record_eq_ok recorded
    obtain ⟨fresh, reloaded, untyped⟩ := reload_of_upToDate (s := setState { s with log } .stale)
      (upToDate.congr rfl rfl rfl rfl rfl rfl rfl) (plan_display_congr kept rfl rfl rfl)
    rw [reloaded]
    refine ⟨?_, fun _ => untyped, fun refused => absurd rfl refused⟩
    show { s.panel with state := .loaded, uniques := fresh } = { s.panel with uniques := fresh }
    rw [← loaded]

/-- Every request that is not current any more is dropped, whatever state it has been settled to. -/
def DropsLate (t : Session) (emulator : Emulator) (thread : EmulatedThread) : Prop :=
  ∀ id request (state : RequestState), t.requests[id]? = some request →
    Request.isCurrent { request with state } t.panel.current t.panel.generation = false →
    Dropped (t.memory thread.memory) emulator.language t.panel ((t.mark id state).deliver id)

theorem dropsLate_of_upToDate
    (upToDate : t.panel.UpToDate t.config.indent t.memory emulator thread frame)
    (loaded : t.panel.state = .loaded) (kept : t.plan = .display emulator) :
    t.DropsLate emulator thread := by
  intro id request state found late
  have marked : (t.mark id state).requests[id]? = some { request with state } := by
    rw [getElem?_mark, if_pos rfl, found]
    rfl
  rw [deliver_of_late marked late, forget_eq]
  -- To forget the request changes nothing that is shown.
  have dropped := dropped_of_dropStale { request with state }
    (s := { t.mark id state with
      panel := { t.panel with
        pending := if t.panel.pending = some id then none else t.panel.pending } })
    (upToDate.congr rfl rfl rfl rfl rfl rfl rfl) loaded (plan_display_congr kept rfl rfl rfl)
  exact ⟨dropped.panel, dropped.untyped, dropped.refused⟩

/-- **A late result is dropped.** A loaded panel that is up to date with the emulator that is kept
for its coordinates shows the same after it was told of a request that is not current any more,
however that was settled, but for the data types. After a smooth run that spares what is shown, a
loaded panel is up to date with some emulator; so late results are dropped if that one is kept. -/
theorem dropped_of_late :
    (∀ (t : Session) emulator thread frame,
      t.panel.UpToDate t.config.indent t.memory emulator thread frame →
      t.panel.state = .loaded → t.plan = .display emulator → t.DropsLate emulator thread)
    ∧ ∀ (s : Session) operations, s.IsStart → s.RunsSmoothly operations →
      s.SparesAll operations →
      let t := s.performAll operations
      t.panel.state = .loaded → ∃ emulator thread frame,
        t.panel.UpToDate t.config.indent t.memory emulator thread frame
          ∧ (t.plan = .display emulator → t.DropsLate emulator thread) := by
  refine ⟨fun _ _ _ _ => dropsLate_of_upToDate, ?_⟩
  intro s operations start smooth spares t loaded
  have faithful : Faithful t :=
    faithful_performAll (.ofStart start) start.sound start.idle smooth spares
  obtain ⟨emulator, thread, frame, upToDate⟩ := faithful loaded
  exact ⟨emulator, thread, frame, upToDate, dropsLate_of_upToDate upToDate loaded⟩

/-- A temporary is given a data type while the request for the coordinates that were left is still
on its way. -/
def Sample.typing : List Operation :=
  [.activate (spot 1), .activate (spot 2), .complete "S" (spot 2).key (Sample.emulator 1), .drain,
   .assign 1 (some (.integer "long" 8 true))]

def Sample.typed : Session :=
  (start .queued).performAll typing

theorem Sample.upToDate_typed :
    Sample.typed.panel.UpToDate Sample.typed.config.indent Sample.typed.memory (Sample.emulator 1)
      ⟨"main", some "ADD r0, 7", some (Sample.frame 1), 0⟩ (Sample.frame 1) :=
  { focused := by decide +kernel
    decoded := rfl
    listed := ⟨⟨Sample.typed.panel.rows, Sample.typed.panel.nextRow, 0⟩, by decide +kernel,
      by dsimp only, by dsimp only⟩
    label := by decide +kernel
    source := by decide +kernel
    subjects := by decide +kernel
    entries := by decide +kernel
    decodable := ⟨((Sample.typed.mark 0 .cancelled).deliver 0).1.panel.uniques,
      by decide +kernel⟩ }

/-- The request that was left may be cancelled; and the run is one that spares what is shown. -/
theorem dropped_of_late_typed :
    Dropped (Sample.typed.memory 0) Sample.language Sample.typed.panel
        ((Sample.typed.mark 0 .cancelled).deliver 0)
      ∧ ∃ emulator thread frame, Sample.typed.panel.UpToDate Sample.typed.config.indent
          Sample.typed.memory emulator thread frame
        ∧ (Sample.typed.plan = .display emulator → Sample.typed.DropsLate emulator thread) := by
  obtain ⟨here, always⟩ := dropped_of_late
  have loaded : Sample.typed.panel.state = .loaded := by decide +kernel
  have found : Sample.typed.requests[0]? = some ⟨Sample.spot 1, 1, "S", .outstanding⟩ := by
    decide +kernel
  have spares : (Sample.start .queued).SparesAll Sample.typing :=
    ⟨trivial, trivial, trivial, trivial, trivial, trivial⟩
  constructor
  · have kept : Sample.typed.plan = .display (Sample.emulator 1) := by decide +kernel
    exact here Sample.typed _ _ _ Sample.upToDate_typed loaded kept 0 _ .cancelled found
      (by decide +kernel)
  · have smooth : (Sample.start .queued).RunsSmoothly Sample.typing := by decide +kernel
    rw [Sample.typed] at loaded ⊢
    exact always _ Sample.typing (Sample.isStart_start .queued) smooth spares loaded

/-- What is shown does not stay as it was: the late result takes the data type away. -/
theorem uniques_change_late :
    (Sample.start .queued).RunsSmoothly Sample.typing
      ∧ Sample.typed.panel.state = .loaded
      ∧ Sample.typed.plan = .display (Sample.emulator 1)
      ∧ Sample.typed.memories = (Sample.start .queued).memories
      ∧ Sample.typed.requests[0]? = some ⟨Sample.spot 1, 1, "S", .outstanding⟩
      ∧ Sample.typed.panel.generation = 2
      ∧ ((Sample.typed.mark 0 (.finished (.emulated (Sample.emulator 0)))).deliver 0).2 = none
      ∧ ((Sample.typed.mark 0 (.finished (.emulated (Sample.emulator 0)))).deliver 0).1.panel.uniques
        ≠ Sample.typed.panel.uniques := by
  decide +kernel

end Session

end PcodePanel
