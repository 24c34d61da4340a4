import PcodePanel.Proofs.Session.Turn

/-!
# Loading twice

A load may leave other things to do than it found: what it had to ask for is waited for afterwards.
Still a second load adds nothing. It finds the same to do, and does it on top of what is there, or
it finds the request of the first one on its way, and the panel says so already. That holds in every
session, also where the load is refused: the second one is refused in the same place.

* `Session.plan_of_sameFocus`, `Session.plan_issue` — what there is to do after a load;
* `Panel.showEmulator_again` — what is shown again is shown as it was;
* `Session.load_again` — the main result.
-/

namespace PcodePanel

namespace Panel

variable {indent : Option Bool}

/-- A frame that is shown again under the same text is shown as it was, and fails where it
failed. -/
theorem showFrame_again (p : Panel) (label : Option String) (source : Source) (memory : Memory)
    (frame : Frame) :
    showFrame { (showFrame { p with label } indent source memory frame).1 with label } indent source
        memory frame
      = showFrame { p with label } indent source memory frame := by
  unfold showFrame
  cases listed : Listing.ofFrame source.language frame indent with
  | error fault => rfl
  | ok listing =>
      cases values : Unique.decodeAll (Unique.collect frame) memory source.language <;> rfl

/-- An emulator that is shown again, from where the text is cleared, is shown as it was. -/
theorem showEmulator_again (p : Panel) (memories : MemoryId → Memory) (emulator : Emulator)
    (path : String) (cleared : p.label = none) :
    showEmulator { (p.showEmulator indent memories emulator path).1 with label := none } indent
        memories emulator path
      = p.showEmulator indent memories emulator path := by
  cases found : emulator.thread? path with
  | none =>
      have missing : ∀ q : Panel, q.showEmulator indent memories emulator path
          = (q.showPlaceholder .notDecoded .notDecoded none, none) := by
        intro q
        simp only [showEmulator, found]
      rw [missing, missing, showPlaceholder, showPlaceholder, cleared]
  | some thread =>
      cases decoded : thread.frame with
      | none =>
          have undecoded : ∀ q : Panel, q.showEmulator indent memories emulator path
              = (showPlaceholder { q with label := thread.instruction } .notDecoded .notDecoded
                none, none) := by
            intro q
            simp only [showEmulator, found, decoded]
          rw [undecoded, undecoded]
          rfl
      | some frame =>
          have shows : ∀ q : Panel, q.showEmulator indent memories emulator path
              = showFrame { q with label := thread.instruction } indent
                ⟨emulator.language, thread.memory⟩ (memories thread.memory) frame := by
            intro q
            simp only [showEmulator, found, decoded]
          rw [shows p, shows]
          -- The text that was cleared is set again before the frame is shown again.
          exact showFrame_again p thread.instruction _ _ frame

end Panel

namespace Session

variable {s s' : Session} {service : ServiceId}

/-- A plan depends on what the panel follows and waits for, not on what it shows. -/
theorem plan_of_sameFocus (focus : s.panel.SameFocus s'.panel) (services : s'.services = s.services)
    (requests : s'.requests = s.requests) : s'.plan = s.plan := by
  have waiting : s'.isWaiting = s.isWaiting := by
    rw [isWaiting, isWaiting, focus.pending, focus.current, focus.generation, requests]
  rw [plan, plan, focus.service, focus.current, services, waiting]

/-- What has been asked for is waited for. -/
theorem plan_issue (plan : s.plan = .ask service) : (s.issue service).plan = .wait := by
  obtain ⟨live, askable, absent, _⟩ := plan_eq_ask plan
  have kept : ((s.issue service).services service).cached? (s.issue service).panel.current.key
      = none := by
    rw [(undisturbed_issue s service).cached]
    exact absent
  rw [plan_of_askable (s := s.issue service) live askable, kept]
  exact if_pos (isWaiting_issue s service)

/-- From where the text is cleared, an emulator that is shown again is shown as it was. -/
theorem showEmulator_again (s : Session) (emulator : Emulator) (cleared : s.panel.label = none) :
    (s.showEmulator emulator).1.clearLabel.showEmulator emulator = s.showEmulator emulator := by
  cases thread : s.panel.current.thread with
  | none =>
      have unfocused : s.showEmulator emulator = (s, none) := by rw [showEmulator, thread]
      have clear : s.clearLabel = s := by rw [clearLabel, ← cleared]
      rw [unfocused, clear, unfocused]
  | some path =>
      have shows : ∀ t : Session, t.panel.current.thread = some path →
          t.showEmulator emulator
            = ({ t with panel :=
                  (t.panel.showEmulator t.config.indent t.memory emulator path).1 },
                (t.panel.showEmulator t.config.indent t.memory emulator path).2) := by
        intro t focused
        rw [showEmulator, focused]
      let shown := s.panel.showEmulator s.config.indent s.memory emulator path
      have focus : s.panel.SameFocus shown.1 :=
        s.panel.sameFocus_showEmulator s.memory emulator path
      have again : Panel.showEmulator { shown.1 with label := none } s.config.indent s.memory
          emulator path = shown := Panel.showEmulator_again s.panel s.memory emulator path cleared
      rw [shows s thread, shows]
      · exact congrArg (fun shown : Panel × Option Fault =>
          (({ s with panel := shown.1 } : Session), shown.2)) again
      · exact (congrArg Coordinates.thread focus.current).trans thread

/-- A reload that asks is over with the first one: either the log refuses the event both times, or
the second reload finds the request on its way, and the panel says so already. -/
theorem reload_reload_of_ask (plan : s.plan = .ask service) : s.reload.1.reload = s.reload := by
  let shown := s.clearLabel.showPlaceholder .loading .loading none
  have same : shown.plan = .ask service :=
    (plan_of_sameFocus ⟨rfl, rfl, rfl, rfl, rfl⟩ rfl rfl).trans plan
  -- To show the placeholder once more changes nothing.
  have again : shown.clearLabel.showPlaceholder .loading .loading none = shown := rfl
  cases recorded : shown.record "request" "" with
  | error fault =>
      have refused : ∀ t : Session, t.plan = .ask service →
          t.clearLabel.showPlaceholder .loading .loading none = shown →
          t.reload = (shown, some fault) := by
        intro t plan shows
        simp only [reload, plan, follow, shows, recorded]
      rw [refused s plan rfl, refused shown same again]
  | ok t =>
      have asked : s.reload = (t.issue service, none) := by
        simp only [reload, plan, follow]
        rw [show s.clearLabel.showPlaceholder .loading .loading none = shown from rfl, recorded]
      obtain ⟨log, rfl⟩ := record_eq_ok recorded
      have waits : (({ shown with log } : Session).issue service).plan = .wait :=
        plan_issue ((plan_of_sameFocus ⟨rfl, rfl, rfl, rfl, rfl⟩ rfl rfl).trans same)
      rw [asked, reload, waits]
      rfl

/-- A reload is over with the first one. -/
theorem reload_reload (s : Session) : s.reload.1.reload = s.reload := by
  -- Where the first reload leaves the same to do, the second one does it on top of the first.
  have follows : ∀ {plan : Plan} {result : Session × Option Fault}, s.plan = plan →
      s.clearLabel.follow plan = result → result.1.plan = plan →
      result.1.clearLabel.follow plan = result → s.reload.1.reload = s.reload := by
    intro plan result before done after again
    have first : s.reload = result := by rw [reload, before, done]
    rw [first, reload, after, again]
  cases plan : s.plan with
  | nothing | placeholder | wait =>
      exact follows plan rfl ((plan_of_sameFocus ⟨rfl, rfl, rfl, rfl, rfl⟩ rfl rfl).trans plan) rfl
  | display emulator =>
      obtain ⟨panel, focus, shown⟩ := s.clearLabel.showEmulator_eq emulator
      refine follows plan rfl ?_ (s.clearLabel.showEmulator_again emulator rfl)
      show (s.clearLabel.showEmulator emulator).1.plan = _
      rw [shown, ← plan]
      exact plan_of_sameFocus
        ⟨focus.service, focus.current, focus.previous, focus.generation, focus.pending⟩ rfl rfl
  | ask service => exact reload_reload_of_ask plan

/-- **Loading twice is loading once.** A second load right after the first leaves everything as it
is, the log, the services, the requests and the queue included, and answers the same. -/
theorem load_again (s : Session) : (s.perform .load).1.perform .load = s.perform .load := by
  have once : ∀ t : Session, t.perform .load = answer t.reload fun t => .state t.panel.state :=
    fun _ => rfl
  rw [once s, once, answer_fst, reload_reload]

/-- The request is cancelled. The first load asks again, and a second one waits for that. -/
example :
    ((Sample.start .queued).performAll [.activate (Sample.spot 1), .cancel 0]).plan = .ask "S"
      ∧ ((Sample.start .queued).performAll
          [.activate (Sample.spot 1), .cancel 0, .load]).plan = .wait := by
  decide +kernel

end Session

end PcodePanel
