import PcodePanel.Proofs.Session.Stepping
import PcodePanel.Proofs.Session.Late
import PcodePanel.Proofs.Session.Logging
import PcodePanel.Proofs.Session.Title
import PcodePanel.Proofs.Session.Torn

/-!
# There and back

A step forward and a step backward are two activations, each with a load of its own. The panel comes
back to where it was, two generations later, whatever happened at the time between. What it then
shows is what a load would have shown in the first place, if there is an emulator to be shown or
nothing is decoded: then neither of the two has anything to ask or to wait for.

* `Session.SameScene` — what the display is made from is the same in two sessions;
* `Session.SameScene.reload` — so is the display, if what is to be shown is known;
* `Session.Returned`, `Session.returned_of_steps` — the main result;
* `Session.display_not_returned` — where a load fails, or an event, the display may be another one.
-/

namespace PcodePanel

namespace Panel

variable {indent : Option Bool} {memories : MemoryId → Memory}

/-- Whether a frame can be shown does not depend on the panel. -/
theorem fault_showFrame (p q : Panel) (source : Source) (memory : Memory) (frame : Frame) :
    (p.showFrame indent source memory frame).2 = (q.showFrame indent source memory frame).2 := by
  unfold showFrame
  cases Listing.ofFrame source.language frame indent with
  | error fault => rfl
  | ok listing =>
      dsimp only
      cases Unique.decodeAll (Unique.collect frame) memory source.language <;> rfl

theorem fault_showEmulator (p q : Panel) (emulator : Emulator) (path : String) :
    (p.showEmulator indent memories emulator path).2
      = (q.showEmulator indent memories emulator path).2 := by
  unfold showEmulator
  cases emulator.thread? path with
  | none => rfl
  | some thread =>
      dsimp only
      cases thread.frame with
      | none => rfl
      | some frame => exact fault_showFrame _ _ _ _ _

end Panel

/-- The coordinates are determined by what they are at another time, and the time. -/
theorem Coordinates.withTime_withTime (c : Coordinates) (time : Schedule) :
    (c.withTime time).withTime c.time = c := rfl

namespace Session

variable {a b s : Session}

/-! ## What the display is made from -/

/-- The panels are focused on the same, and the same emulators and memories are there. -/
structure SameScene (a b : Session) : Prop where
  config : b.config = a.config
  memories : b.memories = a.memories
  service : b.panel.service = a.panel.service
  current : b.panel.current = a.panel.current
  cached : ∀ service, (b.services service).cached? = (a.services service).cached?

theorem SameScene.trans {c : Session} (first : SameScene a b) (second : SameScene b c) :
    SameScene a c :=
  ⟨second.config.trans first.config, second.memories.trans first.memories,
    second.service.trans first.service, second.current.trans first.current,
    fun service => (second.cached service).trans (first.cached service)⟩

theorem Undisturbed.sameScene (h : Undisturbed a b) : SameScene a b :=
  ⟨h.config, h.memories, h.service, h.current, h.cached⟩

/-- What is to be shown is known: nothing is decoded, or the live service keeps an emulator. -/
def Known (s : Session) : Prop :=
  s.panel.current.time.pticks = 0
    ∨ ∃ service emulator, s.panel.service = some service
      ∧ (s.services service).cached? s.panel.current.key = some emulator

/-- What is known is not missed anywhere. -/
theorem Known.not_absent (known : s.Known) {service : ServiceId}
    (live : s.panel.service = some service) (askable : s.panel.current.Askable) :
    (s.services service).cached? s.panel.current.key ≠ none := by
  rcases known with undecoded | ⟨service', emulator, live', kept⟩
  · exact absurd undecoded askable.2.2
  · rw [live] at live'
    cases live'
    rw [kept]
    exact Option.some_ne_none _

theorem Known.plan_ne_wait (known : s.Known) : s.plan ≠ .wait := by
  intro plan
  obtain ⟨service, live, askable, absent, _⟩ := plan_eq_wait plan
  exact known.not_absent live askable absent

theorem Known.plan_ne_ask (known : s.Known) (service : ServiceId) : s.plan ≠ .ask service := by
  intro plan
  obtain ⟨live, askable, absent, _⟩ := plan_eq_ask plan
  exact known.not_absent live askable absent

namespace SameScene

variable (scene : SameScene a b)
include scene

theorem known (known : a.Known) : b.Known := by
  unfold Known
  rw [scene.service, scene.current]
  refine known.imp_right ?_
  rintro ⟨service, emulator, live, kept⟩
  refine ⟨service, emulator, live, ?_⟩
  rw [scene.cached]
  exact kept

/-- What the panels wait for makes no difference where they need not wait. -/
theorem plan (known : a.Known) : b.plan = a.plan := by
  unfold Session.plan
  rw [scene.service, scene.current]
  split
  · next service _ live _ =>
    split
    · rfl
    · split
      · rfl
      · next decoded =>
        rcases known with undecoded | ⟨service', emulator, live', kept⟩
        · exact absurd undecoded decoded
        · rw [live] at live'
          cases live'
          rw [scene.cached, kept]
  · rfl

theorem memory : b.memory = a.memory := by
  funext id
  rw [Session.memory, Session.memory, scene.memories]

theorem fault_showEmulator (emulator : Emulator) :
    (b.showEmulator emulator).2 = (a.showEmulator emulator).2 := by
  unfold showEmulator
  rw [scene.current]
  split
  · rfl
  · dsimp only
    rw [scene.config, scene.memory]
    exact Panel.fault_showEmulator _ _ _ _

theorem fault_reload (known : a.Known) : b.reload.2 = a.reload.2 := by
  unfold Session.reload
  rw [scene.plan known]
  cases plan : a.plan with
  | nothing | placeholder | wait => rfl
  | display emulator =>
      have cleared : SameScene a.clearLabel b.clearLabel :=
        ⟨scene.config, scene.memories, scene.service, scene.current, scene.cached⟩
      exact cleared.fault_showEmulator emulator
  | ask service => exact absurd plan (known.plan_ne_ask service)

/-- Where a reload shows what is known, it shows the same in both sessions. -/
theorem reload (known : a.Known) (done : a.reload.2 = none) :
    b.reload.2 = none ∧ b.reload.1.panel.SameDisplay a.reload.1.panel
      ∧ b.reload.1.panel.label = a.reload.1.panel.label := by
  have done' : b.reload.2 = none := (scene.fault_reload known).trans done
  have first : Reloaded a a.reload.1 := reloaded_of_reload (Prod.ext rfl done)
  have second : Reloaded b b.reload.1 := reloaded_of_reload (Prod.ext rfl done')
  refine ⟨done', ?_, ?_⟩
  · have shown := first.shownBy fun waits => absurd waits known.plan_ne_wait
    have shown' := second.shownBy fun waits => absurd waits (scene.known known).plan_ne_wait
    rw [scene.plan known, scene.current, scene.config, scene.memory] at shown'
    exact shown'.sameDisplay shown
  · rw [first.label, second.label, scene.plan known, scene.current]

end SameScene

/-! ## What is logged on the way -/

/-- Events can be logged at the current coordinates, or are not logged at all. -/
def Writable (s : Session) : Prop :=
  s.log = none ∨ s.panel.current.Legible

theorem record_of_unlogged (unlogged : s.log = none) (name detail : String) :
    s.record name detail = .ok s := by
  unfold record
  rw [unlogged]

theorem Writable.record (writable : s.Writable) (name detail : String) :
    ∃ log, s.record name detail = .ok { s with log } := by
  rcases writable with none | legible
  · exact ⟨s.log, record_of_unlogged none name detail⟩
  · exact ⟨_, record_of_legible legible name detail⟩

theorem unlogged_reload (unlogged : s.log = none) : s.reload.1.log = none := by
  unfold reload
  cases s.plan with
  | nothing | placeholder | wait => exact unlogged
  | display emulator =>
      obtain ⟨panel, _, eq⟩ := s.clearLabel.showEmulator_eq emulator
      show (s.clearLabel.showEmulator emulator).1.log = none
      rw [eq]
      exact unlogged
  | ask service =>
      have recorded : (s.clearLabel.showPlaceholder .loading .loading none).record "request" ""
          = .ok (s.clearLabel.showPlaceholder .loading .loading none) :=
        record_of_unlogged (s := s.clearLabel.showPlaceholder .loading .loading none) unlogged _ _
      simp only [follow, recorded]
      exact unlogged

theorem unlogged_recordAndReload (unlogged : s.log = none) (name : String) :
    (s.recordAndReload name).1.log = none := by
  rw [recordAndReload, record_of_unlogged unlogged]
  exact unlogged_reload unlogged

namespace SameScene

variable (scene : SameScene a b)
include scene

theorem writable (unlogged : a.log = none → b.log = none) (writable : a.Writable) : b.Writable :=
  writable.imp unlogged fun legible => by
    rw [scene.current]
    exact legible

variable (known : a.Known) (writable : b.Writable) (done : a.reload.2 = none)
include known writable done

/-- An event that is logged before makes no difference. -/
theorem recordAndReload (name : String) :
    (b.recordAndReload name).2 = none
      ∧ (b.recordAndReload name).1.panel.SameDisplay a.reload.1.panel
      ∧ (b.recordAndReload name).1.panel.label = a.reload.1.panel.label := by
  obtain ⟨log, recorded⟩ := writable.record name ""
  have logged : SameScene a { b with log } :=
    ⟨scene.config, scene.memories, scene.service, scene.current, scene.cached⟩
  rw [Session.recordAndReload, recorded]
  exact logged.reload known done

/-- Nor does a late result that is dropped. -/
theorem dropStale (id : RequestId) (request : Request) :
    ((b.forget id).dropStale request).1.panel.SameDisplay a.reload.1.panel := by
  obtain ⟨pending, eq⟩ : ∃ pending, b.forget id = { b with panel := { b.panel with pending } } :=
    ⟨_, forget_eq b id⟩
  have writable' : Writable { b with panel := { b.panel with pending } } := writable
  obtain ⟨log, recorded⟩ :=
    writable'.record "stale" ("generation " ++ Numeral.decimal request.generation)
  have stale : SameScene a
      (setState { b with panel := { b.panel with pending }, log } .stale) :=
    ⟨scene.config, scene.memories, scene.service, scene.current, scene.cached⟩
  rw [eq, Session.dropStale, recorded]
  exact (stale.reload known done).2.1

end SameScene

/-! ## The way back -/

/-- The session after a step forward and a step backward, with the answer to the latter. -/
def thereAndBack (s : Session) : Session × Except Fault Reply :=
  (s.perform .stepForward).1.perform .stepBackward

/-- The panel is back where it was. -/
structure Returned (s : Session) (result : Session × Except Fault Reply) : Prop where
  current : result.1.panel.current = s.panel.current
  previous : result.1.panel.previous
    = s.panel.current.withTime (s.panel.current.time.forward 1)
  generation : result.1.panel.generation = s.panel.generation + 2
  /-- What is known is shown again. -/
  shows : s.Known → s.Writable → (s.perform .load).2.isOk = true →
    result.2 = .ok (.time (some s.panel.current.time))
      ∧ result.1.panel.SameDisplay (s.perform .load).1.panel
      ∧ result.1.panel.label = (s.perform .load).1.panel.label
  /-- It is shown again, too, when the panel is told of a request for the time between. -/
  undisturbed : s.Known → s.Writable → (s.perform .load).2.isOk = true →
    ∀ {id : RequestId} {request : Request}, result.1.requests[id]? = some request →
      request.coordinates.time = s.panel.current.time.forward 1 →
      (result.1.deliver id).1.panel.SameDisplay (s.perform .load).1.panel
  /-- As long as the panel stays there, no request for the time between is taken over. -/
  dropped : ∀ {later : Session} {id : RequestId} {request : Request},
    later.requests[id]? = some request →
    request.coordinates.time = s.panel.current.time.forward 1 →
    later.panel.current.sameAs s.panel.current = true →
    later.deliver id = (later.forget id).dropStale request

theorem answer_of_done {result : Session × Option Fault} {reply : Session → Reply}
    (done : result.2 = none) : answer result reply = (result.1, .ok (reply result.1)) := by
  obtain ⟨s, fault⟩ := result
  cases done
  rfl

/-- Without a manager a step activates the coordinates at its time. -/
theorem stepTo_of_unmanaged (unmanaged : s.manager = none) (time : Schedule) :
    s.stepTo (some time)
      = answer (s.activate (s.panel.current.withTime time)) fun _ => .time (some time) := by
  rw [stepTo]
  unfold activateTime
  rw [unmanaged]

/-- The session on its way back: the panel is focused on where it was, and has yet to load that. -/
structure Homeward (s home : Session) : Prop where
  scene : SameScene s home
  previous : home.panel.previous = s.panel.current.withTime (s.panel.current.time.forward 1)
  generation : home.panel.generation = s.panel.generation + 2
  unlogged : s.log = none → home.log = none

section Way

variable (unmanaged : s.manager = none) (trace : s.panel.current.trace ≠ none)
  (thread : s.panel.current.thread ≠ none) (begun : 0 ≤ s.panel.current.time.pticks)
include unmanaged thread

theorem stepForward_of_unmanaged :
    (s.perform .stepForward).1
      = (s.activate (s.panel.current.withTime (s.panel.current.time.forward 1))).1 := by
  have offered : s.panel.canStepForward = true := Option.isSome_iff_ne_none.mpr thread
  show (s.stepTo s.panel.timeForward?).1 = _
  rw [Panel.timeForward?_eq, if_pos offered, stepTo_of_unmanaged unmanaged, answer_fst]

theorem shifted_of_stepForward :
    Shifted s (s.panel.current.time.forward 1) (s.perform .stepForward).1 := by
  rw [stepForward_of_unmanaged unmanaged thread]
  exact shifted_of_activate (Schedule.forward_ne _ (by decide))

theorem homeward_of_stepForward :
    Homeward s ((s.perform .stepForward).1.focusOn s.panel.current) := by
  have shifted := shifted_of_stepForward unmanaged thread
  have reloads : (s.perform .stepForward).1
      = ((s.focusOn (s.panel.current.withTime (s.panel.current.time.forward 1))).recordAndReload
          "activate").1 := by
    rw [stepForward_of_unmanaged unmanaged thread,
      activate_of_other (Schedule.forward_ne _ (by decide))]
  have between := (s.focusOn (s.panel.current.withTime
    (s.panel.current.time.forward 1))).undisturbed_recordAndReload "activate"
  rw [← reloads] at between
  refine ⟨⟨between.config, between.memories, between.service, rfl, between.cached⟩,
    shifted.current, ?_, ?_⟩
  · show (s.perform .stepForward).1.panel.generation + 1 = _
    rw [shifted.generation, Int.add_assoc]
    rfl
  · intro none
    show (s.perform .stepForward).1.log = _
    rw [reloads]
    exact unlogged_recordAndReload (s := s.focusOn _) none _

include trace begun

/-- The way back is the activation of the coordinates from which the way began. -/
theorem thereAndBack_eq :
    s.thereAndBack
      = answer (((s.perform .stepForward).1.focusOn s.panel.current).recordAndReload "activate")
        fun _ => .time (some s.panel.current.time) := by
  have shifted := shifted_of_stepForward unmanaged thread
  have current := shifted.current
  have offered : (s.perform .stepForward).1.panel.canStepBackward = true
      ∧ 0 ≤ (s.perform .stepForward).1.panel.current.time.pticks := by
    rw [Panel.canStepBackward, current]
    simp only [Coordinates.withTime, Schedule.forward]
    exact ⟨decide_eq_true ⟨Option.isSome_iff_ne_none.mpr trace, by omega⟩, by omega⟩
  have back : (s.perform .stepForward).1.panel.current.time.forward (-1)
      = s.panel.current.time := by
    rw [current]
    simp only [Coordinates.withTime, Schedule.forward, Int.add_neg_cancel_right]
  have home : (s.perform .stepForward).1.panel.current.withTime s.panel.current.time
      = s.panel.current := by
    rw [current, Coordinates.withTime_withTime]
  have other : s.panel.current.time ≠ (s.perform .stepForward).1.panel.current.time := by
    rw [current]
    exact (Schedule.forward_ne _ (by decide)).symm
  show (s.perform .stepForward).1.stepTo (s.perform .stepForward).1.panel.timeBackward? = _
  rw [Panel.timeBackward?_eq, if_pos offered, back,
    stepTo_of_unmanaged (shifted.manager.trans unmanaged), activate_of_other other, home]

end Way

/-- A request for the time between is not current where the panel is back. -/
theorem not_current_between {later : Session} {request : Request}
    (between : request.coordinates.time = s.panel.current.time.forward 1)
    (back : later.panel.current.sameAs s.panel.current = true) :
    request.isCurrent later.panel.current later.panel.generation = false := by
  rw [Bool.eq_false_iff]
  intro current
  obtain ⟨_, _, there⟩ := isCurrent_iff.mp current
  have same := (Coordinates.sameAs_iff.mp (Coordinates.sameAs_trans there back)).2.1
  rw [between] at same
  exact Schedule.forward_ne _ (by decide) same

/-- **There and back.** In every session without a manager: after a step forward and a step backward
the panel is where it was, also if one of the two fails. If what is to be shown is known, events can
be logged and a load would not fail, it shows what a load would have shown, whatever there is for
the time between; and it goes on doing so. -/
theorem returned_of_steps (unmanaged : s.manager = none) (trace : s.panel.current.trace ≠ none)
    (thread : s.panel.current.thread ≠ none) (begun : 0 ≤ s.panel.current.time.pticks) :
    Returned s s.thereAndBack := by
  have back := thereAndBack_eq unmanaged trace thread begun
  have homeward := homeward_of_stepForward unmanaged thread
  -- How the way back began makes no difference from here.
  generalize (s.perform .stepForward).1.focusOn s.panel.current = home at back homeward
  have fst : s.thereAndBack.1 = (home.recordAndReload "activate").1 := by rw [back, answer_fst]
  have loads : (s.perform .load).1 = s.reload.1 := by rw [perform, answer_fst]
  have arrived := home.undisturbed_recordAndReload "activate"
  rw [← fst] at arrived
  have scene : SameScene s s.thereAndBack.1 := homeward.scene.trans arrived.sameScene
  refine ⟨scene.current, arrived.previous.trans homeward.previous,
    arrived.generation.trans homeward.generation, ?_, ?_, ?_⟩
  · intro known writable loaded
    obtain ⟨done, display, label⟩ := homeward.scene.recordAndReload known
      (homeward.scene.writable homeward.unlogged writable) (answer_isOk loaded) "activate"
    rw [fst, loads]
    refine ⟨?_, display, label⟩
    rw [back, answer_of_done done]
  · intro known writable loaded id request found between
    have here : s.thereAndBack.1.panel.current.sameAs s.panel.current = true := by
      rw [scene.current]
      exact Coordinates.sameAs_self _
    have writable' : s.thereAndBack.1.Writable := by
      refine scene.writable (fun none => ?_) writable
      rw [fst]
      exact unlogged_recordAndReload (homeward.unlogged none) _
    rw [deliver_of_late found (not_current_between between here), loads]
    exact scene.dropStale known writable' (answer_isOk loaded) id request
  · intro later id request found between here
    exact deliver_of_late found (not_current_between between here)

/-- An instruction is on display, and nothing is known about the operation behind it. -/
def Sample.kept : Session :=
  (start .queued).performAll
    [.add "S" (spot 1).key (Sample.emulator 1), .activate { spot 1 with frame := 2 }]

/-- The request for the time between is settled after the way back. -/
theorem returned_of_steps_kept :
    Returned Sample.kept Sample.kept.thereAndBack
      ∧ (Sample.kept.thereAndBack.1.deliver 0).1.panel.SameDisplay
        (Sample.kept.perform .load).1.panel
      ∧ (Sample.kept.perform .load).2 = .ok (.state .loaded) := by
  have returned : Returned Sample.kept Sample.kept.thereAndBack :=
    returned_of_steps (by decide +kernel) (by decide +kernel) (by decide +kernel)
      (by decide +kernel)
  have known : Sample.kept.Known :=
    .inr ⟨"S", Sample.emulator 1, by decide +kernel, by decide +kernel⟩
  have unlogged : Sample.kept.log = none := Option.isNone_iff_eq_none.mp (by decide +kernel)
  have asked : Sample.kept.thereAndBack.1.requests[0]? = some ⟨{ Sample.spot 2 with frame := 2 }, 2,
      "S", .outstanding⟩ := by
    decide +kernel
  exact ⟨returned, returned.undisturbed known (.inl unlogged) (by decide +kernel) asked
    (by decide +kernel), by decide +kernel⟩

/-- An emulator that cannot be listed has come for the operation that the panel waits for, and
another one for the next operation. -/
def Sample.untold : Session :=
  (start .queued).performAll
    [.activate (spot 1), .add "S" (spot 1).key unlistable, .add "S" (spot 2).key (Sample.emulator 1)]

/-- A time is too long to be logged. -/
def Sample.unwritten : Session :=
  (logged { trace := true }).performAll
    [.add "S" beyond.key (Sample.emulator 1), .activate beyond]

/-- The display does not always come back. Where a load fails the panel keeps what it finds, and
that is then the instruction at the time between; and where an event is refused, the steps load
nothing, but a load does. -/
theorem display_not_returned :
    ((Sample.untold.services "S").cached? (Sample.spot 1).key = some Sample.unlistable
        ∧ Sample.untold.thereAndBack.1.panel.current = Sample.untold.panel.current
        ∧ (Sample.untold.perform .load).1.panel.state = .loading
        ∧ Sample.untold.thereAndBack.1.panel.state = .loaded
        ∧ Sample.untold.thereAndBack.1.panel.rows ≠ (Sample.untold.perform .load).1.panel.rows)
      ∧ (Sample.unwritten.services "S").cached? Sample.beyond.key = some (Sample.emulator 1)
      ∧ Sample.unwritten.panel.current = Sample.beyond
      ∧ (Sample.unwritten.perform .load).2 = .ok (.state .loaded)
      ∧ Sample.unwritten.thereAndBack.1.panel.state = .noCoordinates := by
  decide +kernel

end Session

end PcodePanel
