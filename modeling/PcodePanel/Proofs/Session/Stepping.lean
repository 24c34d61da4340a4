import PcodePanel.Proofs.Session.Guise

/-!
# Steps

A panel offers to step one operation forward or backward. Whether it does is a test of its own,
apart from the tests that the step makes. The two agree, except in front of the first operation of
an instruction: at a negative number of operations stepping backward is offered, and does nothing.
No step leads there, but coordinates can be activated there.

* `Panel.timeForward?_eq`, `Panel.timeBackward?_eq` — where a step leads;
* `Session.StepsTo` — what a step to a time comes to, with and without a manager;
* `Session.steps_where_offered` — the main result;
* `Session.backward_offered_idle` — a run after which a step is offered that does nothing;
* `Session.backward_offered_iff` — without negative numbers of operations, what is offered is done.
-/

namespace PcodePanel

namespace Panel

/-- A step forward leads somewhere where it is offered. -/
theorem timeForward?_eq (panel : Panel) :
    panel.timeForward? =
      if panel.canStepForward = true then some (panel.current.time.forward 1) else none := by
  unfold timeForward? canStepForward
  cases panel.current.thread <;> rfl

/-- A step backward leads somewhere where it is offered, but not in front of the first operation. -/
theorem timeBackward?_eq (panel : Panel) :
    panel.timeBackward? =
      if panel.canStepBackward = true ∧ 0 ≤ panel.current.time.pticks then
        some (panel.current.time.forward (-1))
      else none := by
  unfold timeBackward? canStepBackward
  cases panel.current.trace with
  | none => rfl
  | some trace =>
      simp only [Option.isNone_some, Bool.false_eq_true, if_false, Option.isSome_some, true_and,
        decide_eq_true_eq, Schedule.backward?]
      by_cases few : panel.current.time.pticks < 1
      · rw [if_pos few, if_neg (by omega)]
      · rw [if_neg few, if_pos (by omega)]
        rfl

end Panel

/-- A step leads to another time. -/
theorem Schedule.forward_ne (time : Schedule) {count : Int} (some : count ≠ 0) :
    time.forward count ≠ time := by
  intro same
  have pticks := congrArg Schedule.pticks same
  simp only [forward] at pticks
  omega

namespace Session

variable {s : Session} {time : Schedule}

/-! ## One step -/

/-- The session whose manager has been handed a time. -/
def hand (s : Session) (time : Schedule) : Session :=
  { s with handed := s.handed ++ [time] }

/-- The panel has left its coordinates for the same ones at another time, and no time was handed to
a manager for that. -/
structure Shifted (s : Session) (time : Schedule) (t : Session) : Prop where
  current : t.panel.current = s.panel.current.withTime time
  previous : t.panel.previous = s.panel.current
  generation : t.panel.generation = s.panel.generation + 1
  manager : t.manager = s.manager
  handed : t.handed = s.handed

/-- What follows on a new focus is no matter of a manager. -/
theorem managed_recordAndReload (s : Session) (name : String) :
    (s.recordAndReload name).1.manager = s.manager
      ∧ (s.recordAndReload name).1.handed = s.handed := by
  unfold recordAndReload
  split
  · exact ⟨rfl, rfl⟩
  · next recorded =>
    obtain ⟨log, rfl⟩ := record_eq_ok recorded
    rcases reload_cases { s with log } with ⟨panel, log', _, eq⟩ | ⟨service, panel, log', _, _, eq⟩
    · rw [eq]
      exact ⟨rfl, rfl⟩
    · rw [eq]
      exact ⟨rfl, rfl⟩

theorem activate_of_other (other : time ≠ s.panel.current.time) :
    s.activate (s.panel.current.withTime time)
      = (s.focusOn (s.panel.current.withTime time)).recordAndReload "activate" :=
  if_neg fun same => other (Coordinates.sameAs_iff.mp same).2.1.symm

/-- To activate another time shifts the panel, also where it cannot be loaded there. -/
theorem shifted_of_activate (other : time ≠ s.panel.current.time) :
    Shifted s time (s.activate (s.panel.current.withTime time)).1 := by
  rw [activate_of_other other]
  have h := (s.focusOn (s.panel.current.withTime time)).undisturbed_recordAndReload "activate"
  obtain ⟨manager, handed⟩ :=
    (s.focusOn (s.panel.current.withTime time)).managed_recordAndReload "activate"
  exact ⟨h.current, h.previous, h.generation, manager, handed⟩

/-- What a step to a time comes to. Where the coordinates are activated, the step fails if that
does. -/
inductive StepsTo (s : Session) (time : Schedule) : Session × Except Fault Reply → Prop
  /-- The manager keeps the time, and the panel stays where it is. -/
  | handed : s.manager = some .record → StepsTo s time (s.hand time, .ok (.time (some time)))
  /-- Without a manager the panel goes there by itself. -/
  | activated {t : Session} {reply : Except Fault Reply} : s.manager = none →
      s.perform (.activate (s.panel.current.withTime time)) = (t, reply) → Shifted s time t →
      StepsTo s time (t, reply.map fun _ => .time (some time))
  /-- The manager makes the panel go there. -/
  | applied {t : Session} {reply : Except Fault Reply} : s.manager = some .apply →
      (s.hand time).perform (.activate (s.panel.current.withTime time)) = (t, reply) →
      Shifted (s.hand time) time t → StepsTo s time (t, reply.map fun _ => .time (some time))

/-- The reply to a step is that to the activation, but for the time. -/
theorem answer_time (result : Session × Option Fault) (time : Schedule) :
    answer result (fun _ => .time (some time))
      = ((answer result fun _ => .nothing).1,
          (answer result fun _ => .nothing).2.map fun _ => .time (some time)) := by
  obtain ⟨t, fault⟩ := result
  cases fault <;> rfl

theorem stepsTo_stepTo (other : time ≠ s.panel.current.time) :
    StepsTo s time (s.stepTo (some time)) := by
  have shifts : ∀ a : Session, a.panel.current = s.panel.current →
      Shifted a time (a.perform (.activate (s.panel.current.withTime time))).1 := by
    intro a current
    rw [perform, answer_fst, ← current]
    exact shifted_of_activate (by rw [current]; exact other)
  rw [stepTo]
  unfold activateTime
  split
  · next manager =>
    rw [answer_time]
    exact .activated manager rfl (shifts s rfl)
  · next manager => exact .handed manager
  · next manager =>
    rw [answer_time]
    exact .applied manager rfl (shifts (s.hand time) rfl)

theorem StepsTo.ne_none {result : Session × Except Fault Reply} (steps : StepsTo s time result) :
    result.2 ≠ .ok (.time none) := by
  cases steps with
  | handed => exact nofun
  | @activated t reply | @applied t reply => cases reply <;> exact nofun

/-- A step is taken where it is offered, and there only: elsewhere it answers that there is no time,
and does nothing. -/
structure StepsWhere (s : Session) (offered : Prop) (time : Schedule)
    (result : Session × Except Fault Reply) : Prop where
  answers : offered ↔ result.2 ≠ .ok (.time none)
  taken : offered → StepsTo s time result
  idle : ¬ offered → result = (s, .ok (.time none))

theorem stepsWhere_stepTo {offered : Prop} [Decidable offered]
    (other : time ≠ s.panel.current.time) :
    StepsWhere s offered time (s.stepTo (if offered then some time else none)) := by
  by_cases holds : offered
  · rw [if_pos holds]
    have steps := stepsTo_stepTo other
    exact ⟨⟨fun _ => steps.ne_none, fun _ => holds⟩, fun _ => steps, fun no => absurd holds no⟩
  · rw [if_neg holds]
    exact ⟨⟨fun yes => absurd yes holds, fun some => absurd rfl some⟩,
      fun yes => absurd yes holds, fun _ => rfl⟩

theorem stepsWhere_forward (s : Session) :
    StepsWhere s (s.panel.canStepForward = true) (s.panel.current.time.forward 1)
      (s.perform .stepForward) := by
  show StepsWhere s _ _ (s.stepTo s.panel.timeForward?)
  rw [Panel.timeForward?_eq]
  exact stepsWhere_stepTo (Schedule.forward_ne _ (by decide))

theorem stepsWhere_backward (s : Session) :
    StepsWhere s (s.panel.canStepBackward = true ∧ 0 ≤ s.panel.current.time.pticks)
      (s.panel.current.time.forward (-1)) (s.perform .stepBackward) := by
  show StepsWhere s _ _ (s.stepTo s.panel.timeBackward?)
  rw [Panel.timeBackward?_eq]
  exact stepsWhere_stepTo (Schedule.forward_ne _ (by decide))

/-- **Steps are taken where they are offered.** In every session: a step forward is taken where it
is offered, and a step backward where it is offered and the number of operations is not negative. It
leads one operation on or back. Other steps do nothing. -/
theorem steps_where_offered (s : Session) :
    StepsWhere s (s.panel.canStepForward = true) (s.panel.current.time.forward 1)
        (s.perform .stepForward)
      ∧ StepsWhere s (s.panel.canStepBackward = true ∧ 0 ≤ s.panel.current.time.pticks)
        (s.panel.current.time.forward (-1)) (s.perform .stepBackward) :=
  ⟨s.stepsWhere_forward, s.stepsWhere_backward⟩

/-- The time can be read from a text, and nothing fails on the way there. Stepping backward is
offered, and does nothing. -/
theorem backward_offered_idle :
    Schedule.parse "0:3.-1" = .ok (Sample.spot (-1)).time
      ∧ (Sample.start .queued).RunsSmoothly [.activate (Sample.spot (-1))]
      ∧ ((Sample.start .queued).performAll
          [.activate (Sample.spot (-1))]).panel.canStepBackward = true
      ∧ (((Sample.start .queued).performAll
          [.activate (Sample.spot (-1))]).perform .stepBackward).2 = .ok (.time none) := by
  decide +kernel

/-! ## Runs -/

/-- No step leads in front of the first operation. -/
theorem pticks_nonneg_perform {operation : Operation}
    (named : ∀ c, operation = .activate c → 0 ≤ c.time.pticks)
    (before : 0 ≤ s.panel.current.time.pticks) :
    0 ≤ (s.perform operation).1.panel.current.time.pticks := by
  have reached : ∀ {time : Schedule} {c : Coordinates}, s.reaches? time = some c →
      0 ≤ time.pticks → 0 ≤ c.time.pticks := by
    intro time c reaches nonneg
    unfold reaches? at reaches
    split at reaches
    · cases reaches
    · cases reaches
      exact nonneg
  rw [current_perform]
  cases activates : s.activates? operation with
  | none => exact before
  | some c =>
      cases operation with
      | activate =>
          cases activates
          exact named _ rfl
      | stepForward =>
          obtain ⟨time, leads, reaches⟩ := Option.bind_eq_some_iff.mp activates
          rw [Panel.timeForward?_eq] at leads
          split at leads
          · cases leads
            refine reached reaches ?_
            simp only [Schedule.forward]
            omega
          · cases leads
      | stepBackward =>
          obtain ⟨time, leads, reaches⟩ := Option.bind_eq_some_iff.mp activates
          rw [Panel.timeBackward?, Schedule.backward?] at leads
          split at leads
          · cases leads
          · split at leads
            · cases leads
            · cases leads
              refine reached reaches ?_
              dsimp only
              omega
      | setService | load | assign | add | complete | fail | cancel | evict | provide | release
      | write | drain | clearLog => cases activates

theorem pticks_nonneg_performAll {operations : List Operation}
    (named : ∀ c, .activate c ∈ operations → 0 ≤ c.time.pticks)
    (before : 0 ≤ s.panel.current.time.pticks) :
    0 ≤ (s.performAll operations).panel.current.time.pticks := by
  induction operations generalizing s with
  | nil => exact before
  | cons operation operations ih =>
      refine ih (fun c listed => named c (List.mem_cons_of_mem _ listed)) ?_
      refine pticks_nonneg_perform (fun c eq => named c ?_) before
      rw [← eq]
      exact List.mem_cons_self

/-- Where no coordinates in front of a first operation are activated, stepping backward is offered
exactly where it is done. -/
theorem backward_offered_iff {operations : List Operation} (start : s.IsStart)
    (named : ∀ c, .activate c ∈ operations → 0 ≤ c.time.pticks) :
    (s.performAll operations).panel.canStepBackward = true
      ↔ ((s.performAll operations).perform .stepBackward).2 ≠ .ok (.time none) := by
  have first : 0 ≤ s.panel.current.time.pticks := by
    obtain ⟨config, service, delivery, manager, catalog, log, memories, rfl⟩ := start.eq
    exact Int.le_refl 0
  have nonneg := pticks_nonneg_performAll named first
  rw [← (stepsWhere_backward _).answers]
  exact ⟨fun offered => ⟨offered, nonneg⟩, fun offered => offered.1⟩

end Session

end PcodePanel
