import Mathlib.Data.List.Forall2
import PcodePanel.Proofs.Session.Guise

/-!
# Stack levels

A panel carries the stack level of its coordinates along, and never looks at it. So two runs that
activate the same coordinates, but for the levels, come to the same: what is shown, logged, asked
for and kept, and what each operation answers. Only the levels that are carried along differ.

* `Operation.SameButLevel`, `Session.SameButLevels` — operations and sessions that differ in levels
  at most;
* `Session.grounded` — the guise in which all levels are zero, and in which such sessions are one;
* `Session.frame_performAll` — the level that the panel has after a run;
* `Session.sameButLevels_performAll` — the main result.
-/

namespace PcodePanel

namespace Operation

/-- The operations are the same, but for the stack level of coordinates that they activate. -/
inductive SameButLevel : Operation → Operation → Prop
  | activate {c c' : Coordinates} : c.sameAs c' = true → SameButLevel (activate c) (activate c')
  | same {operation : Operation} : SameButLevel operation operation

/-- The level of the coordinates that an operation hands to the panel. -/
def level? : Operation → Option Int
  | activate c => some c.frame
  | _ => none

end Operation

/-- The coordinates are the same, but for the stack level. -/
theorem Coordinates.sameAs_iff_ground {c c' : Coordinates} :
    c.sameAs c' = true ↔ { c with frame := 0 } = { c' with frame := 0 } := by
  rw [sameAs_iff, mk.injEq]
  simp

namespace Session

/-- The sessions are the same, but for the stack levels of the coordinates that the panel follows,
of those that it followed before, and of those that requests were issued for. -/
structure SameButLevels (s t : Session) : Prop where
  session : t = { s with panel := t.panel, requests := t.requests }
  panel : t.panel = { s.panel with current := t.panel.current, previous := t.panel.previous }
  current : s.panel.current.sameAs t.panel.current = true
  previous : s.panel.previous.sameAs t.panel.previous = true
  requests : List.Forall₂ (fun request request' : Request =>
    request' = { request with coordinates := request'.coordinates }
      ∧ request.coordinates.sameAs request'.coordinates = true) s.requests t.requests

/-! ## On the ground -/

/-- All stack levels are zero. -/
def grounded : Guise where
  level := fun _ => 0
  settings := id
  log := fun _ own => own
  indent_settings := fun _ => rfl
  log_record := fun _ _ _ => rfl

theorem grounded_admits (c : Coordinates) : grounded.Admits c :=
  .inr rfl

theorem grounded_operation {operation operation' : Operation}
    (same : operation.SameButLevel operation') :
    grounded.operation operation = grounded.operation operation' := by
  cases same with
  | activate same => exact congrArg Operation.activate (Coordinates.sameAs_iff_ground.mp same)
  | same => rfl

theorem grounded_operations {operations operations' : List Operation}
    (same : List.Forall₂ Operation.SameButLevel operations operations') :
    operations.map grounded.operation = operations'.map grounded.operation := by
  rw [← List.forall₂_eq_eq_eq, List.forall₂_map_left_iff, List.forall₂_map_right_iff]
  exact same.imp fun _ _ => grounded_operation

theorem sameRequest_of_grounded {request request' : Request}
    (same : grounded.request request = grounded.request request') :
    request' = { request with coordinates := request'.coordinates }
      ∧ request.coordinates.sameAs request'.coordinates = true := by
  obtain ⟨coordinates, generation, service, state⟩ := request
  obtain ⟨coordinates', generation', service', state'⟩ := request'
  obtain ⟨ground, rfl, rfl, rfl⟩ := (Request.mk.injEq ..).mp same
  exact ⟨rfl, Coordinates.sameAs_iff_ground.mpr ground⟩

/-- On the ground, sessions that differ only in levels are one. -/
theorem sameButLevels_of_grounded {s t : Session}
    (same : grounded.session [] s = grounded.session [] t) : SameButLevels s t := by
  obtain ⟨panel, config, delivery, manager, catalog, log, services, requests, queue, memories,
    handed, failures⟩ := s
  obtain ⟨panel', config', delivery', manager', catalog', log', services', requests', queue',
    memories', handed', failures'⟩ := t
  obtain ⟨panels, rfl, rfl, rfl, rfl, rfl, rfl, issued, rfl, rfl, rfl, rfl⟩ :=
    (Session.mk.injEq ..).mp same
  obtain ⟨service, current, previous, generation, state, rows, nextRow, uniques, label, source,
    pending⟩ := panel
  obtain ⟨service', current', previous', generation', state', rows', nextRow', uniques', label',
    source', pending'⟩ := panel'
  obtain ⟨rfl, currents, previouses, rfl, rfl, rfl, rfl, rfl, rfl, rfl, rfl⟩ :=
    (Panel.mk.injEq ..).mp panels
  refine ⟨rfl, rfl, Coordinates.sameAs_iff_ground.mpr currents,
    Coordinates.sameAs_iff_ground.mpr previouses, ?_⟩
  have each : requests.map grounded.request = requests'.map grounded.request := issued
  rw [← List.forall₂_eq_eq_eq, List.forall₂_map_left_iff, List.forall₂_map_right_iff] at each
  exact each.imp fun _ _ => sameRequest_of_grounded

/-! ## The level that is carried along -/

theorem frame_perform (s : Session) (operation : Operation) :
    (s.perform operation).1.panel.current.frame
      = operation.level?.getD s.panel.current.frame := by
  have kept : ∀ time : Option Schedule,
      ((time.bind s.reaches?).getD s.panel.current).frame = s.panel.current.frame := by
    intro time
    cases time with
    | none => rfl
    | some time =>
        rw [Option.bind_some]
        unfold reaches?
        split <;> rfl
  rw [current_perform]
  cases operation with
  | stepForward | stepBackward => exact kept _
  | activate | setService | load | assign | add | complete | fail | cancel | evict | provide
  | release | write | drain | clearLog => rfl

/-- After a run the panel has the level of the last coordinates that it was handed. -/
theorem frame_performAll (s : Session) (operations : List Operation) :
    (s.performAll operations).panel.current.frame
      = ((operations.filterMap Operation.level?).getLast?).getD s.panel.current.frame := by
  induction operations generalizing s with
  | nil => rfl
  | cons operation operations ih =>
      rw [performAll_cons, ih, frame_perform, List.filterMap_cons]
      cases operation.level? with
      | none => rfl
      | some level => rw [List.getLast?_cons]; rfl

/-- **Levels are not looked at.** Two runs of the same operations, but for the stack levels of the
coordinates that are activated, agree all along: their sessions are the same but for levels, and so
are the answers to all operations. At each moment the panel has the level of the last coordinates
that were activated, and to activate coordinates that differ in the level only takes this over and
does nothing else. -/
theorem sameButLevels_performAll (s : Session) {operations operations' : List Operation}
    (same : List.Forall₂ Operation.SameButLevel operations operations') (n : Nat) :
    SameButLevels (s.performAll (operations.take n)) (s.performAll (operations'.take n))
      ∧ s.replies operations = s.replies operations'
      ∧ (s.performAll (operations.take n)).panel.current.frame
        = (((operations.take n).filterMap Operation.level?).getLast?).getD s.panel.current.frame
      ∧ ∀ c, (s.performAll (operations.take n)).panel.current.sameAs c = true →
        (s.performAll (operations.take n)).perform (.activate c)
          = ({ s.performAll (operations.take n) with
              panel := { (s.performAll (operations.take n)).panel with current := c } },
            .ok .nothing) := by
  have onGround : ∀ operations : List Operation,
      (grounded.session [] s).performAll (operations.map grounded.operation)
          = grounded.session [] (s.performAll operations)
        ∧ (grounded.session [] s).replies (operations.map grounded.operation)
          = s.replies operations := by
    intro operations
    obtain ⟨run, replies⟩ := performAll_session (g := grounded) (s := s)
      (fun front _ => grounded_admits _) (.inr rfl)
    exact ⟨run.trans (session_of_keepsLog (g := grounded) rfl ..), replies⟩
  refine ⟨sameButLevels_of_grounded ?_, ?_, s.frame_performAll _, ?_⟩
  · rw [← (onGround _).1, ← (onGround _).1, grounded_operations (List.forall₂_take n same)]
  · rw [← (onGround _).2, ← (onGround operations').2, grounded_operations same]
  · intro c sameAs
    rw [perform, activate, if_pos sameAs]
    rfl

/-- The same ways, on different levels. -/
theorem sameButLevels_climbing :
    SameButLevels ((Sample.start .queued).performAll (Sample.climbing 0 3))
        ((Sample.start .queued).performAll (Sample.climbing 5 0))
      ∧ ((Sample.start .queued).performAll (Sample.climbing 0 3)).panel.current
        = { Sample.spot 3 with frame := 3 }
      ∧ ((Sample.start .queued).performAll (Sample.climbing 5 0)).panel.current = Sample.spot 3 := by
  have same : List.Forall₂ Operation.SameButLevel (Sample.climbing 0 3) (Sample.climbing 5 0) :=
    .cons (.activate rfl) (.cons (.activate rfl) (.cons .same (.cons .same (.cons .same .nil))))
  exact ⟨(sameButLevels_performAll (Sample.start .queued) same 5).1, by decide +kernel,
    by decide +kernel⟩

end Session

end PcodePanel
