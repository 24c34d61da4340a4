import PcodePanel.Proofs.Session.Completing

/-!
# The order of completions

Over a queue it does not matter in which order the keys that are asked for are completed, nor when
the queue is drained meanwhile: at the end the panel shows the same.

* `Session.TakenUp` — what was listed for a key at the start is listed no longer;
* `Session.Completes.shownBy` — what the panel shows at the end;
* `Session.sameDisplay_of_completes` — the main result.
-/

namespace PcodePanel

namespace Session

variable {emulators : ServiceId → EmulationKey → Emulator} {id : RequestId}
  {held held' : List RequestId} {base s s' : Session}
  {operations order order₁ order₂ : List Operation}

/-- What was listed in `base` for a key has been taken up. -/
structure TakenUp (base : Session) (service : ServiceId) (key : EmulationKey) (s : Session) :
    Prop where
  grown : base.requests.length ≤ s.requests.length
  listed : ∀ id ∈ (s.services service).waitingFor key, base.requests.length ≤ id

namespace TakenUp

variable {service : ServiceId} {key : EmulationKey}

theorem undisturbed (h : TakenUp base service key s) (undisturbed : Undisturbed s s') :
    TakenUp base service key s' := by
  obtain ⟨issued, requests, _⟩ := undisturbed.requests
  obtain ⟨added, lists, new⟩ := undisturbed.lists service key
  refine ⟨?_, ?_⟩
  · rw [requests, List.length_append]
    exact Nat.le_add_right_of_le h.grown
  · intro id listed
    rw [lists] at listed
    rcases List.mem_append.mp listed with before | after
    · exact h.listed id before
    · exact Nat.le_trans h.grown (new id after)

theorem move {allowed : Operation → Prop} (move : Move allowed ⟨held, s⟩ ⟨held', s'⟩)
    (h : TakenUp base service key s) : TakenUp base service key s' := by
  cases move with
  | aside | refresh | assign | giveUp => exact ⟨h.grown, h.listed⟩
  | keep | evict =>
      refine ⟨h.grown, ?_⟩
      rw [services_updateService, waitingFor_set_keep]
      exact h.listed
  | takeUp =>
      refine ⟨h.grown, ?_⟩
      rw [services_updateService, waitingFor_set_takeUp]
      split
      · exact List.forall_mem_nil _
      · exact h.listed
  | finish | cancel =>
      refine ⟨?_, h.listed⟩
      show _ ≤ (s.mark _ _).requests.length
      rw [mark, List.length_modify]
      exact h.grown
  | load _ reloaded => exact h.undisturbed reloaded.undisturbed
  | focus _ _ reloaded | rewire _ reloaded =>
      refine TakenUp.undisturbed ?_ reloaded.undisturbed
      exact ⟨h.grown, h.listed⟩
  | deliver _ delivered =>
      refine TakenUp.undisturbed ?_ delivered.undisturbed
      exact ⟨h.grown, h.listed⟩

end TakenUp

theorem Ready.leads (ready : base.Ready)
    (only : ∀ operation ∈ order, base.Completing emulators operation)
    (smooth : base.RunsSmoothly order) :
    Leads (base.Completing emulators) ⟨[], base⟩ ⟨[], base.performAll order⟩ := by
  refine performAll_leads ready.sound ?_ only smooth
  intro atOnce
  rw [ready.queued] at atOnce
  cases atOnce

theorem Progress.ofMoves (ready : base.Ready) (asked : ∃ service key, base.Lists service key)
    (moves : Moves (base.Completing emulators) ⟨[], base⟩ ⟨held, s⟩) :
    Progress base emulators held s := by
  have both := moves.keep (P := fun held s => Agreeing s ∧ Progress base emulators held s)
    (fun sound move ⟨agreeing, progress⟩ =>
      ⟨agreeing.move (fun _ _ => Completing.unattended.not_evict) sound move,
        progress.move ready sound agreeing.awaiting move⟩)
    ready.sound ⟨ready.agreeing, .ofBase asked ready⟩
  exact both.2

/-- Once a key has been completed all that was listed for it has been taken up. -/
theorem takenUp_of_complete {service : ServiceId} {key : EmulationKey} (ready : base.Ready)
    (asked : ∃ service key, base.Lists service key)
    (only : ∀ operation ∈ order, base.Completing emulators operation)
    (smooth : base.RunsSmoothly order)
    (completed : .complete service key (emulators service key) ∈ order) :
    TakenUp base service key (base.performAll order) := by
  obtain ⟨front, back, rfl⟩ := List.append_of_mem completed
  rw [runsSmoothly_append] at smooth
  obtain ⟨smoothFront, smoothComplete, smoothBack⟩ := smooth
  have ok : base.Completing emulators
      (.finishing service key (.emulated (emulators service key))) := only _ completed
  have before := ready.leads (fun operation listed => only _ (List.mem_append_left _ listed))
    smoothFront
  have progress := Progress.ofMoves ready asked before.moves
  have sound := before.moves.sound ready.sound
  rw [performAll_append, performAll_cons]
  generalize base.performAll front = s at *
  -- From where the service has taken up the requests for the key.
  have kept : Move (base.Completing emulators) ⟨[], s⟩
      ⟨[], s.updateService service (Service.keep key (some (emulators service key)))⟩ :=
    .keep (.inr ok)
  have completes := finishTaken_leads ok (sound.move kept) before.idle
    (offers_keep s service key (emulators service key)) smoothComplete
  have soundTaken := (sound.move kept).move (.takeUp ok)
  have after := performAll_leads (completes.moves.sound soundTaken) completes.idle
    (fun operation listed => only _ (List.mem_append_right _ (List.mem_cons_of_mem _ listed)))
    smoothBack
  refine Moves.keep (P := fun _ s => TakenUp base service key s) (fun _ move => TakenUp.move move)
    (completes.moves.trans after.moves) soundTaken ⟨progress.grown, ?_⟩
  intro id listed
  rw [services_updateService, waitingFor_set_takeUp, if_pos ⟨rfl, rfl⟩] at listed
  exact absurd listed List.not_mem_nil

/-- When everything has been taken up and the queue is empty, nothing fresh is left. -/
theorem Progress.done (ready : base.Ready) (h : Progress base emulators [] s)
    (empty : s.queue = [])
    (takenUp : ∀ service key, base.Lists service key → TakenUp base service key s) :
    Done base emulators s := by
  refine h.phase.resolve_left ?_
  rintro ⟨id, fresh, outstanding | queued⟩
  · obtain ⟨request, found, _, lists⟩ := ready.fresh fresh
    obtain ⟨request', found', service, coordinates⟩ := h.stays found
    rw [stateOf, found'] at outstanding
    rcases h.outstanding fresh found' (Option.some.inj outstanding) with listed | isHeld
    · rw [peers, service, coordinates] at listed
      have beyond := (takenUp _ _ lists).listed id listed
      exact absurd (ready.fresh_lt fresh) (Nat.not_lt.mpr beyond)
    · exact absurd isHeld List.not_mem_nil
  · rw [empty] at queued
    exact absurd queued List.not_mem_nil

/-- What is shown at the end does not depend on the order. -/
theorem Completes.shownBy (ready : base.Ready) (asked : ∃ service key, base.Lists service key)
    (completes : base.Completes emulators order)
    (smooth : base.RunsSmoothly (order ++ [.drain])) :
    Fixed base (base.performAll (order ++ [.drain]))
      ∧ Panel.ShownBy base.config.indent base.memory base.panel.current.thread
        (base.due emulators) (base.performAll (order ++ [.drain])).panel := by
  obtain ⟨only, all⟩ := completes
  rw [runsSmoothly_append] at smooth
  obtain ⟨smoothOrder, smoothDrain, _⟩ := smooth
  have leads := ready.leads only smoothOrder
  obtain ⟨moves, empty⟩ : Moves (base.Completing emulators) ⟨[], base.performAll order⟩ _ ∧ _ :=
    drain_moves (leads.moves.sound ready.sound) smoothDrain
  rw [performAll_append, performAll_cons]
  show Fixed base ((base.performAll order).perform .drain).1 ∧ _
  have progress := Progress.ofMoves ready asked (leads.moves.trans moves)
  refine ⟨progress.fixed, (progress.done ready empty ?_).shown⟩
  intro service key lists
  have takenUp := takenUp_of_complete ready asked only smoothOrder (all service key lists)
  exact moves.keep (P := fun _ s => TakenUp base service key s) (fun _ move => TakenUp.move move)
    (leads.moves.sound ready.sound) takenUp

/-- Where nothing was cancelled, to complete the keys of all outstanding requests is to complete all
that are listed. -/
theorem Completes.ofOutstanding (filed : Filed [] base.services base.requests)
    (tracked : Tracked [] base)
    (only : ∀ operation ∈ order, operation = .drain ∨ ∃ request ∈ base.requests,
      request.state = .outstanding ∧ operation = .completion emulators request)
    (all : ∀ request ∈ base.requests, request.state = .outstanding →
      .completion emulators request ∈ order) : base.Completes emulators order := by
  refine ⟨?_, ?_⟩
  · intro operation listed
    refine (only operation listed).imp_right ?_
    rintro ⟨request, issued, outstanding, rfl⟩
    obtain ⟨id, found⟩ := List.mem_iff_getElem?.mp issued
    exact ⟨_, _, (lists_iff filed tracked).mpr ⟨id, request, found, outstanding, rfl, rfl⟩, rfl⟩
  · intro service key lists
    obtain ⟨id, request, found, outstanding, rfl, rfl⟩ := (lists_iff filed tracked).mp lists
    exact all request (List.mem_of_getElem? found) outstanding

/-- **The order of completions does not matter.** After a smooth run over a queue in which no
service drops an emulator, let requests be listed of which none has been cancelled. In whatever
order their keys are completed, and wherever the queue is drained meanwhile, in the end the panel
shows the same and follows the same. -/
theorem sameDisplay_of_completes (start : s.IsStart)
    (noEviction : ∀ service key, .evict service key ∉ operations)
    (smooth : s.RunsSmoothly operations) (queued : s.delivery = .queued)
    (reached : s.performAll operations = base) (asked : ∃ service key, base.Lists service key)
    (uncancelled : ∀ id, base.Fresh id → base.stateOf id ≠ some .cancelled)
    (first : base.Completes emulators order₁) (second : base.Completes emulators order₂)
    (smooth₁ : base.RunsSmoothly (order₁ ++ [.drain]))
    (smooth₂ : base.RunsSmoothly (order₂ ++ [.drain])) :
    (base.performAll (order₁ ++ [.drain])).panel.SameView
      (base.performAll (order₂ ++ [.drain])).panel := by
  have moves := (start.leads smooth).moves
  have agreeing := moves.keep (P := fun _ s => Agreeing s) (Agreeing.move noEviction) start.sound
    (Agreeing.ofStart start)
  rw [reached] at moves agreeing
  have ready : base.Ready :=
    ⟨moves.sound start.sound, agreeing, moves.settings.2.trans queued, uncancelled⟩
  obtain ⟨fixed₁, shown₁⟩ := first.shownBy ready asked smooth₁
  obtain ⟨fixed₂, shown₂⟩ := second.shownBy ready asked smooth₂
  exact ⟨shown₁.sameDisplay shown₂, fixed₁.current.trans fixed₂.current.symm,
    fixed₁.previous.trans fixed₂.previous.symm, fixed₁.generation.trans fixed₂.generation.symm⟩

/-- Two instructions are asked for in turn, and a failure has not been told yet. -/
def Sample.interleaved : List Operation :=
  [.activate (spot 3), .activate (spot 1), .activate (spot 2), .activate (spot 1),
   .fail "S" (spot 3).key ⟨.runtime, ["boom"]⟩]

/-- Each key with an emulator of its own. -/
def Sample.results (_ : ServiceId) (key : EmulationKey) : Emulator :=
  emulator (key.time.pticks - 1)

/-- The key that is shown is completed first, before anything has been told. -/
def Sample.shownFirst : List Operation :=
  [.complete "S" (spot 1).key (emulator 0), .complete "S" (spot 2).key (emulator 1)]

/-- The key that is shown is completed last, after everything else has been told. -/
def Sample.shownLast : List Operation :=
  [.drain, .complete "S" (spot 2).key (emulator 1), .drain, .complete "S" (spot 1).key (emulator 0)]

theorem sameDisplay_of_completes_interleaved :
    ∃ t, (Sample.start .queued).performAll Sample.interleaved = t
      ∧ t.panel.state = .loading ∧ t.queue = [0]
      ∧ (t.performAll (Sample.shownFirst ++ [.drain])).panel.state = .loaded
      ∧ (t.performAll (Sample.shownFirst ++ [.drain])).panel.SameView
        (t.performAll (Sample.shownLast ++ [.drain])).panel := by
  have start := Sample.isStart_start .queued
  have smooth : (Sample.start .queued).RunsSmoothly Sample.interleaved := by decide +kernel
  have moves := (start.leads smooth).moves
  have filed := (moves.sound start.sound).filed
  have noCancellation : ∀ id, .cancel id ∉ Sample.interleaved := by simp [Sample.interleaved]
  have tracked := (moves.keep (P := Waiting) (Waiting.move noCancellation) start.sound
    (.ofStart start)).tracked
  refine ⟨_, rfl, by decide +kernel, by decide +kernel, by decide +kernel, ?_⟩
  have first : Completes _ Sample.results Sample.shownFirst :=
    .ofOutstanding filed tracked (by decide +kernel) (by decide +kernel)
  have second : Completes _ Sample.results Sample.shownLast :=
    .ofOutstanding filed tracked (by decide +kernel) (by decide +kernel)
  refine sameDisplay_of_completes start (by simp [Sample.interleaved]) smooth rfl rfl ?_ ?_ first
    second (by decide +kernel) (by decide +kernel)
  · exact ⟨"S", (Sample.spot 1).key, by decide +kernel⟩
  · intro id _ cancelled
    obtain ⟨request, found, state⟩ := Option.map_eq_some_iff.mp cancelled
    exact tracked.not_cancelled found state

end Session

end PcodePanel
