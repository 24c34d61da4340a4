import PcodePanel.Proofs.Session.Completing
import PcodePanel.Proofs.Session.Title
import PcodePanel.Proofs.Session.Wakeup

/-!
# Two routes to a display

An emulator can be kept by the service before the panel asks for it, so that it is shown at once, or
the panel asks first and is told later. Both routes end on the same display, whatever is in the
queue and whatever else is listed for the key: from the moment at which the emulator is kept, every
reload and every delivery shows what it comes to at the new coordinates.

* `Coordinates.planFor` — what there is to do where an emulator is kept;
* `Panel.Presents` — a panel that has done it;
* `Session.Furnished` — the invariant of both routes;
* `Session.sameView_of_add_of_complete` — the main result.
-/

namespace PcodePanel

/-- What there is to do for coordinates whose emulator is kept. -/
def Coordinates.planFor (c : Coordinates) (emulator : Emulator) : Plan :=
  if c.trace = none then .nothing
  else if c.thread = none then .placeholder .noThread .noThread
  else if c.time.pticks = 0 then .placeholder .notDecoded .notDecoded
  else .display emulator

/-- The panel shows what an emulator comes to at coordinates, and has the text that belongs to
that. -/
structure Panel.Presents (indent : Option Bool) (memories : MemoryId → Memory) (c : Coordinates)
    (emulator : Emulator) (panel : Panel) : Prop where
  shown : ShownBy indent memories c.thread (c.planFor emulator) panel
  label : panel.label = (c.planFor emulator).title c.thread

namespace Session

variable {service : ServiceId} {emulator : Emulator} {c : Coordinates} {id : RequestId}
  {held held' rest : List RequestId} {base s s' t : Session}

/-! ## What is kept decides the plan -/

theorem planFor_of_askable (askable : c.Askable) : c.planFor emulator = .display emulator := by
  obtain ⟨trace, thread, decoded⟩ := askable
  rw [Coordinates.planFor, if_neg trace, if_neg thread, if_neg decoded]

/-- Where an emulation can be asked for, nothing matters but what is kept; elsewhere not even
that. -/
theorem plan_eq_planFor (live : s.panel.service = some service)
    (kept : s.panel.current.Askable →
      (s.services service).cached? s.panel.current.key = some emulator) :
    s.plan = s.panel.current.planFor emulator := by
  by_cases askable : s.panel.current.Askable
  · rw [plan_of_askable live askable, kept askable, planFor_of_askable askable]
  · have notNone : s.panel.service ≠ none := by
      rw [live]
      exact nofun
    unfold Coordinates.planFor
    split
    · next trace => exact plan_eq_nothing_iff.mpr (.inr trace)
    · next trace =>
      split
      · next thread =>
        exact plan_eq_placeholder_iff.mpr ⟨notNone, trace, .inl ⟨thread, rfl, rfl⟩⟩
      · next thread =>
        split
        · next undecoded =>
          exact plan_eq_placeholder_iff.mpr ⟨notNone, trace, .inr ⟨thread, undecoded, rfl, rfl⟩⟩
        · next decoded => exact absurd ⟨trace, thread, decoded⟩ askable

theorem planFor_ne_wait : c.planFor emulator ≠ .wait := by
  unfold Coordinates.planFor
  split_ifs <;> exact nofun

/-- A reload over what is kept presents it. -/
theorem Reloaded.presents (reloaded : Reloaded s s')
    (plan : s.plan = s.panel.current.planFor emulator) :
    s'.panel.Presents s.config.indent s.memory s.panel.current emulator := by
  refine ⟨?_, ?_⟩
  · rw [← plan]
    refine reloaded.shownBy fun waits => ?_
    rw [plan] at waits
    exact absurd waits planFor_ne_wait
  · rw [← plan]
    exact reloaded.label

/-! ## A new focus -/

/-- After a new focus the panel waits for nothing, and no request is of its generation. -/
theorem Watched.focused (watched : Watched s) (log : Option EventLog) :
    (∀ {id : RequestId} {request : Request}, s.requests[id]? = some request →
        request.generation ≠ (s.focusOn c).panel.generation)
      ∧ (focusOn { s with log } c).isWaiting = false := by
  have older : ∀ {id : RequestId} {request : Request}, s.requests[id]? = some request →
      request.generation ≠ (s.focusOn c).panel.generation := by
    intro id request found same
    have le := watched.generation_le found
    have later : request.generation = s.panel.generation + 1 := same
    omega
  refine ⟨older, Bool.eq_false_iff.mpr fun waits => ?_⟩
  obtain ⟨id, request, _, found, current⟩ := isWaiting_iff.mp waits
  exact older found (isCurrent_iff.mp current).2.1

/-- A reload or a delivery cancels nothing. -/
theorem Undisturbed.stateOf_ne_cancelled (h : Undisturbed s s')
    (before : s.stateOf id ≠ some .cancelled) : s'.stateOf id ≠ some .cancelled := by
  intro cancelled
  obtain ⟨request, found, state⟩ := Option.map_eq_some_iff.mp cancelled
  have foundBefore := h.getElem?_of_settled found (by rw [state]; exact nofun)
  apply before
  rw [stateOf, foundBefore]
  exact congrArg some state

/-- What is listed afterwards was listed before, or is new. -/
theorem Undisturbed.listed_ne_cancelled (h : Undisturbed s s') {key : EmulationKey}
    (before : ∀ id ∈ (s.services service).waitingFor key, s.stateOf id ≠ some .cancelled) :
    ∀ id ∈ (s'.services service).waitingFor key, s'.stateOf id ≠ some .cancelled := by
  intro id listed
  apply h.stateOf_ne_cancelled
  obtain ⟨issued, lists, new⟩ := h.lists service key
  rw [lists] at listed
  rcases List.mem_append.mp listed with old | isNew
  · exact before id old
  · rw [stateOf, List.getElem?_eq_none (new id isNew)]
    exact (Option.some_ne_none _).symm

/-! ## The invariant of both routes -/

/-- An emulator is kept for what the panel follows, and requests of this generation come to nothing
else. Once nothing is left to deliver, the panel presents it. -/
structure Furnished (base : Session) (service : ServiceId) (emulator : Emulator)
    (held : List RequestId) (s : Session) : Prop where
  fixed : Fixed base s
  kept : (s.services service).cached? base.panel.current.key = some emulator
  /-- Nothing stops the service from finishing what it takes up. -/
  uncancelled : ∀ id,
    id ∈ held ∨ id ∈ (s.services service).waitingFor base.panel.current.key →
    s.stateOf id ≠ some .cancelled
  requests : ∀ {id : RequestId} {request}, s.requests[id]? = some request →
    request.generation = base.panel.generation →
    request.state = .outstanding ∨ request.state = .finished (.emulated emulator)
  label : s.panel.label = none ∨ s.panel.label
    = (base.panel.current.planFor emulator).title base.panel.current.thread
  presents : s.queue = [] → held = [] →
    s.panel.Presents base.config.indent base.memory base.panel.current emulator

theorem Settling.outcome_of_finishing {other : ServiceId} {key otherKey : EmulationKey}
    {outcome otherOutcome : Outcome}
    (ok : Settling service key outcome (.finishing other otherKey otherOutcome)) :
    otherOutcome = outcome := by
  rcases ok with same | same
  · cases otherOutcome <;> cases same
  · cases outcome <;> cases otherOutcome <;> cases same <;> rfl

namespace Furnished

section Live

variable (live : base.panel.service = some service)
include live

/-- The plan stays the same as long as the panel follows the same over the same services. -/
theorem plan_eq (h : Furnished base service emulator held s)
    (follows : t.panel.service = s.panel.service) (current : t.panel.current = s.panel.current)
    (services : t.services = s.services) : t.plan = t.panel.current.planFor emulator := by
  refine plan_eq_planFor (follows.trans (h.fixed.service.trans live)) fun _ => ?_
  rw [services, current, h.fixed.current]
  exact h.kept

/-- Whatever is delivered, the panel presents the emulator afterwards. -/
theorem presents_of_delivered (h : Furnished base service emulator held s) (watched : Watched s)
    (delivered : Delivered { s with queue := rest } id s') :
    s'.panel.Presents base.config.indent base.memory base.panel.current emulator := by
  rw [← h.fixed.config, ← h.fixed.memory, ← h.fixed.current]
  have outcome : ∀ {request}, s.requests[id]? = some request →
      request.isCurrent s.panel.current s.panel.generation = true →
      request.state = .outstanding ∨ request.state = .finished (.emulated emulator) := by
    intro request found current
    exact h.requests found ((isCurrent_iff.mp current).2.1.trans h.fixed.generation)
  cases delivered with
  | failed found current state =>
      rcases outcome found current with open_ | emulated
      · rw [state] at open_
        cases open_
      · rw [state] at emulated
        cases emulated
  | @applied request shownEmulator path panel log found current state focused shown =>
      obtain ⟨_, _, askable⟩ := watched.askable_of_isCurrent found current
      have same := (outcome found current).resolve_left (by rw [state]; exact nofun)
      rw [state] at same
      cases same
      have plan : s.panel.current.planFor emulator = .display emulator :=
        planFor_of_askable askable
      have title := h.label
      rw [← h.fixed.current, plan, focused] at title
      refine ⟨?_, ?_⟩
      · rw [plan]
        exact .display focused shown
      · rw [plan, focused]
        refine shown.label ?_
        rw [forget_eq]
        exact title
  | @stale _ log _ _ _ reloaded =>
      rw [forget_eq] at reloaded
      exact reloaded.presents (h.plan_eq live rfl rfl rfl)

theorem delivered (h : Furnished base service emulator held s) (watched : Watched s)
    (delivered : Delivered { s with queue := rest } id s') :
    Furnished base service emulator held s' := by
  have undisturbed := delivered.undisturbed
  have presents := h.presents_of_delivered live watched delivered
  refine ⟨undisturbed.fixed { h.fixed with }, ?_, ?_, ?_, .inr presents.label, fun _ _ => presents⟩
  · rw [undisturbed.cached]
    exact h.kept
  · rintro other (isHeld | listed)
    · exact undisturbed.stateOf_ne_cancelled (h.uncancelled other (.inl isHeld))
    · exact undisturbed.listed_ne_cancelled
        (fun other listed => h.uncancelled other (.inr listed)) other listed
  · intro other request found generation
    rcases undisturbed.request_cases found with found | ⟨_, outstanding⟩
    · exact h.requests found generation
    · exact .inl outstanding

theorem move (sound : Sound held s)
    (move : Move (Settling service base.panel.current.key (.emulated emulator))
      ⟨held, s⟩ ⟨held', s'⟩)
    (h : Furnished base service emulator held s) : Furnished base service emulator held' s' := by
  cases move with
  | aside attended | refresh attended | assign attended | load attended | focus attended
  | rewire attended => exact absurd attended Settling.unattended.not_attended
  | keep ok =>
      obtain ⟨rfl, rfl, same⟩ := Settling.of_keep ok
      cases same
      refine ⟨{ h.fixed with }, ?_, ?_, h.requests, h.label, h.presents⟩
      · rw [services_updateService, cached?_set_keep, if_pos ⟨rfl, rfl⟩]
      · rw [services_updateService, waitingFor_set_keep]
        exact h.uncancelled
  | evict ok => exact absurd ok Settling.unattended.not_evict
  | cancel ok => exact absurd ok Settling.unattended.not_cancel
  | takeUp ok =>
      obtain ⟨rfl, rfl⟩ := Settling.of_finishing ok
      refine ⟨{ h.fixed with }, ?_, ?_, h.requests, h.label, fun empty _ => h.presents empty rfl⟩
      · rw [services_updateService, cached?_set_takeUp]
        exact h.kept
      · -- What was listed is held now, and nothing is listed any more.
        rintro other (isHeld | listed)
        · exact h.uncancelled other (.inr isHeld)
        · rw [services_updateService, waitingFor_set_takeUp, if_pos ⟨rfl, rfl⟩] at listed
          exact absurd listed List.not_mem_nil
  | giveUp isHeld closed =>
      -- What is held is not finished, and it was not cancelled either.
      obtain ⟨request, found, notFinished, _⟩ := sound.filed.held_open isHeld
      have open_ := h.uncancelled _ (.inl isHeld)
      rw [stateOf, found] at closed open_
      cases state : request.state with
      | outstanding => exact absurd (congrArg some state) closed
      | cancelled => exact absurd (congrArg some state) open_
      | finished outcome => exact absurd ⟨outcome, state⟩ notFinished
  | @finish _ _ id outcome outstanding ok =>
      obtain ⟨request, found, _⟩ := Option.map_eq_some_iff.mp outstanding
      have same := Settling.outcome_of_finishing (ok request found).1
      subst same
      refine ⟨{ h.fixed with }, h.kept, ?_, ?_, h.label, ?_⟩
      · intro other tracked
        show ((s.mark id _).requests[other]?).map Request.state ≠ _
        rw [getElem?_mark]
        split
        · next same =>
          subst same
          rw [found]
          intro cancelled
          cases cancelled
        · exact h.uncancelled other (tracked.imp_left (List.mem_cons_of_mem _))
      · intro other request' found' generation
        rcases mark_cases found' with ⟨_, found'⟩ | ⟨_, _, _, rfl⟩
        · exact h.requests found' generation
        · exact .inr rfl
      · intro empty
        exact absurd empty (List.append_ne_nil_of_right_ne_nil _ (List.cons_ne_nil _ _))
  | deliver _ delivered => exact h.delivered live sound.watched delivered

end Live

/-- Right after the focus has moved to where an emulator is kept, it is shown. -/
theorem ofKept {log : Option EventLog} {k : Session} (sound : Sound [] t)
    (live : t.panel.service = some service)
    (uncancelled : ∀ id ∈ (t.services service).waitingFor c.key, t.stateOf id ≠ some .cancelled)
    (keeps : k = t.updateService service (Service.keep c.key (some emulator)))
    (reloaded : Reloaded (focusOn { k with log } c) s) :
    Furnished (t.focusOn c) service emulator [] s := by
  subst keeps
  have undisturbed := reloaded.undisturbed
  have kept : ((t.updateService service (Service.keep c.key (some emulator))).services
      service).cached? c.key = some emulator := by
    rw [services_updateService, cached?_set_keep, if_pos ⟨rfl, rfl⟩]
  have presents := reloaded.presents (plan_eq_planFor live fun _ => kept)
  refine ⟨undisturbed.fixed ⟨rfl, rfl, rfl, rfl, rfl, rfl⟩, ?_, ?_, ?_,
    .inr presents.label, fun _ _ => presents⟩
  · rw [undisturbed.cached]
    exact kept
  · rintro other (isHeld | listed)
    · exact absurd isHeld List.not_mem_nil
    · refine undisturbed.listed_ne_cancelled (fun old listed => ?_) other listed
      refine uncancelled old ?_
      rw [← waitingFor_set_keep t.services service service c.key c.key (some emulator)]
      exact listed
  · intro other request found generation
    rcases undisturbed.request_cases found with found | ⟨_, outstanding⟩
    · exact absurd generation ((sound.watched.focused none).1 found)
    · exact .inl outstanding

/-- Where the emulator is not kept, the panel asks if it can, and has no text. -/
theorem asked {log : Option EventLog} (sound : Sound [] t) (live : t.panel.service = some service)
    (absent : (t.services service).cached? c.key = none)
    (reloaded : Reloaded (focusOn { t with log } c) s) :
    s.panel.label = none ∧ (c.Askable → (s.services service).waitingFor c.key ≠ []) := by
  refine ⟨?_, fun askable => ?_⟩
  · rw [reloaded.label]
    cases plan : (focusOn { t with log } c).plan with
    | nothing | placeholder | wait | ask => rfl
    | display other =>
        obtain ⟨otherService, live', _, cached⟩ := plan_eq_display plan
        have sameService : t.panel.service = some otherService := live'
        have kept : (t.services otherService).cached? c.key = some other := cached
        rw [live] at sameService
        injection sameService with sameService
        rw [← sameService, absent] at kept
        cases kept
  · have absent' : ((focusOn { t with log } c).services service).cached?
        (focusOn { t with log } c).panel.current.key = none := absent
    have plan : (focusOn { t with log } c).plan = .ask service := by
      rw [plan_of_askable (s := focusOn { t with log } c) live askable, absent',
        (sound.watched.focused log).2]
      rfl
    cases reloaded with
    | nothing other | placeholder other | display other | wait other =>
        rw [plan] at other
        cases other
    | @ask asked log' other =>
        rw [plan] at other
        cases other
        -- The new request is listed last.
        show ((t.services.set service ((t.services service).accept c.key t.requests.length))
          service).waitingFor c.key ≠ []
        rw [waitingFor_set_accept t.services service service c.key c.key
          (sound.filed.manual service), if_pos ⟨rfl, rfl⟩]
        exact List.append_ne_nil_of_right_ne_nil _ (List.cons_ne_nil _ _)

/-- Where the panel has asked, and the service keeps the emulator and takes up what is listed. -/
theorem ofAsked {log : Option EventLog} {k : Session} (sound : Sound [] t)
    (live : t.panel.service = some service)
    (uncancelled : ∀ id ∈ (t.services service).waitingFor c.key, t.stateOf id ≠ some .cancelled)
    (absent : (t.services service).cached? c.key = none)
    (reloaded : Reloaded (focusOn { t with log } c) s)
    (keeps : k = s.updateService service (Service.keep c.key (some emulator))) :
    Furnished (t.focusOn c) service emulator ((k.services service).waitingFor c.key)
      (k.updateService service (Service.takeUp c.key)) := by
  subst keeps
  have undisturbed := reloaded.undisturbed
  obtain ⟨noLabel, lists⟩ := asked sound live absent reloaded
  have listed : ∀ id ∈ (s.services service).waitingFor c.key, s.stateOf id ≠ some .cancelled :=
    undisturbed.listed_ne_cancelled uncancelled
  have sameList := waitingFor_set_keep s.services service service c.key c.key (some emulator)
  have fixed : Fixed (t.focusOn c) s := undisturbed.fixed ⟨rfl, rfl, rfl, rfl, rfl, rfl⟩
  refine ⟨{ fixed with }, ?_, ?_, ?_, .inl noLabel, ?_⟩
  · rw [services_updateService, cached?_set_takeUp, services_updateService]
    exact (cached?_set_keep ..).trans (if_pos ⟨rfl, rfl⟩)
  · rintro other (isHeld | stillListed)
    · refine listed other ?_
      rw [← sameList]
      exact isHeld
    · have none := waitingFor_set_takeUp
        (s.updateService service (Service.keep c.key (some emulator))).services service service
        c.key c.key
      rw [if_pos ⟨rfl, rfl⟩] at none
      exact absurd (none ▸ stillListed) List.not_mem_nil
  · intro other request found generation
    rcases undisturbed.request_cases found with found | ⟨_, outstanding⟩
    · exact absurd generation ((sound.watched.focused none).1 found)
    · exact .inl outstanding
  · -- Nothing is held only where there was nothing to ask for.
    intro _ none
    have idle : ¬ c.Askable := fun askable => lists askable (sameList.symm.trans none)
    exact reloaded.presents (plan_eq_planFor live fun askable => absurd askable idle)

end Furnished

/-! ## Both routes -/

/-- Two sessions that present the same emulator after the same focus show the same. -/
theorem Furnished.sameView {a b : Session} (first : Furnished base service emulator [] a)
    (second : Furnished base service emulator [] b) (emptyFirst : a.queue = [])
    (emptySecond : b.queue = []) :
    a.panel.SameView b.panel ∧ a.panel.label = b.panel.label := by
  have presents := first.presents emptyFirst rfl
  have presents' := second.presents emptySecond rfl
  exact ⟨⟨presents.shown.sameDisplay presents'.shown,
    first.fixed.current.trans second.fixed.current.symm,
    first.fixed.previous.trans second.fixed.previous.symm,
    first.fixed.generation.trans second.fixed.generation.symm⟩,
    presents.label.trans presents'.label.symm⟩

/-- The emulator is kept, the panel moves on to it, and the queue is drained. -/
theorem furnished_of_add (sound : Sound [] t) (idle : t.Idle)
    (live : t.panel.service = some service)
    (uncancelled : ∀ id ∈ (t.services service).waitingFor c.key, t.stateOf id ≠ some .cancelled)
    (other : t.panel.current.sameAs c = false)
    (smooth : t.RunsSmoothly [.add service c.key emulator, .activate c, .drain]) :
    Furnished (t.focusOn c) service emulator []
        (t.performAll [.add service c.key emulator, .activate c, .drain])
      ∧ (t.performAll [.add service c.key emulator, .activate c, .drain]).queue = [] := by
  obtain ⟨_, activates, drains, _⟩ := smooth
  have first : RunsSmoothly t [.add service c.key emulator, .activate c] :=
    ⟨trivial, activates, trivial⟩
  have leads : Leads (fun _ => True) _ _ :=
    performAll_leads sound idle (fun _ _ => trivial) first
  obtain ⟨log, reloaded⟩ := reloaded_of_activate
    (s := t.updateService service (Service.keep c.key (some emulator))) other
    (answer_isOk activates)
  have activated := leads.moves.sound sound
  obtain ⟨drained, empty⟩ := drain_moves activated drains
  have furnished : Furnished (t.focusOn c) service emulator []
      (t.performAll [.add service c.key emulator, .activate c]) := by
    show Furnished _ _ _ _ (answer _ _).1
    rw [answer_fst]
    exact .ofKept sound live uncancelled rfl reloaded
  exact ⟨drained.keep (P := Furnished (t.focusOn c) service emulator) (Furnished.move live)
    activated furnished, empty⟩

/-- The panel moves on and asks, the service completes the key, and the queue is drained. -/
theorem furnished_of_complete (sound : Sound [] t) (idle : t.Idle)
    (live : t.panel.service = some service)
    (uncancelled : ∀ id ∈ (t.services service).waitingFor c.key, t.stateOf id ≠ some .cancelled)
    (other : t.panel.current.sameAs c = false)
    (absent : (t.services service).cached? c.key = none)
    (smooth : t.RunsSmoothly [.activate c, .complete service c.key emulator, .drain]) :
    Furnished (t.focusOn c) service emulator []
        (t.performAll [.activate c, .complete service c.key emulator, .drain])
      ∧ (t.performAll [.activate c, .complete service c.key emulator, .drain]).queue = [] := by
  obtain ⟨activates, completes, drains, _⟩ := smooth
  have leads : Leads (fun _ => True) _ _ := perform_leads trivial sound idle activates
  obtain ⟨log, reloaded⟩ := reloaded_of_activate other (answer_isOk activates)
  have reached : (t.perform (.activate c)).1 = (t.activate c).1 := answer_fst _ _
  rw [← reached] at reloaded
  have keeps : Move (Settling service c.key (.emulated emulator)) ⟨[], (t.perform (.activate c)).1⟩
      ⟨[], _⟩ := .keep (.inr (.inr rfl))
  have kept := (leads.moves.sound sound).move keeps
  obtain ⟨moves, empty⟩ := settling_moves kept leads.idle (offers_keep _ service c.key emulator)
    completes drains
  have takes : ∀ {k : Session}, Move (Settling service c.key (.emulated emulator)) ⟨[], k⟩
      ⟨(k.services service).waitingFor c.key, k.updateService service (Service.takeUp c.key)⟩ :=
    .takeUp (.inr rfl)
  have taken := kept.move takes
  exact ⟨moves.keep (P := Furnished (t.focusOn c) service emulator) (Furnished.move live) taken
    (.ofAsked sound live uncancelled absent reloaded rfl), empty⟩

/-- **The two routes agree.** After every smooth run over a service whose requests for a key were
not cancelled: to let it keep an emulator and then move on to coordinates of that key, and to move
on first and complete the key then, end on the same view, once the queue is drained. -/
theorem sameView_of_add_of_complete {operations : List Operation} (start : s.IsStart)
    (smooth : s.RunsSmoothly operations) (reached : s.performAll operations = t)
    (live : t.panel.service = some service)
    (uncancelled : ∀ id ∈ (t.services service).waitingFor c.key, t.stateOf id ≠ some .cancelled)
    (other : t.panel.current.sameAs c = false)
    (absent : (t.services service).cached? c.key = none)
    (adds : t.RunsSmoothly [.add service c.key emulator, .activate c, .drain])
    (completes : t.RunsSmoothly [.activate c, .complete service c.key emulator, .drain]) :
    (t.performAll [.add service c.key emulator, .activate c, .drain]).panel.SameView
        (t.performAll [.activate c, .complete service c.key emulator, .drain]).panel
      ∧ (t.performAll [.add service c.key emulator, .activate c, .drain]).panel.label
        = (t.performAll [.activate c, .complete service c.key emulator, .drain]).panel.label := by
  subst reached
  obtain ⟨moves, idle⟩ := start.leads smooth
  have sound := moves.sound start.sound
  obtain ⟨first, empty⟩ := furnished_of_add sound idle live uncancelled other adds
  obtain ⟨second, empty'⟩ :=
    furnished_of_complete sound idle live uncancelled other absent completes
  exact first.sameView second empty empty'

/-- Two requests for one key are on their way, and a late failure for other coordinates waits in the
queue. -/
def Sample.crossing : List Operation :=
  [.activate (spot 1), .activate (spot 2), .activate (spot 1), .activate (spot 3),
   .fail "S" (spot 3).key ⟨.runtime, ["boom"]⟩, .activate (spot 2)]

theorem sameView_crossing :
    (((Sample.start .queued).performAll Sample.crossing).performAll
          [.add "S" (Sample.spot 1).key (Sample.emulator 1), .activate (Sample.spot 1),
           .drain]).panel.SameView
        (((Sample.start .queued).performAll Sample.crossing).performAll
          [.activate (Sample.spot 1), .complete "S" (Sample.spot 1).key (Sample.emulator 1),
           .drain]).panel
      ∧ (((Sample.start .queued).performAll Sample.crossing).performAll
          [.add "S" (Sample.spot 1).key (Sample.emulator 1), .activate (Sample.spot 1),
           .drain]).panel.label
        = (((Sample.start .queued).performAll Sample.crossing).performAll
          [.activate (Sample.spot 1), .complete "S" (Sample.spot 1).key (Sample.emulator 1),
           .drain]).panel.label :=
  sameView_of_add_of_complete (Sample.isStart_start .queued) (by decide +kernel) rfl rfl
    (by decide +kernel) (by decide +kernel) rfl (by decide +kernel) (by decide +kernel)

end Session

end PcodePanel
