import PcodePanel.Proofs.Session.Move

/-!
# Only live results are displayed

Whatever was activated, changed, completed, cancelled and drained before: a panel that is loaded
shows an emulator that the service that is set now was handed for the current trace and time.

* `Session.Handed` — an operation handed an emulator to a service;
* `Panel.Displays` — what a panel shows of an emulator;
* `Session.Supplied` — what services keep and requests came to was handed to them, an invariant;
* `Session.displays_handed` — the main result.
-/

namespace PcodePanel

/-- What is shown is a thread of the emulator: the listing of its frame, the temporaries that the
frame touches, and the text of its instruction. -/
def Panel.Displays (panel : Panel) (indent : Option Bool) (emulator : Emulator) : Prop :=
  ∃ path thread frame listing, panel.current.thread = some path
    ∧ emulator.thread? path = some thread ∧ thread.frame = some frame
    ∧ Listing.ofFrame emulator.language frame indent = .ok listing
    ∧ panel.rows = listing.rows ∧ panel.nextRow = listing.nextRow
    ∧ panel.uniques.map Unique.Entry.subject = (Unique.collect frame).map Unique.Entry.subject
    ∧ panel.label = thread.instruction

/-- Emulators are shown as they are: a panel that has come to be loaded displays the emulator. -/
theorem Panel.Shown.displays {indent : Option Bool} {memories : MemoryId → Memory}
    {emulator : Emulator} {path : String} {p p' : Panel} (current : p.current.thread = some path)
    (shown : Shown indent memories emulator path p p') (loaded : p'.state = .loaded) :
    p'.Displays indent emulator := by
  cases shown with
  | missing | undecoded => cases loaded
  | @decoded thread frame listing uniques found frameEq listed values =>
      exact ⟨path, thread, frame, listing, current, found, frameEq, listed, rfl, rfl,
        Unique.subjects_decodeAll values, rfl⟩

namespace Session

/-- An emulator was handed to a service under a key. -/
def Handed (operations : List Operation) (service : ServiceId) (key : EmulationKey)
    (emulator : Emulator) : Prop :=
  .add service key emulator ∈ operations ∨ .complete service key emulator ∈ operations

variable {operations : List Operation} {held held' : List RequestId} {s s' : Session}

/-- What the services keep was handed to them, and so was what requests came to. -/
structure Supplied (operations : List Operation) (s : Session) : Prop where
  kept : ∀ {service key emulator}, (s.services service).cached? key = some emulator →
    Handed operations service key emulator
  finished : ∀ {id : RequestId} {request emulator}, s.requests[id]? = some request →
    request.state = .finished (.emulated emulator) →
    Handed operations request.service request.coordinates.key emulator

namespace Supplied

theorem undisturbed (h : Supplied operations s) (undisturbed : Undisturbed s s') :
    Supplied operations s' := by
  refine ⟨?_, ?_⟩
  · intro service key emulator cached
    rw [undisturbed.cached] at cached
    exact h.kept cached
  · intro id request emulator found state
    have before := undisturbed.getElem?_of_settled found (by rw [state]; exact nofun)
    exact h.finished before state

theorem congr (h : Supplied operations s) (services : s'.services = s.services)
    (requests : s'.requests = s.requests) : Supplied operations s' := by
  refine ⟨?_, ?_⟩
  · rw [services]
    exact h.kept
  · rw [requests]
    exact h.finished

/-- Another emulator is kept, if it was handed over, or one is dropped. -/
theorem keep (h : Supplied operations s) {service : ServiceId} {key : EmulationKey}
    {emulator : Option Emulator}
    (handed : ∀ new, emulator = some new → Handed operations service key new) :
    Supplied operations (s.updateService service (Service.keep key emulator)) := by
  refine ⟨?_, h.finished⟩
  intro other otherKey kept cached
  rw [services_updateService, cached?_set_keep] at cached
  split at cached
  · next here =>
    rw [here.1, here.2]
    exact handed kept cached
  · exact h.kept cached

theorem takeUp (h : Supplied operations s) {service : ServiceId} {key : EmulationKey} :
    Supplied operations (s.updateService service (Service.takeUp key)) := by
  refine ⟨?_, h.finished⟩
  intro other otherKey kept cached
  rw [services_updateService, cached?_set_takeUp] at cached
  exact h.kept cached

/-- A request is settled: with what was handed over for its key, or with no emulator. -/
theorem mark (h : Supplied operations s) {id : RequestId} {state : RequestState}
    (handed : ∀ request emulator, s.requests[id]? = some request →
      state = .finished (.emulated emulator) →
      Handed operations request.service request.coordinates.key emulator) :
    Supplied operations (s.mark id state) := by
  refine ⟨h.kept, ?_⟩
  intro other request emulator found finished
  rcases mark_cases found with ⟨_, found⟩ | ⟨rfl, before, foundBefore, rfl⟩
  · exact h.finished found finished
  · exact handed before emulator foundBefore finished

end Supplied

/-- What is shown was handed to the service that is set now, for the current key. -/
structure Live (operations : List Operation) (s : Session) : Prop where
  supplied : Supplied operations s
  displayed : s.panel.state = .loaded → ∃ service emulator, s.panel.service = some service
    ∧ Handed operations service s.panel.current.key emulator
    ∧ s.panel.Displays s.config.indent emulator

namespace Live

theorem ofStart (start : s.IsStart) : Live operations s := by
  obtain ⟨config, service, delivery, manager, catalog, log, memories, rfl⟩ := start.eq
  refine ⟨⟨?_, ?_⟩, nofun⟩
  · intro service key emulator cached
    cases cached
  · intro id request emulator found
    simp at found

/-- A reload shows only what the service that is set now keeps. -/
theorem ofReloaded (supplied : Supplied operations s) (reloaded : Reloaded s s') :
    Live operations s' := by
  refine ⟨supplied.undisturbed reloaded.undisturbed, ?_⟩
  intro loaded
  cases reloaded with
  | nothing | wait | ask => cases loaded
  | placeholder plan =>
      obtain ⟨_, _, ⟨_, state, _⟩ | ⟨_, _, state, _⟩⟩ := plan_eq_placeholder_iff.mp plan
      · subst state
        cases loaded
      · subst state
        cases loaded
  | @display emulator path panel plan thread shown =>
      -- What is displayed is what the service keeps for the current key.
      obtain ⟨service, live, _, cached⟩ := plan_eq_display plan
      obtain ⟨sameService, sameCurrent, _⟩ := shown.follows
      refine ⟨service, emulator, sameService.trans live, ?_,
        Panel.Shown.displays (p := s.clearLabel.panel) thread shown loaded⟩
      show Handed operations service panel.current.key emulator
      rw [sameCurrent]
      exact supplied.kept cached

/-- A delivery shows only the outcome of a current request, or reloads. -/
theorem ofDelivered {id : RequestId} (supplied : Supplied operations s)
    (own : ∀ request, s.requests[id]? = some request →
      request.isCurrent s.panel.current s.panel.generation = true →
      s.panel.service = some request.service ∧ request.coordinates.key = s.panel.current.key)
    (delivered : Delivered s id s') : Live operations s' := by
  cases delivered with
  | failed =>
      rw [forget_eq]
      exact ⟨supplied.congr rfl rfl, nofun⟩
  | @applied request emulator path panel log found current state thread shown =>
      refine ⟨supplied.congr rfl rfl, ?_⟩
      intro loaded
      obtain ⟨service, key⟩ := own request found current
      obtain ⟨sameService, sameCurrent, _⟩ := shown.follows
      rw [forget_eq] at sameService sameCurrent
      have focused : (s.forget id).panel.current.thread = some path := by
        rw [forget_eq]
        exact thread
      refine ⟨request.service, emulator, sameService.trans service, ?_,
        shown.displays focused loaded⟩
      show Handed operations request.service panel.current.key emulator
      rw [sameCurrent, ← key]
      exact supplied.finished found state
  | stale _ _ reloaded =>
      rw [forget_eq] at reloaded
      refine ofReloaded ?_ reloaded
      exact supplied.congr rfl rfl

theorem move (sound : Sound held s) (move : Move (· ∈ operations) ⟨held, s⟩ ⟨held', s'⟩)
    (h : Live operations s) : Live operations s' := by
  obtain ⟨supplied, displayed⟩ := h
  cases move with
  | aside => exact ⟨supplied.congr rfl rfl, displayed⟩
  | giveUp => exact ⟨supplied, displayed⟩
  | @refresh _ _ coordinates _ sameAs =>
      refine ⟨supplied.congr rfl rfl, ?_⟩
      intro loaded
      obtain ⟨service, emulator, live, handed, path, thread, frame, listing, current, rest⟩ :=
        displayed loaded
      refine ⟨service, emulator, live, ?_, path, thread, frame, listing, ?_, rest⟩
      · rw [Coordinates.key_of_sameAs sameAs] at handed
        exact handed
      · rw [(Coordinates.sameAs_iff.mp sameAs).2.2] at current
        exact current
  | assign _ _ found sameSubject =>
      refine ⟨supplied.congr rfl rfl, ?_⟩
      intro loaded
      obtain ⟨service, emulator, live, handed, path, thread, frame, listing, current, known,
        hasFrame, listed, rows, next, subjects, label⟩ := displayed loaded
      exact ⟨service, emulator, live, handed, path, thread, frame, listing, current, known,
        hasFrame, listed, rows, next, (Unique.subjects_set found sameSubject).trans subjects,
        label⟩
  | keep ok =>
      refine ⟨supplied.keep ?_, displayed⟩
      intro new same
      injection same with same
      subst same
      exact ok
  | evict =>
      refine ⟨supplied.keep ?_, displayed⟩
      intro new same
      cases same
  | takeUp => exact ⟨supplied.takeUp, displayed⟩
  | @finish _ _ id outcome _ ok =>
      -- Only completing a key finishes its requests with an emulator.
      have marked : Supplied operations (s.mark id (.finished outcome)) := by
        apply supplied.mark
        intro request emulator found state
        injection state with state
        subst state
        exact .inr (ok request found).1
      exact ⟨marked.congr rfl rfl, displayed⟩
  | @cancel _ _ id =>
      have marked : Supplied operations (s.mark id .cancelled) := by
        apply supplied.mark
        intro request emulator found state
        cases state
      exact ⟨marked.congr rfl rfl, displayed⟩
  | load _ reloaded => exact ofReloaded supplied reloaded
  | focus _ _ reloaded =>
      refine ofReloaded ?_ reloaded
      exact supplied.congr rfl rfl
  | rewire _ reloaded =>
      refine ofReloaded ?_ reloaded
      exact supplied.congr rfl rfl
  | deliver queue delivered =>
      refine ofDelivered ?_ ?_ delivered
      · exact supplied.congr rfl rfl
      · intro request found current
        obtain ⟨service, key, _⟩ := sound.watched.askable_of_isCurrent found current
        exact ⟨service, key⟩

end Live

/-- **Only live results are displayed.** After every smooth run, a panel that is loaded displays an
emulator that the service that is set now was handed for the current trace and time. -/
theorem displays_handed (start : s.IsStart) (smooth : s.RunsSmoothly operations)
    (loaded : (s.performAll operations).panel.state = .loaded) :
    ∃ service emulator, (s.performAll operations).panel.service = some service
      ∧ Handed operations service (s.performAll operations).panel.current.key emulator
      ∧ (s.performAll operations).panel.Displays s.config.indent emulator := by
  have moves := (start.leads smooth).moves
  have live := moves.keep (P := fun _ s => Live operations s) Live.move start.sound
    (Live.ofStart start)
  have shown := live.displayed loaded
  rw [moves.settings.1] at shown
  exact shown

/-- Back at coordinates that were left, over another service: what the first service was handed
meanwhile is dropped. -/
def Sample.returning : List Operation :=
  [.activate (spot 1), .activate (spot 2), .setService (some "T"), .activate (spot 1),
   .complete "S" (spot 1).key (emulator 0), .complete "T" (spot 1).key (emulator 1),
   .complete "T" (spot 1).key (emulator 2), .cancel 2, .drain]

theorem displays_handed_returning :
    ∃ service emulator,
      ((Sample.start .queued).performAll Sample.returning).panel.service = some service
        ∧ Handed Sample.returning service
          ((Sample.start .queued).performAll Sample.returning).panel.current.key emulator
        ∧ ((Sample.start .queued).performAll Sample.returning).panel.Displays none emulator :=
  displays_handed (Sample.isStart_start .queued) (by decide +kernel) (by decide +kernel)

end Session

end PcodePanel
