import Mathlib.Data.List.Induction
import PcodePanel.Proofs.Session.Agreement
import PcodePanel.Proofs.Session.Live

/-!
# What is shown while the panel loads

A reload that finds its request on the way leaves the rows as they are. As long as emulators stay
with their services, the rows then say that the panel is loading: an emulator that came before the
request was settled would be kept still, and would be shown. Where a service drops an emulator that
was on display, this is not so any more. The panel goes back to loading, and the dropped emulator
stays on display.

* `Session.Withdrawn` — a service was handed an emulator, and dropped it later;
* `Panel.Retains` — a panel shows a thread of an emulator, whatever it says about that;
* `Session.Lingering` — the invariant of all moves, and of dropping an emulator;
* `Session.loading_performAll` — the main result;
* `Session.loading_withdrawn` — a run after which a panel that loads shows a dropped emulator.
-/

namespace PcodePanel

namespace Panel

/-- The rows and the temporaries are those of the current thread of the emulator, or they say that
there is no code. -/
inductive Retains (indent : Option Bool) (emulator : Emulator) (p : Panel) : Prop
  | undecoded {path : String} : p.current.thread = some path →
      (emulator.thread? path).bind EmulatedThread.frame = none →
      p.Blank [.ofKind .notDecoded none] → Retains indent emulator p
  | decoded {path : String} {thread : EmulatedThread} {frame : Frame} {listing : Listing} :
      p.current.thread = some path → emulator.thread? path = some thread →
      thread.frame = some frame → Listing.ofFrame emulator.language frame indent = .ok listing →
      p.rows = listing.rows → p.nextRow = listing.nextRow →
      p.uniques.map Unique.Entry.subject = (Unique.collect frame).map Unique.Entry.subject →
      p.source = some ⟨emulator.language, thread.memory⟩ → Retains indent emulator p

/-- The same is shown, up to data types, for the same thread. -/
structure SameSight (p q : Panel) : Prop where
  thread : q.current.thread = p.current.thread
  rows : q.rows = p.rows
  nextRow : q.nextRow = p.nextRow
  subjects : q.uniques.map Unique.Entry.subject = p.uniques.map Unique.Entry.subject
  source : q.source = p.source

variable {indent : Option Bool} {emulator : Emulator} {p p' : Panel}

theorem SameSight.refl (p : Panel) : p.SameSight p :=
  ⟨rfl, rfl, rfl, rfl, rfl⟩

theorem Blank.sight {rows : List Row} (h : p.Blank rows) (sight : p.SameSight p') :
    p'.Blank rows := by
  have subjects := sight.subjects
  rw [h.uniques] at subjects
  exact h.congr sight.rows sight.nextRow
    ((List.map_eq_nil_iff.mp subjects).trans h.uniques.symm) sight.source

theorem Retains.sight (h : p.Retains indent emulator) (sight : p.SameSight p') :
    p'.Retains indent emulator := by
  cases h with
  | undecoded focused undecoded blank =>
      exact .undecoded (sight.thread.trans focused) undecoded (blank.sight sight)
  | decoded focused found hasFrame listed rows nextRow subjects source =>
      exact .decoded (sight.thread.trans focused) found hasFrame listed (sight.rows.trans rows)
        (sight.nextRow.trans nextRow) (sight.subjects.trans subjects) (sight.source.trans source)

theorem Shown.retains {memories : MemoryId → Memory} {path : String}
    (focused : p.current.thread = some path) (shown : Shown indent memories emulator path p p') :
    p'.Retains indent emulator := by
  cases shown with
  | missing absent =>
      refine .undecoded focused ?_ ⟨rfl, rfl, rfl, rfl⟩
      rw [absent]
      rfl
  | undecoded found undecoded =>
      refine .undecoded focused ?_ ⟨rfl, rfl, rfl, rfl⟩
      rw [found]
      exact undecoded
  | decoded found hasFrame listed values =>
      exact .decoded focused found hasFrame listed rfl rfl (Unique.subjects_decodeAll values) rfl

end Panel

namespace Session

variable {allowed : Operation → Prop} {operations : List Operation} {held held' : List RequestId}
  {s s' : Session} {service : ServiceId} {key : EmulationKey} {emulator : Emulator}

/-! ## What a service was handed and dropped -/

/-- A service was handed an emulator under a key, and dropped what it kept there later. -/
def Withdrawn (operations : List Operation) (service : ServiceId) (key : EmulationKey)
    (emulator : Emulator) : Prop :=
  ∃ front back, operations = front ++ .evict service key :: back
    ∧ Handed front service key emulator

theorem Handed.append (h : Handed operations service key emulator) (more : List Operation) :
    Handed (operations ++ more) service key emulator :=
  h.imp (List.mem_append_left _) (List.mem_append_left _)

theorem Withdrawn.append (h : Withdrawn operations service key emulator)
    (more : List Operation) : Withdrawn (operations ++ more) service key emulator := by
  obtain ⟨front, back, rfl, handed⟩ := h
  exact ⟨front, back ++ more, by rw [List.append_assoc, List.cons_append], handed⟩

/-! ## The invariant -/

/-- The panel shows that it is loading, or what the service was handed for the key. If that is not
kept any more, it was dropped. -/
def Recalls (operations : List Operation) (s : Session) (service : ServiceId)
    (key : EmulationKey) : Prop :=
  s.panel.Blank [.ofKind .loading none]
    ∨ ∃ emulator, Handed operations service key emulator
      ∧ s.panel.Retains s.config.indent emulator
      ∧ ((s.services service).cached? key = none → Withdrawn operations service key emulator)

/-- What the panel shows is of an emulator that the live service has dropped. -/
def ShowsWithdrawn (operations : List Operation) (s : Session) : Prop :=
  ∃ service emulator, s.panel.service = some service
    ∧ Withdrawn operations service s.panel.current.key emulator
    ∧ s.panel.Retains s.config.indent emulator

/-- What a panel shows while it waits, where a reload will not touch its rows, and what it shows
while it says that it is loading. -/
structure Lingering (operations : List Operation) (s : Session) : Prop where
  waiting : ∀ {id : RequestId} {request : Request}, s.panel.pending = some id →
    s.requests[id]? = some request →
    request.isCurrent s.panel.current s.panel.generation = true →
    s.Recalls operations request.service request.coordinates.key
  loading : s.panel.state = .loading →
    s.panel.Blank [.ofKind .loading none] ∨ s.ShowsWithdrawn operations

/-- Where the same is shown, and nothing else is missing, the same is recalled. -/
theorem Recalls.carry (h : s.Recalls operations service key) (config : s'.config = s.config)
    (sight : s.panel.SameSight s'.panel)
    (absent : (s'.services service).cached? key = none →
      (s.services service).cached? key = none) : s'.Recalls operations service key := by
  refine h.imp (·.sight sight) ?_
  rintro ⟨emulator, handed, retains, withdrawn⟩
  refine ⟨emulator, handed, ?_, fun none => withdrawn (absent none)⟩
  rw [config]
  exact retains.sight sight

namespace Lingering

theorem append (h : Lingering operations s) (more : List Operation) :
    Lingering (operations ++ more) s := by
  refine ⟨?_, ?_⟩
  · intro id request waits found current
    refine (h.waiting waits found current).imp_right ?_
    rintro ⟨emulator, handed, retains, withdrawn⟩
    exact ⟨emulator, handed.append more, retains, fun absent => (withdrawn absent).append more⟩
  · intro loading
    refine (h.loading loading).imp_right ?_
    rintro ⟨service, emulator, live, withdrawn, retains⟩
    exact ⟨service, emulator, live, withdrawn.append more, retains⟩

/-- Where the same is shown and the same is waited for, nothing else matters but what is kept. -/
theorem congr (h : Lingering operations s) (config : s'.config = s.config)
    (state : s'.panel.state = s.panel.state) (service : s'.panel.service = s.panel.service)
    (key : s'.panel.current.key = s.panel.current.key) (sight : s.panel.SameSight s'.panel)
    (absent : ∀ service key, (s'.services service).cached? key = none →
      (s.services service).cached? key = none)
    (inherits : s.Inherits s') : Lingering operations s' := by
  refine ⟨?_, ?_⟩
  · intro id request' waits found current
    obtain ⟨request, waits, found, current, sameService, sameCoordinates⟩ :=
      inherits id request' waits found current
    rw [← sameService, ← sameCoordinates]
    exact (h.waiting waits found current).carry config sight (absent _ _)
  · intro loading
    refine (h.loading (state.symm.trans loading)).imp (·.sight sight) ?_
    rintro ⟨live, emulator, isLive, withdrawn, retains⟩
    refine ⟨live, emulator, service.trans isLive, ?_, ?_⟩
    · rw [key]
      exact withdrawn
    · rw [config]
      exact retains.sight sight

theorem ofStart (start : s.IsStart) : Lingering operations s := by
  obtain ⟨config, service, delivery, manager, catalog, log, memories, rfl⟩ := start.eq
  exact ⟨nofun, nofun⟩

/-- A panel that waits for nothing current lingers on nothing, if it does not say that it loads. -/
theorem of_not_waiting (idle : ∀ {id : RequestId} {request : Request},
      s.panel.pending = some id → s.requests[id]? = some request →
      request.isCurrent s.panel.current s.panel.generation ≠ true)
    (state : s.panel.state ≠ .loading) : Lingering operations s :=
  ⟨fun waits found current => absurd current (idle waits found),
    fun loading => absurd loading state⟩

theorem of_blank (blank : s.panel.Blank [.ofKind .loading none]) : Lingering operations s :=
  ⟨fun _ _ _ => .inl blank, fun _ => .inl blank⟩

/-- A reload shows what is kept, or leaves what it finds only where it is recalled. -/
theorem ofReloaded (watched : Watched s) (supplied : Supplied operations s)
    (waiting : ∀ {id : RequestId} {request : Request}, s.panel.pending = some id →
      s.requests[id]? = some request →
      request.isCurrent s.panel.current s.panel.generation = true →
      s.Recalls operations request.service request.coordinates.key)
    (reloaded : Reloaded s s') : Lingering operations s' := by
  cases reloaded with
  | nothing plan =>
      refine of_not_waiting ?_ nofun
      intro id request waits found current
      obtain ⟨live, _, trace, _⟩ := watched.askable_of_isCurrent found current
      rcases plan_eq_nothing_iff.mp plan with absent | absent
      · rw [absent] at live
        cases live
      · exact trace absent
  | @placeholder state kind plan =>
      obtain ⟨_, _, blocked⟩ := plan_eq_placeholder_iff.mp plan
      refine of_not_waiting ?_ ?_
      · intro id request waits found current
        obtain ⟨_, _, _, focused, decoded⟩ := watched.askable_of_isCurrent found current
        rcases blocked with ⟨thread, _⟩ | ⟨_, undecoded, _⟩
        · exact focused thread
        · exact decoded undecoded
      · show state ≠ .loading
        rcases blocked with ⟨_, rfl, _⟩ | ⟨_, _, rfl, _⟩ <;> exact nofun
  | @display emulator path panel plan thread shown =>
      obtain ⟨_, _, _, sameGeneration, samePending⟩ := shown.follows
      refine ⟨?_, fun loading => absurd loading shown.not_loading⟩
      have inherits : s.Inherits { s.clearLabel with panel } :=
        .of_generation watched sameGeneration (fun waits => samePending.symm.trans waits) rfl
      intro id request' waits found current
      obtain ⟨request, _, found, current, sameService, sameCoordinates⟩ :=
        inherits id request' waits found current
      -- What is displayed is kept, and so it was handed over.
      have cached := watched.cached_of_display plan found current
      rw [sameService, sameCoordinates] at cached
      exact .inr ⟨emulator, supplied.kept cached,
        Panel.Shown.retains (p := s.clearLabel.panel) thread shown,
        fun absent => nomatch cached.symm.trans absent⟩
  | wait plan =>
      have sight : s.panel.SameSight (s.clearLabel.setState .loading).panel :=
        ⟨rfl, rfl, rfl, rfl, rfl⟩
      refine ⟨fun waits found current => (waiting waits found current).carry rfl sight id, ?_⟩
      intro _
      obtain ⟨id, request, waits, found, current, own, key, absent⟩ := watched.asked_of_wait plan
      refine (waiting waits found current).imp (·.sight sight) ?_
      rintro ⟨emulator, _, retains, withdrawn⟩
      have dropped := withdrawn absent
      rw [key] at dropped
      exact ⟨request.service, emulator, own, dropped, retains.sight sight⟩
  | ask plan => exact of_blank ⟨rfl, rfl, rfl, rfl⟩

/-- A delivery takes over the request that is waited for, or reloads. -/
theorem ofDelivered {id : RequestId} {rest : List RequestId} (h : Lingering operations s)
    (watched : Watched s) (supplied : Supplied operations s) (queue : s.queue = id :: rest)
    (delivered : Delivered { s with queue := rest } id s') : Lingering operations s' := by
  have queued : id ∈ s.queue := by
    rw [queue]
    exact List.mem_cons_self
  -- A current request that is delivered is not waited for afterwards.
  have forgotten : ∀ {request}, s.requests[id]? = some request →
      request.isCurrent s.panel.current s.panel.generation = true →
      (if s.panel.pending = some id then none else s.panel.pending) = none :=
    fun found current => if_pos (watched.pending_of_isCurrent queued found current)
  cases delivered with
  | failed found current =>
      rw [forget_eq]
      refine of_not_waiting ?_ nofun
      intro other request waits
      cases (forgotten found current).symm.trans waits
  | @applied request emulator path panel log found current state thread shown =>
      rw [forget_eq] at shown
      obtain ⟨_, _, _, _, samePending⟩ := shown.follows
      refine of_not_waiting ?_ shown.not_loading
      intro other request waits
      cases ((samePending.trans (forgotten found current)).symm.trans waits)
  | @stale _ log _ _ _ reloaded =>
      have watching : Watched ({ forget { s with queue := rest } id with log }.setState .stale) :=
        watched.stale queue
      have inherits :
          s.Inherits ({ forget { s with queue := rest } id with log }.setState .stale) :=
        .of_stale watched
      rw [forget_eq] at watching inherits reloaded
      refine ofReloaded watching (supplied.congr rfl rfl) ?_ reloaded
      intro other request' waits found current
      obtain ⟨request, waits, found, current, sameService, sameCoordinates⟩ :=
        inherits other request' waits found current
      rw [← sameService, ← sameCoordinates]
      have recalls := h.waiting waits found current
      exact recalls.carry rfl ⟨rfl, rfl, rfl, rfl, rfl⟩ fun absent => absent

theorem move (noEviction : ∀ service key, ¬ allowed (.evict service key)) (sound : Sound held s)
    (supplied : Supplied operations s) (move : Move allowed ⟨held, s⟩ ⟨held', s'⟩)
    (h : Lingering operations s) : Lingering operations s' := by
  obtain ⟨_, watched⟩ := sound
  have sight : s.panel.SameSight s.panel := .refl _
  cases move with
  | aside =>
      exact h.congr rfl rfl rfl rfl sight (fun _ _ => id) (.of_generation watched rfl id rfl)
  | giveUp => exact h
  | refresh _ sameAs =>
      exact h.congr rfl rfl rfl (Coordinates.key_of_sameAs sameAs).symm
        ⟨(Coordinates.sameAs_iff.mp sameAs).2.2.symm, rfl, rfl, rfl, rfl⟩ (fun _ _ => id)
        (.of_generation watched rfl id rfl)
  | assign _ _ found sameSubject =>
      exact h.congr rfl rfl rfl rfl ⟨rfl, rfl, rfl, Unique.subjects_set found sameSubject, rfl⟩
        (fun _ _ => id) (.of_generation watched rfl id rfl)
  | keep =>
      refine h.congr rfl rfl rfl rfl sight ?_ (.of_generation watched rfl id rfl)
      intro other otherKey absent
      rw [services_updateService, cached?_set_keep] at absent
      split at absent
      · cases absent
      · exact absent
  | evict ok => exact absurd ok (noEviction _ _)
  | takeUp =>
      refine h.congr rfl rfl rfl rfl sight ?_ (.of_generation watched rfl id rfl)
      intro other otherKey absent
      rw [services_updateService, cached?_set_takeUp] at absent
      exact absent
  | finish outstanding | cancel _ outstanding =>
      exact h.congr rfl rfl rfl rfl sight (fun _ _ => id) (.of_mark watched outstanding)
  | load _ reloaded => exact ofReloaded watched supplied h.waiting reloaded
  | focus _ _ reloaded =>
      refine ofReloaded ?_ ?_ ?_ reloaded
      · exact watched.advance rfl (.inl rfl) rfl rfl
      · exact supplied.congr rfl rfl
      · -- What was waited for belongs to an earlier generation.
        intro id request waits found current
        have earlier := watched.generation_le found
        have now : request.generation = s.panel.generation + 1 := (isCurrent_iff.mp current).2.1
        omega
  | rewire _ reloaded =>
      refine ofReloaded ?_ ?_ ?_ reloaded
      · exact watched.advance rfl (.inr rfl) rfl rfl
      · exact supplied.congr rfl rfl
      · intro id request waits
        cases waits
  | deliver queue delivered => exact h.ofDelivered watched supplied queue delivered

/-- Where a service drops an emulator, what was handed to it before has been dropped then. -/
theorem evict (h : Lingering operations s) (service : ServiceId) (key : EmulationKey) :
    Lingering (operations ++ [.evict service key])
      (s.updateService service (Service.keep key none)) := by
  have more := h.append [.evict service key]
  refine ⟨?_, more.loading⟩
  intro id request waits found current
  refine (h.waiting waits found current).imp_right ?_
  rintro ⟨emulator, handed, retains, withdrawn⟩
  refine ⟨emulator, handed.append _, retains, fun absent => ?_⟩
  rw [services_updateService, cached?_set_keep] at absent
  split at absent
  · next here =>
    rw [here.1, here.2] at handed ⊢
    exact ⟨operations, [], rfl, handed⟩
  · exact (withdrawn absent).append _

end Lingering

/-! ## Runs -/

/-- More may be allowed than is done. -/
theorem Move.mono {allowed' : Operation → Prop} {m m' : Moment}
    (more : ∀ operation, allowed operation → allowed' operation) (move : Move allowed m m') :
    Move allowed' m m' := by
  have attended : Attended allowed → Attended allowed' := by
    rintro ⟨operation, ok, own⟩
    exact ⟨operation, more operation ok, own⟩
  cases move with
  | aside own => exact .aside (attended own)
  | refresh own sameAs => exact .refresh (attended own) sameAs
  | assign own loaded found same => exact .assign (attended own) loaded found same
  | keep ok => exact .keep (ok.imp (more _) (more _))
  | evict ok => exact .evict (more _ ok)
  | takeUp ok => exact .takeUp (more _ ok)
  | giveUp isHeld closed => exact .giveUp isHeld closed
  | finish outstanding ok idle =>
      exact .finish outstanding (fun request found => (ok request found).imp_left (more _)) idle
  | cancel ok outstanding idle => exact .cancel (more _ ok) outstanding idle
  | load own reloaded => exact .load (attended own) reloaded
  | focus own other reloaded => exact .focus (attended own) other reloaded
  | rewire own reloaded => exact .rewire (attended own) reloaded
  | deliver queue delivered => exact .deliver queue delivered

theorem Live.append (h : Live operations s) (more : List Operation) :
    Live (operations ++ more) s := by
  refine ⟨⟨fun cached => (h.supplied.kept cached).append more,
    fun found state => (h.supplied.finished found state).append more⟩, ?_⟩
  intro loaded
  obtain ⟨service, emulator, live, handed, displays⟩ := h.displayed loaded
  exact ⟨service, emulator, live, handed.append more, displays⟩

theorem lingering_performAll (start : s.IsStart) (smooth : s.RunsSmoothly operations) :
    Live operations (s.performAll operations)
      ∧ Lingering operations (s.performAll operations) := by
  -- The induction is from the last operation back: what was handed over before an eviction matters.
  induction operations using List.reverseRecOn with
  | nil => exact ⟨.ofStart start, .ofStart start⟩
  | append_singleton front operation ih =>
      obtain ⟨before, last, _⟩ := runsSmoothly_append.mp smooth
      obtain ⟨live, lingering⟩ := ih before
      have leads := start.leads before
      have sound := leads.moves.sound start.sound
      have step : Leads (· = operation) ⟨[], s.performAll front⟩
          ⟨[], ((s.performAll front).perform operation).1⟩ :=
        perform_leads rfl sound leads.idle last
      have listed : ∀ other, other = operation → other ∈ front ++ [operation] := by
        rintro _ rfl
        exact List.mem_append_right _ List.mem_cons_self
      have lives : Live (front ++ [operation]) ((s.performAll front).perform operation).1 :=
        step.moves.keep (P := fun _ s => Live (front ++ [operation]) s)
          (fun sound move => Live.move sound (move.mono listed)) sound (live.append _)
      rw [performAll_append]
      refine ⟨lives, ?_⟩
      by_cases evicts : ∃ service key, operation = .evict service key
      · obtain ⟨service, key, rfl⟩ := evicts
        exact lingering.evict service key
      · have noEviction : ∀ service key, ¬ .evict service key = operation :=
          fun service key same => evicts ⟨service, key, same.symm⟩
        have both := step.moves.keep
          (P := fun _ s => Live (front ++ [operation]) s ∧ Lingering (front ++ [operation]) s)
          (fun sound move h => ⟨Live.move sound (move.mono listed) h.1,
            Lingering.move noEviction sound h.1.supplied move h.2⟩)
          sound ⟨live.append _, lingering.append _⟩
        exact both.2

/-- **What a loading panel shows.** After every smooth run, also one in which services drop
emulators: a panel that is loading shows nothing else, or it shows what is left of an emulator that
the service that is set now was handed for the current trace and time, and dropped later. -/
theorem loading_performAll (start : s.IsStart) (smooth : s.RunsSmoothly operations)
    (loading : (s.performAll operations).panel.state = .loading) :
    ((s.performAll operations).panel.rows = [.ofKind .loading none]
        ∧ (s.performAll operations).panel.nextRow = none
        ∧ (s.performAll operations).panel.uniques = []
        ∧ ∀ index type, ((s.performAll operations).perform (.assign index type)).2
          = .error .nothingLoaded)
      ∨ ∃ service emulator, (s.performAll operations).panel.service = some service
        ∧ Withdrawn operations service (s.performAll operations).panel.current.key emulator
        ∧ (s.performAll operations).panel.Retains s.config.indent emulator := by
  have config := (start.leads smooth).moves.settings.1
  refine ((lingering_performAll start smooth).2.loading loading).imp ?_ ?_
  · intro blank
    exact ⟨blank.rows, blank.nextRow, blank.uniques, assign_of_source_none blank.source⟩
  · rintro ⟨service, emulator, live, withdrawn, retains⟩
    rw [config] at retains
    exact ⟨service, emulator, live, withdrawn, retains⟩

/-- An emulator comes while the request for it is on its way, and is dropped when it is on display.
-/
def Sample.dropping : List Operation :=
  [.activate (spot 1), .add "S" (spot 1).key (Sample.emulator 1), .load,
   .evict "S" (spot 1).key, .load]

theorem loading_performAll_dropping :
    ∃ service emulator,
      ((Sample.start .queued).performAll Sample.dropping).panel.service = some service
        ∧ Withdrawn Sample.dropping service
          ((Sample.start .queued).performAll Sample.dropping).panel.current.key emulator
        ∧ ((Sample.start .queued).performAll Sample.dropping).panel.Retains none emulator := by
  have smooth : (Sample.start .queued).RunsSmoothly Sample.dropping := by decide +kernel
  have shows := loading_performAll (Sample.isStart_start .queued) smooth (by decide +kernel)
  refine shows.resolve_left fun blank => ?_
  exact absurd blank.1 (by decide +kernel)

/-- The panel says that it is loading, and shows the instruction of the dropped emulator, with
values that take a data type. -/
theorem loading_withdrawn :
    (Sample.start .queued).RunsSmoothly Sample.dropping
      ∧ ((Sample.start .queued).performAll Sample.dropping).panel.state = .loading
      ∧ ((Sample.start .queued).performAll Sample.dropping).panel.rows
        ≠ [.ofKind .loading none]
      ∧ ((Sample.start .queued).performAll Sample.dropping).panel.nextRow ≠ none
      ∧ ((Sample.start .queued).performAll Sample.dropping).panel.uniques ≠ []
      ∧ (((Sample.start .queued).performAll Sample.dropping).perform
          (.assign 1 (some (.integer "long" 8 true)))).2.isOk = true := by
  decide +kernel

end Session

end PcodePanel
