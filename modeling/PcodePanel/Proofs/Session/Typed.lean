import PcodePanel.Proofs.Session.Move
import PcodePanel.Proofs.Unique.Assigning

/-!
# Typed entries and the catalog

The data types of the entries on the panel, and the types that the catalog knows, are written by
different parts. Loads and deliveries leave the catalog alone, and either the entries too or show
others that have no data types. Only `assign` writes both. So each entry with a data type agrees
with the catalog, in any run: also where loads fail, where types are refused, and whatever the
services are.

* `Session.Renews` — what all operations but `assign` do to entries and catalog;
* `Session.Typed` — each entry with a data type agrees with the catalog;
* `Session.Assigned` — what `assign` does;
* `Session.typed_performAll` — the main result.
-/

namespace PcodePanel

/-! ## Panels -/

namespace Panel

/-- The panel shows the same entries from the same source, or entries without data types. -/
def Renews (p p' : Panel) : Prop :=
  p'.uniques = p.uniques ∧ p'.source = p.source
    ∨ ∀ entry ∈ p'.uniques, entry.dataType = none

variable {p p' p'' : Panel}

theorem Renews.refl (p : Panel) : p.Renews p :=
  .inl ⟨rfl, rfl⟩

theorem Renews.trans (first : p.Renews p') (second : p'.Renews p'') : p.Renews p'' := by
  rcases second with ⟨uniques, source⟩ | plain
  · unfold Renews at first ⊢
    rw [uniques, source]
    exact first
  · exact .inr plain

theorem renews_showNothing (p : Panel) : p.Renews p.showNothing :=
  .inr (List.forall_mem_nil _)

theorem renews_showPlaceholder (p : Panel) (state : LoadState) (kind : PlaceholderKind)
    (detail : Option String) : p.Renews (p.showPlaceholder state kind detail) :=
  .inr (List.forall_mem_nil _)

/-- A frame that cannot be shown leaves the entries, even if it has written rows. -/
theorem renews_showFrame (p : Panel) (indent : Option Bool) (source : Source) (memory : Memory)
    (frame : Frame) : p.Renews (p.showFrame indent source memory frame).1 := by
  unfold showFrame
  split
  · exact .refl p
  · dsimp only
    split
    · exact .inl ⟨rfl, rfl⟩
    · next uniques decoded => exact .inr (Unique.dataType_of_mem_decodeAll_collect decoded)

theorem renews_showEmulator (p : Panel) (indent : Option Bool) (memories : MemoryId → Memory)
    (emulator : Emulator) (path : String) :
    p.Renews (p.showEmulator indent memories emulator path).1 := by
  unfold showEmulator
  split
  · exact p.renews_showPlaceholder ..
  · dsimp only
    split
    · exact renews_showPlaceholder { p with label := _ } ..
    · exact renews_showFrame { p with label := _ } ..

variable {memories : MemoryId → Memory} {catalog catalog' : Catalog} {index : Int}
  {type : Option DataType}

theorem assign_eq_error {fault : Fault}
    (failed : p.assign index type catalog memories = (.error fault, catalog')) :
    catalog' = catalog := by
  unfold assign at failed
  split at failed
  · exact (Prod.mk.inj failed).2.symm
  · split at failed
    · exact (Prod.mk.inj failed).2.symm
    · split at failed
      · next assigned =>
        cases failed
        exact Unique.Entry.assign_eq_error assigned
      · cases failed

end Panel

namespace Session

variable {s s' s'' : Session}

/-! ## What other operations do -/

/-- The catalog stays, and the panel shows the same entries or entries without data types. -/
structure Renews (s s' : Session) : Prop where
  catalog : s'.catalog = s.catalog
  panel : s.panel.Renews s'.panel

namespace Renews

theorem refl (s : Session) : s.Renews s :=
  ⟨rfl, .refl _⟩

theorem trans (first : s.Renews s') (second : s'.Renews s'') : s.Renews s'' :=
  ⟨second.catalog.trans first.catalog, first.panel.trans second.panel⟩

/-- What changes neither catalog nor entries. -/
theorem ofSame (catalog : s'.catalog = s.catalog) (uniques : s'.panel.uniques = s.panel.uniques)
    (source : s'.panel.source = s.panel.source) : s.Renews s' :=
  ⟨catalog, .inl ⟨uniques, source⟩⟩

/-- An event is logged before something else is done, or nothing is. -/
theorem ofRecord {name detail : String} {next : Session → Session × Option Fault}
    (step : ∀ log, s.Renews (next { s with log }).1) :
    s.Renews
      (match s.record name detail with
        | .error fault => (s, some fault)
        | .ok s => next s).1 := by
  split
  · exact .refl s
  · next recorded =>
    obtain ⟨log, rfl⟩ := record_eq_ok recorded
    exact step log

end Renews

theorem renews_showEmulator (s : Session) (emulator : Emulator) :
    s.Renews (s.showEmulator emulator).1 := by
  unfold showEmulator
  split
  · exact .refl s
  · exact ⟨rfl, s.panel.renews_showEmulator ..⟩

theorem renews_reload (s : Session) : s.Renews s.reload.1 := by
  have cleared : s.Renews s.clearLabel := .ofSame rfl rfl rfl
  refine cleared.trans ?_
  unfold reload
  cases s.plan with
  | nothing => exact ⟨rfl, Panel.renews_showNothing _⟩
  | placeholder state kind => exact ⟨rfl, Panel.renews_showPlaceholder ..⟩
  | display emulator => exact renews_showEmulator _ emulator
  | wait => exact .ofSame rfl rfl rfl
  | ask service =>
      have shown : s.clearLabel.Renews (s.clearLabel.showPlaceholder .loading .loading none) :=
        ⟨rfl, Panel.renews_showPlaceholder ..⟩
      exact shown.trans (.ofRecord fun _ => .ofSame rfl rfl rfl)

theorem renews_recordAndReload (s : Session) (name : String) :
    s.Renews (s.recordAndReload name).1 := by
  refine .ofRecord fun log => ?_
  have logged : s.Renews { s with log } := .ofSame rfl rfl rfl
  exact logged.trans (renews_reload _)

theorem renews_activate (s : Session) (coordinates : Coordinates) :
    s.Renews (s.activate coordinates).1 := by
  unfold activate
  split
  · exact .ofSame rfl rfl rfl
  · have focused : s.Renews (s.focusOn coordinates) := .ofSame rfl rfl rfl
    exact focused.trans (renews_recordAndReload ..)

theorem renews_setService (s : Session) (service : Option ServiceId) :
    s.Renews (s.setService service).1 := by
  have rewired : s.Renews (s.rewire service) := .ofSame rfl rfl rfl
  exact rewired.trans (renews_recordAndReload ..)

theorem renews_activateTime (s : Session) (time : Schedule) :
    s.Renews (s.activateTime time).1 := by
  have handed : s.Renews { s with handed := s.handed ++ [time] } := .ofSame rfl rfl rfl
  unfold activateTime
  split
  · exact s.renews_activate _
  · exact handed
  · exact handed.trans (renews_activate ..)

theorem renews_takeOver (s : Session) (request : Request) :
    s.Renews (s.takeOver request).1 := by
  unfold takeOver
  split
  · next failure _ =>
    have failed : s.Renews { s with failures := s.failures ++ [request.coordinates.time] } :=
      .ofSame rfl rfl rfl
    exact failed.trans (.ofRecord fun _ => ⟨rfl, Panel.renews_showPlaceholder ..⟩)
  · refine .ofRecord fun log => ?_
    have logged : s.Renews { s with log } := .ofSame rfl rfl rfl
    exact logged.trans (renews_showEmulator ..)
  · exact .refl s
  · exact .refl s

theorem renews_dropStale (s : Session) (request : Request) :
    s.Renews (s.dropStale request).1 := by
  refine .ofRecord fun log => ?_
  have stale : s.Renews ({ s with log }.setState .stale) := .ofSame rfl rfl rfl
  exact stale.trans (renews_reload _)

theorem renews_deliver (s : Session) (id : RequestId) : s.Renews (s.deliver id).1 := by
  unfold deliver
  split
  · exact .refl s
  · have forgotten : s.Renews (s.forget id) := by
      rw [forget_eq]
      exact .ofSame rfl rfl rfl
    refine forgotten.trans ?_
    dsimp only
    split
    · exact renews_takeOver ..
    · exact renews_dropStale ..

theorem renews_settle (s : Session) (onWorker : Bool) (id : RequestId) (state : RequestState) :
    s.Renews (s.settle onWorker id state) := by
  have marked : s.Renews (s.mark id state) := .ofSame rfl rfl rfl
  rw [settle_eq]
  split
  · exact marked.trans (renews_deliver ..)
  · exact .ofSame rfl rfl rfl

theorem renews_finishAll (s : Session) (outcome : Outcome) (ids : List RequestId) :
    s.Renews (s.finishAll outcome ids).1 := by
  induction ids generalizing s with
  | nil => exact .refl s
  | cons id ids ih =>
      unfold finishAll
      split
      · exact (renews_settle ..).trans (ih _)
      · exact .refl s

theorem renews_answer {result : Session × Option Fault} {reply : Session → Reply}
    (h : s.Renews result.1) : s.Renews (answer result reply).1 := by
  obtain ⟨reached, fault⟩ := result
  cases fault <;> exact h

theorem renews_finishKey (s : Session) (service : ServiceId) (key : EmulationKey)
    (outcome : Outcome) : s.Renews (s.finishKey service key outcome).1 := by
  have taken : s.Renews (s.updateService service (Service.takeUp key)) := .ofSame rfl rfl rfl
  exact renews_answer (taken.trans (renews_finishAll ..))

theorem renews_release (s : Session) (service : ServiceId) :
    s.Renews (s.release service).1 := by
  have worker : ∀ (s : Session) id key outcome,
      s.Renews (s.finishOnWorker service id key outcome) := by
    intro s id key outcome
    cases outcome with
    | failed failure => exact renews_settle ..
    | emulated emulator =>
        have kept : s.Renews (s.updateService service (Service.keep key (some emulator))) :=
          .ofSame rfl rfl rfl
        exact kept.trans (renews_settle ..)
  unfold release
  split
  · exact .refl s
  · next pool _ =>
    split
    · exact .refl s
    · next ids _ =>
      have taken : s.Renews
          (s.updateService service fun _ => .pool { pool with waiting := ids }) :=
        .ofSame rfl rfl rfl
      dsimp only
      split
      · exact taken
      · exact taken.trans (worker ..)

theorem renews_drainIds (s : Session) (count : Nat) (ids : List RequestId) :
    s.Renews (s.drainIds count ids).1 := by
  induction ids generalizing s count with
  | nil => exact .refl s
  | cons id ids ih =>
      have taken : s.Renews { s with queue := ids } := .ofSame rfl rfl rfl
      have told := taken.trans (renews_deliver _ id)
      unfold drainIds
      split
      · next delivered =>
        rw [delivered] at told
        exact told.trans (ih ..)
      · next delivered =>
        rw [delivered] at told
        exact told

/-- No operation but `assign` gives data types or touches the catalog. -/
theorem renews_perform (s : Session) {operation : Operation}
    (other : ∀ index type, operation ≠ .assign index type) :
    s.Renews (s.perform operation).1 := by
  have stepTo : ∀ time, s.Renews (s.stepTo time).1 := by
    intro time
    cases time with
    | none => exact .refl s
    | some time => exact renews_answer (s.renews_activateTime time)
  cases operation with
  | activate coordinates => exact renews_answer (s.renews_activate coordinates)
  | setService service => exact renews_answer (s.renews_setService service)
  | load => exact renews_answer s.renews_reload
  | stepForward | stepBackward => exact stepTo _
  | assign index type => exact absurd rfl (other index type)
  | complete service key emulator =>
      have kept : s.Renews (s.updateService service (Service.keep key (some emulator))) :=
        .ofSame rfl rfl rfl
      exact kept.trans (renews_finishKey ..)
  | fail service key failure => exact renews_finishKey ..
  | cancel id =>
      show s.Renews (s.cancel id).1
      unfold cancel
      split
      · exact renews_settle ..
      · exact .refl s
  | release service => exact s.renews_release service
  | write memory varnode content =>
      refine renews_answer ?_
      unfold write
      split
      · exact .refl s
      · exact .ofSame rfl rfl rfl
  | drain =>
      rw [perform_drain]
      exact s.renews_drainIds 0 s.queue
  | add | evict | provide | clearLog => exact .ofSame rfl rfl rfl

/-! ## Giving data types -/

/-- What `assign` does: it is refused and nothing happens, or one entry takes another data type. The
catalog learns the type, if it does not know it yet. -/
structure Assigned (s : Session) (index : Int) (type : Option DataType)
    (result : Session × Except Fault Reply) : Prop where
  refused : ∀ fault, result.2 = .error fault → result.1 = s
  given : ∀ reply, result.2 = .ok reply → ∃ (position : Nat) (entry updated : Unique.Entry)
    (catalog : Catalog),
    reply = .entry updated
      ∧ (position : Int) = (if index < 0 then index + s.panel.uniques.length else index)
      ∧ s.panel.uniques[position]? = some entry
      ∧ updated.subject = entry.subject ∧ updated.dataType = type
      ∧ result.1
        = { s with
            panel := { s.panel with uniques := s.panel.uniques.set position updated }, catalog }
      ∧ (catalog = s.catalog ∨ ∃ new, type = some new ∧ s.catalog.get? new.name = none
        ∧ catalog = { s.catalog with types := s.catalog.types ++ [new] })

theorem assigned_assign (s : Session) (index : Int) (type : Option DataType) :
    s.Assigned index type (s.assign index type) := by
  unfold assign
  split
  · next fault catalog failed =>
    refine ⟨fun _ _ => ?_, fun _ done => ?_⟩
    · rw [Panel.assign_eq_error failed]
    · cases done
  · next updated panel catalog done =>
    refine ⟨nofun, ?_⟩
    rintro reply ⟨⟩
    obtain ⟨source, position, entry, _, place, there, assigned, rfl⟩ := Panel.place_of_assign done
    have given := Unique.Entry.given_of_assign assigned
    refine ⟨position, entry, updated, catalog, rfl, place, there, given.subject, given.dataType,
      rfl, ?_⟩
    cases type with
    | none => exact .inl (given.untouched rfl)
    | some new =>
        cases given.learns new rfl with
        | known => exact .inl rfl
        | added unknown => exact .inr ⟨new, rfl, unknown, rfl⟩

/-! ## Agreement -/

/-- An entry agrees with the catalog about a data type: the type fits the entry, the catalog knows
it, and the text of the entry is that of the type, in the byte order of what is shown. -/
structure Agrees (s : Session) (entry : Unique.Entry) (type : DataType) : Prop where
  fits : type.length ≤ entry.varnode.size
  known : s.catalog.get? type.name = some type
  represents : ∃ source, s.panel.source = some source
    ∧ entry.Represents type source.language.bigEndian

/-- Each entry with a data type agrees with the catalog. -/
def Typed (s : Session) : Prop :=
  ∀ entry ∈ s.panel.uniques, ∀ type, entry.dataType = some type → s.Agrees entry type

namespace Typed

theorem renews (h : s.Typed) (renews : s.Renews s') : s'.Typed := by
  obtain ⟨catalog, ⟨uniques, source⟩ | plain⟩ := renews
  · intro entry member type typed
    rw [uniques] at member
    obtain ⟨fits, known, represents⟩ := h entry member type typed
    exact ⟨fits, catalog ▸ known, source ▸ represents⟩
  · intro entry member type typed
    rw [plain entry member] at typed
    cases typed

/-- The entry that takes the type agrees with the catalog that has learnt it. What the catalog knew,
and the other entries rely on, it knows still. -/
theorem assign (h : s.Typed) (index : Int) (type : Option DataType) :
    (s.assign index type).1.Typed := by
  unfold Session.assign
  split
  · next fault catalog failed =>
    rw [Panel.assign_eq_error failed]
    exact h
  · next updated panel catalog done =>
    obtain ⟨source, position, entry, shown, _, there, assigned, rfl⟩ := Panel.place_of_assign done
    have given := Unique.Entry.given_of_assign assigned
    have keeps : ∀ {name : String} {known : DataType}, s.catalog.get? name = some known →
        catalog.get? name = some known := by
      intro name known found
      cases type with
      | none =>
          rw [given.untouched rfl]
          exact found
      | some new => exact (given.learns new rfl).get?_of_known found
    intro other member known typed
    rcases List.mem_or_eq_of_mem_set member with old | rfl
    · obtain ⟨fits, found, represents⟩ := h other old known typed
      exact ⟨fits, keeps found, represents⟩
    · have asked : type = some known := given.dataType.symm.trans typed
      have sameVarnode : other.varnode = entry.varnode := congrArg Prod.fst given.subject
      refine ⟨?_, (given.learns known asked).get?, source, shown,
        Unique.Entry.represents_of_decode given.decoded typed⟩
      rw [sameVarnode]
      exact given.fits known asked

theorem perform (h : s.Typed) (operation : Operation) : (s.perform operation).1.Typed := by
  by_cases assigns : ∃ index type, operation = .assign index type
  · obtain ⟨index, type, rfl⟩ := assigns
    exact h.assign index type
  · refine h.renews (s.renews_perform ?_)
    intro index type same
    exact assigns ⟨index, type, same⟩

theorem performAll (h : s.Typed) (operations : List Operation) :
    (s.performAll operations).Typed := by
  induction operations generalizing s with
  | nil => exact h
  | cons operation operations ih => exact ih (h.perform operation)

end Typed

/-- A session to which nothing has happened, over any services and with any catalog. The memories of
the threads that will be emulated may hold anything. -/
def IsNew (s : Session) : Prop :=
  ∃ config service delivery manager catalog services memories new,
    create config service delivery manager catalog services = .ok new
      ∧ s = { new with memories }

theorem IsNew.uniques_eq (new : s.IsNew) : s.panel.uniques = [] := by
  obtain ⟨config, service, delivery, manager, catalog, services, memories, created, done, rfl⟩ :=
    new
  unfold create at done
  split at done
  · obtain ⟨log, _, done⟩ := bind_eq_ok_iff.mp done
    cases done
    rfl
  · cases done
    rfl

theorem IsStart.isNew (start : s.IsStart) : s.IsNew := by
  obtain ⟨config, service, delivery, manager, catalog, memories, new, done, eq⟩ := start
  exact ⟨config, service, delivery, manager, catalog, _, memories, new, done, eq⟩

/-- **Typed entries agree with the catalog.** After any run from a new session, whatever was refused
in its course, each entry with a data type is wide enough for it, shows its own bytes in it, and
finds that very type in the catalog under its name. To give another type then is refused and changes
nothing at all, or it changes the entry at the index and adds one type to the catalog at most. -/
theorem typed_performAll (new : s.IsNew) (operations : List Operation) :
    (s.performAll operations).Typed
      ∧ ∀ index type, (s.performAll operations).Assigned index type
        ((s.performAll operations).perform (.assign index type)) := by
  have untyped : s.Typed := by
    intro entry member
    rw [new.uniques_eq] at member
    exact absurd member List.not_mem_nil
  exact ⟨untyped.performAll operations, fun index type => assigned_assign _ index type⟩

/-- Both entries are given a data type, the last one a type that is new to the catalog. Then a type
of the same name is refused, and so is one that is too long. -/
def Sample.assigning : List Operation :=
  [.add "S" (spot 1).key (emulator 0), .activate (spot 1),
    .assign 0 (some (.integer "ulong" 8 false)), .assign (-1) (some (.boolean "flag" 1)),
    .assign 0 (some (.integer "flag" 4 true)), .assign 1 (some (.integer "wide" 9 false))]

theorem typed_performAll_typing :
    ((Sample.start .queued).performAll Sample.assigning).panel.uniques.map
        (fun entry => (entry.dataType, entry.representation))
      = [(some (.integer "ulong" 8 false), "??"), (some (.boolean "flag" 1), "true")]
      ∧ ((Sample.start .queued).performAll Sample.assigning).catalog.get? "wide" = none
      ∧ ((Sample.start .queued).performAll Sample.assigning).Typed :=
  ⟨by decide +kernel, by decide +kernel,
    (typed_performAll (Sample.isStart_start .queued).isNew Sample.assigning).1⟩

end Session

end PcodePanel
