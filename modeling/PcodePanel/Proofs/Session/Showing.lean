import PcodePanel.Proofs.Session.Agreement

/-!
# What a plan comes to

Two sessions that follow the same and keep the same have the same to do, up to whether the panel
waits for a request already. What is shown depends on nothing else.

* `Session.plan_cases` — plans over the same emulators;
* `Panel.ShownBy` — what a panel shows when a plan has been carried out;
* `Panel.ShownBy.sameDisplay` — it is determined by the plan.
-/

namespace PcodePanel

namespace Panel

/-- What is on display is the same. -/
structure SameDisplay (p q : Panel) : Prop where
  state : p.state = q.state
  rows : p.rows = q.rows
  nextRow : p.nextRow = q.nextRow
  uniques : p.uniques = q.uniques

/-- What is on display is the same, and so is what it is of. -/
structure SameView (p q : Panel) : Prop extends p.SameDisplay q where
  current : p.current = q.current
  previous : p.previous = q.previous
  generation : p.generation = q.generation

theorem SameDisplay.ofBlank {p q : Panel} {rows : List Row} (state : p.state = q.state)
    (first : p.Blank rows) (second : q.Blank rows) : p.SameDisplay q :=
  ⟨state, first.rows.trans second.rows.symm, first.nextRow.trans second.nextRow.symm,
    first.uniques.trans second.uniques.symm⟩

variable {indent : Option Bool} {memories : MemoryId → Memory} {p p' q q' : Panel}

/-- What is shown of an emulator does not depend on what was shown before. -/
theorem Shown.sameDisplay {emulator : Emulator} {path : String}
    (first : Shown indent memories emulator path p p')
    (second : Shown indent memories emulator path q q') : p'.SameDisplay q' := by
  have blank : ∀ (panel : Panel) (state : LoadState) (kind : PlaceholderKind),
      (panel.showPlaceholder state kind none).Blank [.ofKind kind none] := fun _ _ _ =>
    ⟨rfl, rfl, rfl, rfl⟩
  cases first with
  | missing absent =>
      cases second with
      | missing => exact .ofBlank rfl (blank _ _ _) (blank _ _ _)
      | undecoded found | decoded found =>
          rw [absent] at found
          cases found
  | undecoded found undecoded =>
      cases second with
      | missing absent =>
          rw [absent] at found
          cases found
      | undecoded => exact .ofBlank rfl (blank _ _ _) (blank _ _ _)
      | decoded found' hasFrame =>
          rw [found] at found'
          injection found' with same
          rw [← same, undecoded] at hasFrame
          cases hasFrame
  | decoded found hasFrame listed values =>
      cases second with
      | missing absent =>
          rw [absent] at found
          cases found
      | undecoded found' undecoded =>
          rw [found] at found'
          injection found' with same
          rw [← same, hasFrame] at undecoded
          cases undecoded
      | decoded found' hasFrame' listed' values' =>
          rw [found] at found'
          injection found' with sameThread
          subst sameThread
          rw [hasFrame] at hasFrame'
          injection hasFrame' with sameFrame
          subst sameFrame
          rw [listed] at listed'
          injection listed' with sameListing
          rw [values] at values'
          injection values' with sameUniques
          subst sameListing
          subst sameUniques
          exact ⟨rfl, rfl, rfl, rfl⟩

/-- What a panel shows when a plan has been carried out. -/
inductive ShownBy (indent : Option Bool) (memories : MemoryId → Memory) (thread : Option String) :
    Plan → Panel → Prop
  | nothing {p : Panel} : p.state = .noCoordinates → p.Blank [] →
      ShownBy indent memories thread .nothing p
  | placeholder {p : Panel} {state : LoadState} {kind : PlaceholderKind} : p.state = state →
      p.Blank [.ofKind kind none] →
      ShownBy indent memories thread (.placeholder state kind) p
  | display {p q : Panel} {emulator : Emulator} {path : String} : thread = some path →
      Shown indent memories emulator path q p →
      ShownBy indent memories thread (.display emulator) p
  | wait {p : Panel} : p.state = .loading → p.Blank [.ofKind .loading none] →
      ShownBy indent memories thread .wait p
  | ask {p : Panel} {service : ServiceId} : p.state = .loading → p.Blank [.ofKind .loading none] →
      ShownBy indent memories thread (.ask service) p

variable {thread : Option String} {plan : Plan}

theorem ShownBy.sameDisplay (first : ShownBy indent memories thread plan p)
    (second : ShownBy indent memories thread plan q) : p.SameDisplay q := by
  cases first with
  | nothing state blank =>
      cases second with
      | nothing state' blank' => exact .ofBlank (state.trans state'.symm) blank blank'
  | placeholder state blank =>
      cases second with
      | placeholder state' blank' => exact .ofBlank (state.trans state'.symm) blank blank'
  | display focused shown =>
      cases second with
      | display focused' shown' =>
          rw [focused] at focused'
          injection focused' with samePath
          subst samePath
          exact shown.sameDisplay shown'
  | wait state blank =>
      cases second with
      | wait state' blank' => exact .ofBlank (state.trans state'.symm) blank blank'
  | ask state blank =>
      cases second with
      | ask state' blank' => exact .ofBlank (state.trans state'.symm) blank blank'

end Panel

namespace Session

variable {s s' : Session}

/-- A reload carries out its plan, if the panel shows that it waits where it does. -/
theorem Reloaded.shownBy (reloaded : Reloaded s s')
    (waits : s.plan = .wait → s.panel.Blank [.ofKind .loading none]) :
    Panel.ShownBy s.config.indent s.memory s.panel.current.thread s.plan s'.panel := by
  cases reloaded with
  | nothing plan =>
      rw [plan]
      exact .nothing rfl ⟨rfl, rfl, rfl, rfl⟩
  | placeholder plan =>
      rw [plan]
      exact .placeholder rfl ⟨rfl, rfl, rfl, rfl⟩
  | display plan focused shown =>
      rw [plan]
      exact .display focused shown
  | wait plan =>
      rw [plan]
      exact .wait rfl ((waits plan).congr rfl rfl rfl rfl)
  | ask plan =>
      rw [plan]
      exact .ask rfl ⟨rfl, rfl, rfl, rfl⟩

/-- Over the same emulators there is the same to do, but that one session may wait for what another
one asks for. -/
theorem plan_cases {a b : Session} (service : a.panel.service = b.panel.service)
    (current : a.panel.current = b.panel.current)
    (cached : ∀ service key, (a.services service).cached? key = (b.services service).cached? key)
    (idle : b.isWaiting = false) :
    a.plan = b.plan ∨ a.plan = .wait ∧ ∃ service, b.plan = .ask service := by
  unfold plan
  rw [service, current]
  split
  · next live trace _ _ =>
    rw [cached]
    split
    · exact .inl rfl
    · split
      · exact .inl rfl
      · split
        · exact .inl rfl
        -- Only here it matters whether the panel waits.
        · rw [idle]
          by_cases waits : a.isWaiting = true
          · rw [if_pos waits]
            exact .inr ⟨rfl, live, rfl⟩
          · rw [if_neg waits]
            exact .inl rfl
  · exact .inl rfl

end Session

end PcodePanel
