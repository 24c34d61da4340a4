import Mathlib.Data.List.Nodup
import PcodePanel.Catalog.Script

/-!
# Nested transactions

A transaction that fails puts back the types that the catalog had when it began, also those of
transactions that ended well inside of it. A script can be read without that: each step adds some
types for good, and a transaction that fails adds none. This module says that the two readings
agree, for steps nested in any way.

* `Catalog.Effect` — what a step comes to: the types that it adds, and the fault that leaves it;
* `Catalog.Step.effect` — the effect of a step, put together from those of its parts;
* `Catalog.comes_run` — a run of the step comes to its effect;
* `Catalog.Begun` — the steps that are begun in the course of a script, at any depth of nesting;
* `Catalog.transacts_of_begun` — the main result.
-/

namespace PcodePanel.Catalog

/-! ## Names -/

/-- No two types have the same name. -/
def Keyed (catalog : Catalog) : Prop :=
  (catalog.types.map DataType.name).Nodup

instance (catalog : Catalog) : Decidable catalog.Keyed :=
  inferInstanceAs (Decidable (List.Nodup _))

/-- Each name stands for the type that has it. -/
theorem Keyed.get?_eq_some_iff {catalog : Catalog} (keyed : catalog.Keyed) {name : String}
    {type : DataType} :
    catalog.get? name = some type ↔ type ∈ catalog.types ∧ type.name = name := by
  constructor
  · intro found
    exact ⟨List.mem_of_find?_eq_some found, by simpa using List.find?_some found⟩
  · rintro ⟨known, rfl⟩
    cases found : catalog.get? type.name with
    | none => exact absurd (List.find?_eq_none.mp found type known) (by simp)
    | some other =>
        have same : other.name = type.name := by simpa using List.find?_some found
        rw [List.inj_on_of_nodup_map keyed (List.mem_of_find?_eq_some found) known same]

theorem names_enter (types : List DataType) (type : DataType) :
    (enter types type).map DataType.name
      = if type.name ∈ types.map DataType.name then types.map DataType.name
        else types.map DataType.name ++ [type.name] := by
  unfold enter
  by_cases taken : types.any (·.name = type.name) = true
  · have listed : type.name ∈ types.map DataType.name := by simpa using taken
    rw [if_pos taken, if_pos listed, List.map_map]
    refine List.map_congr_left fun known _ => ?_
    show (if known.name = type.name then type else known).name = known.name
    split
    · next same => exact same.symm
    · rfl
  · have unlisted : type.name ∉ types.map DataType.name := by simpa using taken
    rw [if_neg taken, if_neg unlisted, List.map_append]
    rfl

/-- A catalog of any types has one for each name. -/
theorem keyed_ofList (types : List DataType) : (ofList types).Keyed := by
  have step : ∀ (types known : List DataType), (known.map DataType.name).Nodup →
      ((types.foldl enter known).map DataType.name).Nodup := by
    intro types
    induction types with
    | nil => exact fun _ keyed => keyed
    | cons type types ih =>
        intro known keyed
        refine ih _ ?_
        rw [names_enter]
        split
        · exact keyed
        · next unlisted =>
          exact keyed.append (List.nodup_singleton _) (by simpa using unlisted)
  exact step types [] List.nodup_nil

/-! ## Effects -/

/-- What steps come to: the types that they add, in order, and the fault that leaves them. -/
structure Effect where
  added : List DataType
  fault : Option Fault
deriving DecidableEq, Repr

mutual

/-- The effect of a step, where some types are known already. `inside` says whether the step stands
in a transaction. -/
def Step.effect (inside : Bool) (known : List DataType) : Step → Effect
  | .resolve type =>
    if inside then
      match known.find? (·.name = type.name) with
      | none => ⟨[type], none⟩
      | some other =>
        if other = type then ⟨[], none⟩ else ⟨[], some (.conflictingType type.name)⟩
    else ⟨[], some .noTransaction⟩
  | .get _ | .contains _ => ⟨[], none⟩
  | .raise fault => ⟨[], some fault⟩
  | .transaction body =>
    match Step.effectAll true known body with
    | ⟨added, none⟩ => ⟨added, none⟩
    | ⟨_, some fault⟩ => ⟨[], some fault⟩
  | .attempt body => ⟨(Step.effectAll inside known body).added, none⟩

/-- The effect of steps, up to the first fault. -/
def Step.effectAll (inside : Bool) (known : List DataType) : List Step → Effect
  | [] => ⟨[], none⟩
  | step :: steps =>
    match Step.effect inside known step with
    | ⟨added, none⟩ =>
      let rest := Step.effectAll inside (known ++ added) steps
      ⟨added ++ rest.added, rest.fault⟩
    | ⟨added, some fault⟩ => ⟨added, some fault⟩

end

/-- A result is what an effect says: its types are added to those of a catalog, and nothing else is
changed. -/
def Comes (catalog : Catalog) (effect : Effect) (result : Run × Option Fault) : Prop :=
  result.1.catalog = { catalog with types := catalog.types ++ effect.added }
    ∧ result.2 = effect.fault

section Runs

variable {inside : Bool} {run : Run}

/-- A run stands in a transaction, or in none. -/
def Run.Stands (run : Run) (inside : Bool) : Prop :=
  run.catalog.depth = 0 ↔ inside = false

theorem Run.stands_opened (run : Run) :
    (Run.note { run with catalog := run.catalog.opened } .began).Stands true := by
  simp [Run.Stands, Run.note, opened]

/-- What has been added inside of a transaction is kept at its end, or not. -/
theorem closed_eq {catalog after : Catalog} {added : List DataType}
    (types : after = { catalog.opened with types := catalog.types ++ added }) (succeeded : Bool) :
    closed catalog after succeeded
      = { catalog with types := if succeeded then catalog.types ++ added else catalog.types } := by
  rw [types]
  rfl

/-- What an effect adds leaves a run where it stands. -/
theorem Comes.stands {effect : Effect} {result : Run × Option Fault}
    (comes : Comes run.catalog effect result) (stands : run.Stands inside) :
    result.1.Stands inside := by
  rw [Run.Stands, comes.1]
  exact stands

mutual

/-- A run of a step comes to the effect of the step. -/
theorem comes_run {inside : Bool} {run : Run} (stands : run.Stands inside) :
    (step : Step) → Comes run.catalog (step.effect inside run.catalog.types) (step.run run)
  | .resolve type => by
    unfold Step.run Step.effect resolve
    by_cases closed : run.catalog.depth = 0
    · rw [if_pos closed, stands.mp closed]
      exact ⟨by simp, rfl⟩
    · have isInside : inside = true := by simpa using mt stands.mpr closed
      rw [if_neg closed, isInside, if_pos rfl]
      have lookup : run.catalog.types.find? (·.name = type.name) = run.catalog.get? type.name := rfl
      rw [lookup]
      cases run.catalog.get? type.name with
      | none => exact ⟨rfl, rfl⟩
      | some known =>
          by_cases same : known = type
          · simp only [same, if_true]
            exact ⟨by simp [Run.note], rfl⟩
          · simp only [same, if_false]
            exact ⟨by simp, rfl⟩
  | .get name => ⟨by simp [Step.run, Step.effect, Run.note], rfl⟩
  | .contains name => ⟨by simp [Step.run, Step.effect, Run.note], rfl⟩
  | .raise fault => ⟨by simp [Step.run, Step.effect], rfl⟩
  | .transaction body => by
    have inner := comes_runAll run.stands_opened body
    unfold Step.run Step.effect
    change Comes run.catalog.opened (Step.effectAll true run.catalog.types body) _ at inner
    generalize Step.effectAll true run.catalog.types body = effect at inner ⊢
    obtain ⟨added, fault⟩ := effect
    dsimp only
    generalize Step.runAll _ body = result at inner ⊢
    obtain ⟨after, left⟩ := result
    obtain ⟨types, rfl⟩ := inner
    -- What the body has added is kept, or the start is put back.
    cases left with
    | none => exact ⟨closed_eq types true, rfl⟩
    | some fault => exact ⟨(closed_eq types false).trans (by simp), rfl⟩
  | .attempt body => by
    obtain ⟨types, _⟩ := comes_runAll stands body
    unfold Step.run Step.effect
    split
    · next ended =>
      rw [ended] at types
      exact ⟨types, rfl⟩
    · next ended =>
      rw [ended] at types
      exact ⟨types, rfl⟩

/-- A run of steps comes to the effect of the steps. -/
theorem comes_runAll {inside : Bool} {run : Run} (stands : run.Stands inside) :
    (steps : List Step) →
      Comes run.catalog (Step.effectAll inside run.catalog.types steps) (Step.runAll run steps)
  | [] => ⟨by simp [Step.runAll, Step.effectAll], rfl⟩
  | step :: steps => by
    have first := comes_run stands step
    have stands' := first.stands stands
    unfold Step.runAll Step.effectAll
    generalize step.effect inside run.catalog.types = effect at first ⊢
    obtain ⟨added, fault⟩ := effect
    generalize step.run run = result at first stands' ⊢
    obtain ⟨after, left⟩ := result
    obtain ⟨types, rfl⟩ := first
    cases left with
    | some fault => exact ⟨types, rfl⟩
    | none =>
        obtain ⟨rest, fault⟩ := comes_runAll stands' steps
        rw [types] at rest fault
        refine ⟨?_, fault⟩
        rw [rest, List.append_assoc]

end

mutual

/-- What a step adds has names of its own. -/
theorem nodup_effect (inside : Bool) {known : List DataType}
    (keyed : (known.map DataType.name).Nodup) :
    (step : Step) → ((known ++ (step.effect inside known).added).map DataType.name).Nodup
  | .resolve type => by
    unfold Step.effect
    split
    · split
      · next unknown =>
        have fresh : ∀ other ∈ known, other.name ≠ type.name := by simpa using unknown
        rw [List.map_append]
        refine keyed.append (List.nodup_singleton _) ?_
        simpa using fresh
      · split <;> simpa using keyed
    · simpa using keyed
  | .get _ | .contains _ | .raise _ => by simpa [Step.effect] using keyed
  | .transaction body => by
    have inner := nodup_effectAll true keyed body
    unfold Step.effect
    split
    · next ended =>
      rw [ended] at inner
      exact inner
    · simpa using keyed
  | .attempt body => nodup_effectAll inside keyed body

theorem nodup_effectAll (inside : Bool) {known : List DataType}
    (keyed : (known.map DataType.name).Nodup) :
    (steps : List Step) →
      ((known ++ (Step.effectAll inside known steps).added).map DataType.name).Nodup
  | [] => by simpa [Step.effectAll] using keyed
  | step :: steps => by
    have first := nodup_effect inside keyed step
    unfold Step.effectAll
    split
    · next ended =>
      rw [ended] at first
      have rest := nodup_effectAll inside first steps
      rwa [List.append_assoc] at rest
    · next ended =>
      rw [ended] at first
      exact first

end

/-! ## Steps in the course of a script -/

/-- A step that is begun: the run that it begins at, and whether it stands in a transaction. -/
structure Point where
  inside : Bool
  run : Run
  step : Step

/-- The steps that are begun when steps are run in order, those in the bodies of others included. -/
inductive Begun : Bool → Run → List Step → Point → Prop
  | here {inside run step steps} : Begun inside run (step :: steps) ⟨inside, run, step⟩
  | later {inside run after step steps point} : step.run run = (after, none) →
      Begun inside after steps point → Begun inside run (step :: steps) point
  | transaction {inside run body steps point} :
      Begun true (Run.note { run with catalog := run.catalog.opened } .began) body point →
      Begun inside run (.transaction body :: steps) point
  | attempt {inside run body steps point} : Begun inside run body point →
      Begun inside run (.attempt body :: steps) point

/-- A run of a script that began with some catalog: it still knows all types of that catalog, and
one for each name. -/
structure Run.Follows (run : Run) (start : Catalog) (inside : Bool) : Prop where
  stands : run.Stands inside
  knows : start.types <+: run.catalog.types
  keyed : run.catalog.Keyed

section Follows

variable {start : Catalog} {inside : Bool} {run : Run} {steps : List Step} {point : Point}

/-- It does so after each step. -/
theorem Run.Follows.after (h : run.Follows start inside) (step : Step) :
    (step.run run).1.Follows start inside := by
  have comes := comes_run h.stands step
  refine ⟨comes.stands h.stands, ?_, ?_⟩
  · rw [comes.1]
    exact h.knows.trans (List.prefix_append ..)
  · rw [Keyed, comes.1]
    exact nodup_effect inside h.keyed step

theorem Run.Follows.opened (h : run.Follows start inside) :
    (Run.note { run with catalog := run.catalog.opened } .began).Follows start true :=
  ⟨run.stands_opened, h.knows, h.keyed⟩

/-- It does so wherever a step is begun. -/
theorem follows_of_begun (begun : Begun inside run steps point) (h : run.Follows start inside) :
    point.run.Follows start point.inside := by
  induction begun with
  | here => exact h
  | @later _ _ _ step _ _ ended _ ih =>
      have after := h.after step
      rw [ended] at after
      exact ih after
  | transaction _ ih => exact ih h.opened
  | attempt _ ih => exact ih h

/-- What was known at the start means the same now. -/
theorem Run.Follows.get? (h : run.Follows start inside) {name : String} {type : DataType}
    (found : start.get? name = some type) : run.catalog.get? name = some type :=
  h.knows.find?_eq_some found

end Follows

/-- What a step does to a catalog, in the course of a script that began with `start`. -/
structure Transacts (start : Catalog) (inside : Bool) (before : Catalog) (step : Step)
    (result : Run × Option Fault) : Prop where
  comes : Comes before (step.effect inside before.types) result
  /-- A transaction that a fault leaves has changed nothing. -/
  undone : ∀ body fault, step = .transaction body → result.2 = some fault →
    result.1.catalog = before
  /-- A transaction that ends well keeps what its body adds for good. -/
  kept : ∀ body, step = .transaction body → result.2 = none →
    result.1.catalog
      = { before with types := before.types ++ (Step.effectAll true before.types body).added }
  /-- To resolve a type is refused outside of transactions, and a refusal changes nothing. -/
  refused : ∀ type, step = .resolve type →
    (result.2 = some .noTransaction ↔ inside = false)
      ∧ ∀ fault, result.2 = some fault → result.1.catalog = before
  /-- What the start knew is known all the time. -/
  known : ∀ name type, start.get? name = some type →
    before.get? name = some type ∧ result.1.catalog.get? name = some type
  /-- Each name stands for the one type that has it. -/
  named : ∀ name type,
    (before.get? name = some type ↔ type ∈ before.types ∧ type.name = name)
      ∧ (result.1.catalog.get? name = some type
        ↔ type ∈ result.1.catalog.types ∧ type.name = name)

theorem Run.Follows.transacts {start : Catalog} {inside : Bool} {run : Run}
    (h : run.Follows start inside) (step : Step) :
    Transacts start inside run.catalog step (step.run run) := by
  have comes := comes_run h.stands step
  have after := h.after step
  refine ⟨comes, ?_, ?_, ?_, ?_, ?_⟩
  · rintro body fault rfl left
    obtain ⟨types, effect⟩ := comes
    rw [effect, Step.effect] at left
    rw [types, Step.effect]
    split at left
    · cases left
    · simp
  · rintro body rfl left
    obtain ⟨types, effect⟩ := comes
    rw [effect, Step.effect] at left
    rw [types, Step.effect]
    split at left
    · next ended => rw [ended]
    · cases left
  · rintro type rfl
    obtain ⟨types, effect⟩ := comes
    rw [effect, types, Step.effect]
    split
    · next isInside =>
      split
      · simp [isInside]
      · split <;> simp [isInside]
    · next outside => simp [outside]
  · exact fun name type found => ⟨h.get? found, after.get? found⟩
  · exact fun name type => ⟨h.keyed.get?_eq_some_iff, after.keyed.get?_eq_some_iff⟩

/-- **All or nothing.** A script that begins outside of transactions comes to its effect, and so
does each step that is begun in its course, at any depth: a transaction that a fault leaves has
changed nothing, one that ends well keeps what its steps have added and no failed transaction inside
has taken back, and the fault that an attempt catches undoes no more than the transactions that it
passed through. A type is resolved just where a transaction is open around the step. All the time
each name stands for a type of that name, and what was known at the start stays as it was. -/
theorem transacts_of_begun {catalog : Catalog} (closed : catalog.depth = 0)
    (keyed : catalog.Keyed) (journal : List (Note × List String)) (script : List Step) :
    Comes catalog (Step.effectAll false catalog.types script) (Step.runAll ⟨catalog, journal⟩ script)
      ∧ ∀ point : Point, Begun false ⟨catalog, journal⟩ script point →
        Transacts catalog point.inside point.run.catalog point.step
          (point.step.run point.run) := by
  have first : Run.Follows ⟨catalog, journal⟩ catalog false :=
    ⟨iff_of_true closed rfl, List.prefix_refl _, keyed⟩
  refine ⟨comes_runAll first.stands script, ?_⟩
  intro point begun
  exact (follows_of_begun begun first).transacts point.step

/-- A transaction inside of an attempt commits another one and then fails on a name that is taken.
The transaction around the attempt goes on. -/
def Sample.nested : List Step :=
  [.transaction
    [.resolve (.boolean "a" 1),
     .attempt
      [.transaction
        [.resolve (.character "b" 1), .transaction [.resolve (.integer "c" 2 true)],
         .resolve (.integer "word" 8 false)]],
     .resolve (.boolean "d" 1)],
   .attempt [.resolve (.boolean "e" 1)]]

/-- The catalog that it begins with. -/
def Sample.words : Catalog :=
  .ofList [.integer "word" 4 false]

theorem transacts_nested :
    (Step.runAll ⟨Sample.words, []⟩ Sample.nested).1.catalog
        = { Sample.words with
            types := [.integer "word" 4 false, .boolean "a" 1, .boolean "d" 1] }
      ∧ ∃ point : Point, Begun false ⟨Sample.words, []⟩ Sample.nested point
        ∧ point.inside = true
        ∧ point.run.catalog.types = [.integer "word" 4 false, .boolean "a" 1]
        ∧ (point.step.run point.run).2 = some (.conflictingType "word")
        ∧ Transacts Sample.words point.inside point.run.catalog point.step
          (point.step.run point.run) := by
  have keyed : Sample.words.Keyed := keyed_ofList _
  obtain ⟨_, transacts⟩ :=
    transacts_of_begun (show Sample.words.depth = 0 from rfl) keyed [] Sample.nested
  have begun : Begun false ⟨Sample.words, []⟩ Sample.nested _ :=
    .transaction (.later rfl (.attempt .here))
  exact ⟨by decide +kernel, _, begun, rfl, by decide +kernel, by decide +kernel,
    transacts _ begun⟩

end Runs

end PcodePanel.Catalog
