import PcodePanel.Catalog.Basic

/-!
# Catalog scripts

A script is a finite program over a catalog: it resolves and looks up types, fails, and nests
transactions and attempts. What happens is noted in a journal, each note with the names that the
catalog knows then.

* `Catalog.Step.run` runs a step. A fault leaves every body that it passes through, until an
  attempt catches it.
-/

namespace PcodePanel.Catalog

/-- One step of a script. -/
inductive Step
  | resolve (type : DataType)
  | get (name : String)
  | contains (name : String)
  | raise (fault : Fault)
  | transaction (body : List Step)
  /-- Catches the fault of its body. -/
  | attempt (body : List Step)

instance : Inhabited Step := ⟨.attempt []⟩

/-- What a journal notes. -/
inductive Note
  /-- The type that a resolution answered with; whether it equals the type that was asked for, and
  whether it is the catalog's type of that name. -/
  | resolved (type : DataType) (equal known : Bool)
  | found (type : Option DataType)
  | present (known : Bool)
  | began
  | committed
  | caught (fault : Fault)
deriving DecidableEq, Repr

/-- A catalog with the journal of what happened to it. -/
structure Run where
  catalog : Catalog
  journal : List (Note × List String) := []
deriving DecidableEq, Repr

/-- Adds a note with the names known now. -/
def Run.note (run : Run) (note : Note) : Run :=
  { run with journal := run.journal ++ [(note, run.catalog.names)] }

mutual

/-- Runs a step: the run that is reached, and the fault that leaves the step, if one does. -/
def Step.run (run : Run) : Step → Run × Option Fault
  | .resolve type =>
    match run.catalog.resolve type with
    | .ok (result, catalog) =>
      let run := { run with catalog }
      let known := catalog.get? result.name = some result
      (run.note (.resolved result (result = type) known), none)
    | .error fault => (run, some fault)
  | .get name => (run.note (.found (run.catalog.get? name)), none)
  | .contains name => (run.note (.present (run.catalog.contains name)), none)
  | .raise fault => (run, some fault)
  | .transaction body =>
    let before := run.catalog
    let inside := { run with catalog := before.opened }
    match Step.runAll (inside.note .began) body with
    | (after, none) =>
      (Run.note { after with catalog := closed before after.catalog true } .committed, none)
    | (after, some fault) =>
      ({ after with catalog := closed before after.catalog false }, some fault)
  | .attempt body =>
    match Step.runAll run body with
    | (after, none) => (after, none)
    | (after, some fault) => (after.note (.caught fault), none)

/-- Runs steps in order, up to the first fault. -/
def Step.runAll (run : Run) : List Step → Run × Option Fault
  | [] => (run, none)
  | step :: steps =>
    match Step.run run step with
    | (after, none) => Step.runAll after steps
    | (after, some fault) => (after, some fault)

end

end PcodePanel.Catalog
