import PcodePanel.DataType

/-!
# Catalogs

A catalog knows data types by their names. A type is resolved inside a transaction: a new name is
added, a known one must mean an equal type. A transaction that fails leaves the catalog as it was
when it began; transactions may be nested.

* `Catalog.resolve` is the only operation that adds a type;
* `Catalog.transaction` runs a body and undoes it if it fails.
-/

namespace PcodePanel

/-- The known types, in the order in which their names appeared, and how many transactions are
open. -/
structure Catalog where
  types : List DataType := []
  depth : Nat := 0
deriving DecidableEq, Repr

namespace Catalog

/-- Adds a type under its name, in the place of one that has the name already. -/
def enter (types : List DataType) (type : DataType) : List DataType :=
  if types.any (·.name = type.name) then
    types.map fun known => if known.name = type.name then type else known
  else types ++ [type]

/-- The catalog of a list of types; of several with one name, the last counts. -/
def ofList (types : List DataType) : Catalog :=
  ⟨types.foldl enter [], 0⟩

/-- The catalog of the built-in types. -/
def builtin : Catalog :=
  .ofList DataType.builtin

/-- The type of a name. -/
def get? (catalog : Catalog) (name : String) : Option DataType :=
  catalog.types.find? (·.name = name)

/-- Whether a name is known. -/
def contains (catalog : Catalog) (name : String) : Bool :=
  (catalog.get? name).isSome

/-- The known names, in the order of their characters' codes. -/
def names (catalog : Catalog) : List String :=
  (catalog.types.map DataType.name).mergeSort fun a b => decide (a ≤ b)

/-- The catalog's own type that stands for a type. -/
def resolve (catalog : Catalog) (type : DataType) : Except Fault (DataType × Catalog) :=
  if catalog.depth = 0 then .error .noTransaction
  else
    match catalog.get? type.name with
    | none => .ok (type, { catalog with types := catalog.types ++ [type] })
    | some known =>
      if known = type then .ok (known, catalog) else .error (.conflictingType type.name)

/-- The catalog inside of a new transaction. -/
def opened (catalog : Catalog) : Catalog :=
  { catalog with depth := catalog.depth + 1 }

/-- The catalog after a transaction that began with `before` and reached `after`: what was done
stays if it succeeded, and is undone otherwise. -/
def closed (before after : Catalog) (succeeded : Bool) : Catalog :=
  { types := if succeeded then after.types else before.types, depth := after.depth - 1 }

/-- Runs a body in a transaction. The body says what it reached even when it fails. -/
def transaction {α : Type} (catalog : Catalog) (body : Catalog → Except Fault α × Catalog) :
    Except Fault α × Catalog :=
  match body catalog.opened with
  | (.ok result, after) => (.ok result, closed catalog after true)
  | (.error fault, after) => (.error fault, closed catalog after false)

end Catalog

end PcodePanel
