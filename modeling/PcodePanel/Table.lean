/-!
# Tables

A table gives every key a value; setting a key changes that one alone.
-/

namespace PcodePanel

/-- A value for every key. -/
abbrev Table (α β : Type) := α → β

namespace Table

variable {α β : Type} [DecidableEq α]

/-- The table with another value at a key. -/
def set (table : Table α β) (key : α) (value : β) : Table α β :=
  fun other => if other = key then value else table other

@[simp]
theorem set_same (table : Table α β) (key : α) (value : β) : table.set key value key = value :=
  if_pos rfl

theorem set_of_ne (table : Table α β) {key other : α} (value : β) (h : other ≠ key) :
    table.set key value other = table other :=
  if_neg h

end Table

end PcodePanel
