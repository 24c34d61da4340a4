import Mathlib.Data.Nat.Count
import PcodePanel.Proofs.Pcode.Labels

/-!
# Where templates stand

A label takes a place of its own in front of the operation that it belongs to. So the template of an
operation stands as many places further down as there are targets up to the operation, and the label
of a target as many as there are targets before it.

* `Template.reached` — the targets of the branches in a list of operations;
* `Template.layout_split` — how many templates stand before the operation at a position;
* `Template.split_at_op`, `Template.split_at_label` — where operations and labels stand;
* `Template.card_reached_le` — there are no more targets than branches.
-/

namespace PcodePanel

/-- Whether an operation is a branch, conditional or not, to a place that its first input gives. -/
def MicroOp.isBranch (op : MicroOp) : Bool :=
  op.opcode = Opcode.branch || op.opcode = Opcode.cbranch

theorem MicroOp.isBranch_of_distance? {op : MicroOp} {distance : Varnode}
    (branch : op.distance? = some distance) : op.isBranch = true := by
  unfold distance? at branch
  split at branch
  · cases branch
  · split at branch
    next here => simpa [isBranch] using here.1
    next => cases branch

namespace Template

/-! ## Targets -/

instance (ops : List MicroOp) (position target : Nat) :
    Decidable (BranchesTo ops position target) :=
  decidable_of_iff
    (∃ op ∈ ops[position]?, ∃ distance ∈ op.distance?, ∃ offset ∈ distance.signedOffset.toOption,
      (target : Int) = position + offset ∧ target ≤ ops.length) (by
    simp only [BranchesTo, toOption_eq_some_iff, Option.mem_def, exists_and_left])

/-- The targets of the branches in a list of operations. -/
def reached (ops : List MicroOp) : Finset Nat :=
  {target ∈ Finset.range (ops.length + 1) | ∃ position < ops.length, BranchesTo ops position target}

variable {ops : List MicroOp} {templates : List Template} {labels : List Nat}
  {pairs : List (MicroOp × Option Nat)} {start target position : Nat}

theorem mem_reached : target ∈ reached ops ↔ ∃ position, BranchesTo ops position target := by
  rw [reached, Finset.mem_filter, Finset.mem_range]
  constructor
  · rintro ⟨_, position, _, branches⟩
    exact ⟨position, branches⟩
  · rintro ⟨position, branches⟩
    have there := branches
    obtain ⟨op, _, _, found, _, _, _, inside⟩ := there
    exact ⟨by omega, position, (List.getElem?_eq_some_iff.mp found).1, branches⟩

/-- The place of an operation's template. -/
def opPlace (ops : List MicroOp) (position : Nat) : Nat :=
  position + ((reached ops).filter (· ≤ position)).card

/-- The place of a target's label. -/
def labelPlace (ops : List MicroOp) (target : Nat) : Nat :=
  target + ((reached ops).filter (· < target)).card

/-! ## Places in a layout -/

theorem length_labelAt (labels : List Nat) (position : Nat) :
    (labelAt labels position).length = if position ∈ labels then 1 else 0 := by
  unfold labelAt
  split <;> rfl

theorem opCount_labelAt (labels : List Nat) (position : Nat) :
    opCount (labelAt labels position) = 0 := by
  rw [opCount, filterMap_op?_labelAt, List.length_nil]

/-- Before the operation at some distance from the start stand as many operations, and a label for
each of their positions that needs one. -/
theorem layout_split (labels : List Nat) (start : Nat) {distance : Nat}
    (inside : distance ≤ pairs.length) :
    ∃ first, layout labels pairs start
        = first ++ layout labels (pairs.drop distance) (start + distance)
      ∧ opCount first = distance
      ∧ first.length = distance + Nat.count (fun i => start + i ∈ labels) distance := by
  induction distance generalizing start pairs with
  | zero => exact ⟨[], rfl, rfl, rfl⟩
  | succ distance ih =>
      cases pairs with
      | nil => simp at inside
      | cons pair pairs =>
          rw [List.length_cons] at inside
          obtain ⟨first, split, count, length⟩ := @ih pairs (start + 1) (by omega)
          have later : ∀ i, start + 1 + i = start + (i + 1) := by omega
          simp only [later] at split length
          refine ⟨labelAt labels start ++ op (ofOp labels pair.1 pair.2) :: first, ?_, ?_, ?_⟩
          · rw [layout, split, List.append_assoc, List.cons_append, List.drop_succ_cons]
          · rw [opCount_append, opCount_labelAt, opCount_op, count]
            omega
          · rw [List.length_append, List.length_cons, length_labelAt, length, Nat.count_succ']
            simp only [Nat.add_zero]
            omega

/-- The number of labels among templates and that of operations add up. -/
theorem length_eq_opCount_add (templates : List Template) :
    templates.length = opCount templates + (templates.filterMap label?).length := by
  induction templates with
  | nil => rfl
  | cons template templates ih =>
      cases template with
      | label number =>
          rw [List.length_cons, ih, opCount_label, List.filterMap_cons_some (label?_label number),
            List.length_cons]
          omega
      | op template =>
          rw [List.length_cons, ih, opCount_op, List.filterMap_cons_none (label?_op template)]
          omega

/-! ## Places in derived templates -/

section Derived

variable {found : List (Option Nat)} (done : targets ops = .ok found)
include done

theorem count_labelled (bound : Nat) :
    Nat.count (fun i => 0 + i ∈ labelled found ops.length) bound
      = ((reached ops).filter (· < bound)).card := by
  rw [Nat.count_eq_card_filter_range]
  congr 1
  ext target
  simp only [Nat.zero_add, Finset.mem_filter, Finset.mem_range, mem_labelled done, mem_reached]
  exact and_comm

/-- There is a label for each target. -/
theorem card_reached : (reached ops).card = (labelled found ops.length).length := by
  have distinct : (labelled found ops.length).Nodup := List.nodup_range.filter _
  rw [← List.toFinset_card_of_nodup distinct]
  congr 1
  ext target
  rw [mem_reached, List.mem_toFinset, mem_labelled done]

end Derived

theorem exists_layout_eq (labels : List Nat) (pairs : List (MicroOp × Option Nat)) (start : Nat) :
    ∃ rest, layout labels pairs start = labelAt labels start ++ rest := by
  cases pairs with
  | nil => exact ⟨[], (List.append_nil _).symm⟩
  | cons pair pairs => exact ⟨_, rfl⟩

/-- The template of an operation stands at its place. -/
theorem split_at_op (derived : ofOps ops = .ok templates) (inside : position < ops.length) :
    ∃ first template last, templates = first ++ op template :: last ∧ opCount first = position
      ∧ first.length = opPlace ops position := by
  obtain ⟨found, done, rfl⟩ := ofOps_eq_layout derived
  have inPairs : position < (ops.zip found).length := by rwa [length_zip_of_targets done]
  obtain ⟨first, split, count, length⟩ := layout_split (labelled found ops.length) 0
    (Nat.le_of_lt inPairs)
  rw [List.drop_eq_getElem_cons inPairs, layout, Nat.zero_add] at split
  refine ⟨first ++ labelAt (labelled found ops.length) position, _, _,
    split.trans (List.append_assoc _ _ _).symm, ?_, ?_⟩
  · rw [opCount_append, count, opCount_labelAt, Nat.add_zero]
  · have upTo := Nat.count_succ (fun i => 0 + i ∈ labelled found ops.length) position
    have same : (reached ops).filter (· < position + 1) = (reached ops).filter (· ≤ position) := by
      simp only [Nat.lt_succ_iff]
    rw [count_labelled done, same] at upTo
    simp only [Nat.zero_add] at upTo length
    rw [List.length_append, length, length_labelAt, opPlace, upTo]
    omega

/-- The label of a target stands at its place, and is numbered by the targets before it. -/
theorem split_at_label (derived : ofOps ops = .ok templates) (needed : target ∈ reached ops) :
    ∃ first last, templates
        = first ++ label (((reached ops).filter (· < target)).card : Nat) :: last
      ∧ first.length = labelPlace ops target := by
  obtain ⟨found, done, rfl⟩ := ofOps_eq_layout derived
  have member := (mem_labelled done).mpr (mem_reached.mp needed)
  have inPairs : target ≤ (ops.zip found).length := by
    obtain ⟨_, _, _, _, _, _, _, _, inside⟩ := mem_reached.mp needed
    rwa [length_zip_of_targets done]
  obtain ⟨first, split, count, length⟩ := layout_split (labelled found ops.length) 0 inPairs
  obtain ⟨rest, here⟩ := exists_layout_eq (labelled found ops.length)
    ((ops.zip found).drop target) (0 + target)
  rw [here, Nat.zero_add, labelAt, if_pos member, List.singleton_append] at split
  rw [count_labelled done] at length
  -- Labels are numbered by how many come before them.
  have number : labelNumber (labelled found ops.length) target
      = ((reached ops).filter (· < target)).card := by
    have labels := filterMap_label?_ofOps done
    have sum := length_eq_opCount_add first
    rw [split, List.filterMap_append, List.filterMap_cons_some (label?_label _)] at labels
    have there := congrArg (·[(first.filterMap label?).length]?) labels
    simp only [List.getElem?_append_right (Nat.le_refl _), Nat.sub_self, List.getElem?_cons_zero,
      List.getElem?_map] at there
    obtain ⟨rank, found, same⟩ := Option.map_eq_some_iff.mp there.symm
    have rank : (first.filterMap label?).length = rank := by
      obtain ⟨_, same⟩ := List.getElem?_eq_some_iff.mp found
      rwa [List.getElem_range] at same
    rw [← same, ← rank]
    show ((first.filterMap label?).length : Int) = _
    omega
  exact ⟨first, rest, by rw [← number]; exact split, length⟩

theorem length_of_ofOps (derived : ofOps ops = .ok templates) :
    templates.length = ops.length + (reached ops).card := by
  obtain ⟨found, done, rfl⟩ := ofOps_eq_layout derived
  rw [length_eq_opCount_add, filterMap_label?_ofOps done, List.length_map, List.length_range,
    card_reached done, opCount, filterMap_op?_layout, List.length_map, length_zip_of_targets done]

/-! ## Targets and branches -/

theorem isBranch_of_target? {operation : MicroOp} {count : Nat}
    (goes : operation.target? position count = .ok (some target)) : operation.isBranch = true := by
  obtain ⟨_, _, branch, _⟩ := target?_eq_ok_iff.mp goes
  exact operation.isBranch_of_distance? branch

theorem length_goals_le {found : List (Option Nat)} {count : Nat}
    (each : List.Forall₂ (fun pair goal => MicroOp.target? pair.1 pair.2 count = .ok goal)
      (ops.zipIdx start) found) :
    (found.filterMap id).length ≤ ops.countP MicroOp.isBranch := by
  induction ops generalizing start found with
  | nil =>
      cases each
      exact Nat.le_refl _
  | cons operation ops ih =>
      rw [List.zipIdx_cons] at each
      obtain ⟨goal, rest, goes, others, rfl⟩ := List.forall₂_cons_left_iff.mp each
      have later := ih others
      rw [List.countP_cons]
      cases goal with
      | none => exact Nat.le_add_right_of_le later
      | some target =>
          rw [if_pos (isBranch_of_target? goes)]
          exact Nat.succ_le_succ later

/-- There are no more targets than branches. -/
theorem card_reached_le (derived : ofOps ops = .ok templates) :
    (reached ops).card ≤ ops.countP MicroOp.isBranch := by
  obtain ⟨found, done, _⟩ := ofOps_eq_layout derived
  have among : reached ops ⊆ (found.filterMap id).toFinset := by
    intro target member
    obtain ⟨position, branches⟩ := mem_reached.mp member
    rw [List.mem_toFinset, List.mem_filterMap]
    exact ⟨some target, List.mem_of_getElem? ((branchesTo_iff done).mp branches), rfl⟩
  calc (reached ops).card
      ≤ (found.filterMap id).toFinset.card := Finset.card_le_card among
    _ ≤ (found.filterMap id).length := List.toFinset_card_le _
    _ ≤ ops.countP MicroOp.isBranch := length_goals_le (mapM_eq_ok_iff.mp done)

end Template

end PcodePanel
