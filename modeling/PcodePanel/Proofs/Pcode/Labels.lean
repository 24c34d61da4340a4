import Mathlib.Data.List.Forall2
import PcodePanel.Pcode.Template
import PcodePanel.Proofs.Result

/-!
# Labels and branches

Deriving templates finds the targets of the branches, numbers the labels of the targets in ascending
order, and writes templates and labels down in one walk over the operations. The three agree: a
branch refers to the label that stands where it goes.

* `Template.Resolves` — what it means that templates show operations with the labels resolved;
* `Template.layout` — the templates as a recursion over the operations, and what stands in it;
* `Template.resolves_ofOps` — the derived templates resolve, whatever the operations, unless a
  distance is too wide to be read.
-/

namespace PcodePanel.Template

/-! ## What templates say -/

/-- The template of an operation. -/
def op? : Template → Option OpTemplate
  | op template => some template
  | label _ => none

/-- The number of a label. -/
def label? : Template → Option Int
  | label number => some number
  | op _ => none

@[simp] theorem op?_op (template : OpTemplate) : (op template).op? = some template := rfl

@[simp] theorem op?_label (number : Int) : (label number).op? = none := rfl

@[simp] theorem label?_op (template : OpTemplate) : (op template).label? = none := rfl

@[simp] theorem label?_label (number : Int) : (label number).label? = some number := rfl

/-- How many operations templates show. -/
def opCount (templates : List Template) : Nat :=
  (templates.filterMap op?).length

@[simp] theorem opCount_nil : opCount [] = 0 := rfl

@[simp] theorem opCount_label (number : Int) (templates : List Template) :
    opCount (label number :: templates) = opCount templates := rfl

@[simp] theorem opCount_op (template : OpTemplate) (templates : List Template) :
    opCount (op template :: templates) = opCount templates + 1 := rfl

/-- The constants that operations branch by. -/
def distances (ops : List MicroOp) : List Varnode :=
  ops.filterMap MicroOp.distance?

/-- The operation at a position goes to a target in the list: it stands as far before the target as
its distance says, read as a signed number. -/
def BranchesTo (ops : List MicroOp) (position target : Nat) : Prop :=
  ∃ op distance offset, ops[position]? = some op ∧ op.distance? = some distance
    ∧ distance.signedOffset = .ok offset ∧ (target : Int) = position + offset
    ∧ target ≤ ops.length

/-- A label stands at a position: that many operations are shown before it. -/
def Stands (templates : List Template) (number : Int) (position : Nat) : Prop :=
  ∃ before after, templates = before ++ label number :: after ∧ opCount before = position

/-- Templates show operations, with the labels of the branches resolved. -/
structure Resolves (ops : List MicroOp) (templates : List Template) : Prop where
  /-- There is one template for each operation. -/
  opCount_eq : opCount templates = ops.length
  /-- A template shows what its operation does. -/
  shown : ∀ (position : Nat) op template, ops[position]? = some op →
    (templates.filterMap op?)[position]? = some template →
    template.opcode = op.opcode ∧ template.output = op.output
  /-- A branch refers to the label that stands where it goes, and keeps its other inputs. -/
  branch : ∀ (position target : Nat) op template, BranchesTo ops position target →
    ops[position]? = some op → (templates.filterMap op?)[position]? = some template →
    ∃ number, Stands templates number target
      ∧ template.operands = .label number :: op.inputs.tail.map .varnode
  /-- Every other operation keeps all inputs. -/
  plain : ∀ (position : Nat) op template, (∀ target, ¬ BranchesTo ops position target) →
    ops[position]? = some op → (templates.filterMap op?)[position]? = some template →
    template.operands = op.inputs.map .varnode
  /-- Labels stand at the targets and nowhere else. -/
  targets : ∀ target, (∃ number, Stands templates number target)
    ↔ ∃ position, BranchesTo ops position target
  /-- There is one label at a target. -/
  once : ∀ before number after before' number' after',
    templates = before ++ label number :: after →
    templates = before' ++ label number' :: after' → opCount before = opCount before' →
    before = before'
  /-- Labels are numbered from zero in order of appearance. -/
  numbered : templates.filterMap label?
    = (List.range (templates.filterMap label?).length).map Int.ofNat
  /-- A label stands immediately before an operation, or last of all. -/
  next : ∀ before number after, templates = before ++ label number :: after →
    after = [] ∨ ∃ template rest, after = op template :: rest
  /-- Some operation refers to each label. -/
  referenced : ∀ number, label number ∈ templates →
    ∃ template, op template ∈ templates ∧ template.operands.head? = some (.label number)

/-! ## The layout of templates -/

/-- The templates of operations from a position on, with the label at their end. -/
def layout (labels : List Nat) : List (MicroOp × Option Nat) → Nat → List Template
  | [], position => labelAt labels position
  | (operation, target) :: rest, position =>
    labelAt labels position
      ++ op (ofOp labels operation target) :: layout labels rest (position + 1)

variable {ops : List MicroOp} {templates : List Template} {labels : List Nat}
  {pairs : List (MicroOp × Option Nat)} {start target : Nat}

theorem flatMap_eq_layout :
    ((pairs.zipIdx start).flatMap fun ((operation, target), position) =>
      labelAt labels position ++ [op (ofOp labels operation target)])
        ++ labelAt labels (start + pairs.length) = layout labels pairs start := by
  induction pairs generalizing start with
  | nil => rfl
  | cons pair pairs ih =>
      have length : start + (pair :: pairs).length = start + 1 + pairs.length := by
        rw [List.length_cons]
        omega
      rw [List.zipIdx_cons, List.flatMap_cons, length, List.append_assoc, ih, layout,
        List.append_assoc, List.singleton_append]

/-! ### What stands in a layout -/

@[simp] theorem opCount_append (first second : List Template) :
    opCount (first ++ second) = opCount first + opCount second := by
  simp [opCount]

@[simp] theorem filterMap_op?_labelAt (position : Nat) :
    (labelAt labels position).filterMap op? = [] := by
  unfold labelAt
  split <;> simp

theorem filterMap_op?_layout :
    (layout labels pairs start).filterMap op?
      = pairs.map fun pair => ofOp labels pair.1 pair.2 := by
  induction pairs generalizing start with
  | nil => exact filterMap_op?_labelAt start
  | cons pair pairs ih => simp [layout, ih]

theorem op_mem_layout {position : Nat} {operation : MicroOp} {goal : Option Nat}
    (here : pairs[position]? = some (operation, goal)) :
    op (ofOp labels operation goal) ∈ layout labels pairs start := by
  have shown : ofOp labels operation goal ∈ (layout labels pairs start).filterMap op? := by
    rw [filterMap_op?_layout]
    exact List.mem_map_of_mem (List.mem_of_getElem? here)
  obtain ⟨template, inside, same⟩ := List.mem_filterMap.mp shown
  cases template with
  | label => cases same
  | op template =>
      injection same with same
      rw [← same]
      exact inside

/-- The labels come in the order of their positions. -/
theorem filterMap_label?_layout :
    (layout labels pairs start).filterMap label?
      = ((List.range' start (pairs.length + 1)).filter (· ∈ labels)).map (labelNumber labels) := by
  have here : ∀ position, (labelAt labels position).filterMap label?
      = ([position].filter (· ∈ labels)).map (labelNumber labels) := by
    intro position
    unfold labelAt
    by_cases needed : position ∈ labels <;> simp [needed]
  induction pairs generalizing start with
  | nil => exact here start
  | cons pair pairs ih =>
      have first : List.range' start ((pair :: pairs).length + 1)
          = [start] ++ List.range' (start + 1) (pairs.length + 1) := List.range'_succ
      rw [layout, List.filterMap_append, List.filterMap_cons_none (label?_op _), ih, here, first,
        List.filter_append, List.map_append]

/-- A label that is needed stands at its position. -/
theorem stands_of_mem (needed : target ∈ labels) (after : start ≤ target)
    (inside : target ≤ start + pairs.length) :
    ∃ first last, layout labels pairs start = first ++ label (labelNumber labels target) :: last
      ∧ start + opCount first = target := by
  induction pairs generalizing start with
  | nil =>
      have here : target = start := by
        rw [List.length_nil] at inside
        omega
      subst here
      exact ⟨[], [], by simp [layout, labelAt, needed], rfl⟩
  | cons pair pairs ih =>
      obtain ⟨operation, goal⟩ := pair
      rcases Nat.eq_or_lt_of_le after with rfl | later
      · exact ⟨[], op (ofOp labels operation goal) :: layout labels pairs (start + 1),
          by simp [layout, labelAt, needed], rfl⟩
      · rw [List.length_cons] at inside
        obtain ⟨first, last, split, count⟩ := ih later (by omega)
        refine ⟨labelAt labels start ++ op (ofOp labels operation goal) :: first, last, ?_, ?_⟩
        · simp [layout, split]
        · have none : opCount (labelAt labels start) = 0 := by simp [opCount]
          rw [opCount_append, opCount_op, none]
          omega

/-- Where a label stands it is needed, with the number that it has, and an operation comes next or
nothing. -/
theorem of_layout_eq {number : Int} {first last : List Template}
    (split : layout labels pairs start = first ++ label number :: last) :
    start + opCount first ∈ labels ∧ number = labelNumber labels (start + opCount first)
      ∧ (last = [] ∨ ∃ template rest, last = op template :: rest) := by
  induction pairs generalizing start first with
  | nil =>
      unfold layout labelAt at split
      split at split
      next needed =>
        cases first with
        | nil =>
            injection split with same rest
            injection same with same
            exact ⟨needed, same.symm, .inl rest.symm⟩
        | cons => simp at split
      next => simp at split
  | cons pair pairs ih =>
      obtain ⟨operation, goal⟩ := pair
      -- Behind the label of this position, if there is one, stands its operation.
      have behind : ∀ {first : List Template},
          op (ofOp labels operation goal) :: layout labels pairs (start + 1)
            = first ++ label number :: last →
          ∃ rest, first = op (ofOp labels operation goal) :: rest
            ∧ layout labels pairs (start + 1) = rest ++ label number :: last := by
        intro first split
        cases first with
        | nil => cases split
        | cons template rest =>
            injection split with same split
            exact ⟨rest, by rw [same], split⟩
      have later : ∀ {first rest : List Template},
          first = op (ofOp labels operation goal) :: rest →
          start + opCount first = start + 1 + opCount rest := by
        rintro _ rest rfl
        rw [opCount_op]
        omega
      rw [layout] at split
      unfold labelAt at split
      split at split
      next needed =>
        cases first with
        | nil =>
            injection split with same rest
            injection same with same
            exact ⟨needed, same.symm, .inr ⟨_, _, rest.symm⟩⟩
        | cons template first =>
            injection split with same split
            obtain ⟨rest, shown, split⟩ := behind split
            rw [← same, opCount_label, later shown]
            exact ih split
      next =>
        obtain ⟨rest, shown, split⟩ := behind split
        rw [later shown]
        exact ih split

/-- Between two labels there is an operation. -/
theorem opCount_pos_of_between {number number' : Int} {between last last' : List Template}
    (next : last = [] ∨ ∃ template rest, last = op template :: rest)
    (split : label number :: last = between ++ label number' :: last') (apart : between ≠ []) :
    0 < opCount between := by
  cases between with
  | nil => exact absurd rfl apart
  | cons first between =>
      injection split with same split
      rw [← same, opCount_label]
      rcases next with rfl | ⟨template, rest, rfl⟩
      · simp at split
      · cases between with
        | nil => cases split
        | cons second between =>
            injection split with same split
            rw [← same, opCount_op]
            exact Nat.succ_pos _

/-- Of two labels in a layout that stand at one position, none is further back. -/
theorem eq_nil_of_opCount_eq {number number' : Int} {first between last last' : List Template}
    (split : layout labels pairs start = first ++ label number :: last)
    (rest : label number :: last = between ++ label number' :: last')
    (count : opCount first = opCount (first ++ between)) : between = [] := by
  by_contra apart
  -- If one label stood further back, an operation would be shown between the two.
  have pos := opCount_pos_of_between (of_layout_eq split).2.2 rest apart
  rw [opCount_append] at count
  omega

/-! ## The targets of branches -/

theorem target?_eq_ok_iff {operation : MicroOp} {position count : Nat} :
    operation.target? position count = .ok (some target) ↔ ∃ distance offset,
      operation.distance? = some distance ∧ distance.signedOffset = .ok offset
        ∧ (target : Int) = position + offset ∧ target ≤ count := by
  unfold MicroOp.target?
  cases operation.distance? with
  | none => simp
  | some distance =>
      simp only [bind_eq_ok_iff, Option.some.injEq]
      constructor
      · rintro ⟨offset, read, found⟩
        injection found with found
        split at found
        next inside =>
          injection found with found
          exact ⟨distance, offset, rfl, read, by omega, by omega⟩
        next => cases found
      · rintro ⟨_, offset, rfl, read, goal, inside⟩
        refine ⟨offset, read, ?_⟩
        rw [if_pos (by omega), ← goal, Int.toNat_natCast]
        rfl

section Targets

variable {found : List (Option Nat)} {position : Nat}

theorem length_of_targets (done : targets ops = .ok found) : found.length = ops.length := by
  have each := mapM_eq_ok_iff.mp done
  rw [← each.length_eq, List.length_zipIdx]

theorem length_zip_of_targets (done : targets ops = .ok found) :
    (ops.zip found).length = ops.length := by
  rw [List.length_zip, length_of_targets done, Nat.min_self]

theorem getElem?_targets {operation : MicroOp} (done : targets ops = .ok found)
    (there : ops[position]? = some operation) :
    ∃ goal, found[position]? = some goal ∧ operation.target? position ops.length = .ok goal := by
  have each := (List.forall₂_iff_get.mp (mapM_eq_ok_iff.mp done)).2
  obtain ⟨inside, rfl⟩ := List.getElem?_eq_some_iff.mp there
  have inFound : position < found.length := by
    rw [length_of_targets done]
    exact inside
  refine ⟨found[position], List.getElem?_eq_getElem inFound, ?_⟩
  have here := each position (by simpa using inside) inFound
  simpa using here

theorem branchesTo_iff (done : targets ops = .ok found) :
    BranchesTo ops position target ↔ found[position]? = some (some target) := by
  constructor
  · rintro ⟨operation, distance, offset, there, branch, read, goal, inside⟩
    obtain ⟨other, here, same⟩ := getElem?_targets done there
    rw [target?_eq_ok_iff.mpr ⟨distance, offset, branch, read, goal, inside⟩] at same
    injection same with same
    rw [here, same]
  · intro here
    have inFound := (List.getElem?_eq_some_iff.mp here).1
    rw [length_of_targets done] at inFound
    have there := List.getElem?_eq_getElem inFound
    obtain ⟨other, there', same⟩ := getElem?_targets done there
    rw [here] at there'
    injection there' with there'
    rw [← there'] at same
    obtain ⟨distance, offset, branch, read, goal, inside⟩ := target?_eq_ok_iff.mp same
    exact ⟨_, distance, offset, there, branch, read, goal, inside⟩

theorem mem_labelled (done : targets ops = .ok found) :
    target ∈ labelled found ops.length ↔ ∃ position, BranchesTo ops position target := by
  unfold labelled
  rw [List.mem_filter, List.mem_range, List.contains_iff_mem, List.mem_iff_getElem?]
  constructor
  · rintro ⟨_, position, here⟩
    exact ⟨position, (branchesTo_iff done).mpr here⟩
  · rintro ⟨position, branches⟩
    refine ⟨?_, position, (branchesTo_iff done).mp branches⟩
    obtain ⟨_, _, _, _, _, _, _, inside⟩ := branches
    omega

end Targets

/-! ## The derived templates -/

theorem ofOps_of_targets {found : List (Option Nat)} (done : targets ops = .ok found) :
    ofOps ops = .ok (layout (labelled found ops.length) (ops.zip found) 0) := by
  rw [ofOps, done, ← flatMap_eq_layout, length_zip_of_targets done, Nat.zero_add]
  rfl

theorem ofOps_eq_layout (derived : ofOps ops = .ok templates) :
    ∃ found, targets ops = .ok found
      ∧ templates = layout (labelled found ops.length) (ops.zip found) 0 := by
  obtain ⟨found, done, _⟩ := bind_eq_ok_iff.mp derived
  rw [ofOps_of_targets done] at derived
  injection derived with derived
  exact ⟨found, done, derived.symm⟩

section Derived

variable {found : List (Option Nat)} (done : targets ops = .ok found)
include done

/-- The template of an operation is made of it and its target. -/
theorem getElem?_op {position : Nat} {operation : MicroOp} {template : OpTemplate}
    (there : ops[position]? = some operation)
    (shown : ((layout labels (ops.zip found) 0).filterMap op?)[position]? = some template) :
    ∃ goal, found[position]? = some goal ∧ template = ofOp labels operation goal := by
  obtain ⟨goal, here, _⟩ := getElem?_targets done there
  refine ⟨goal, here, ?_⟩
  have pair : (ops.zip found)[position]? = some (operation, goal) :=
    List.getElem?_zip_eq_some.mpr ⟨there, here⟩
  rw [filterMap_op?_layout, List.getElem?_map, pair] at shown
  exact (Option.some.inj shown).symm

theorem stands_iff {number : Int} :
    Stands (layout (labelled found ops.length) (ops.zip found) 0) number target
      ↔ target ∈ labelled found ops.length
        ∧ number = labelNumber (labelled found ops.length) target := by
  constructor
  · rintro ⟨first, last, split, count⟩
    obtain ⟨needed, same, _⟩ := of_layout_eq split
    rw [Nat.zero_add, count] at needed same
    exact ⟨needed, same⟩
  · rintro ⟨needed, rfl⟩
    have inside : target ≤ ops.length := by
      obtain ⟨_, _, _, _, _, _, _, _, inside⟩ := (mem_labelled done).mp needed
      exact inside
    rw [← length_zip_of_targets done, ← Nat.zero_add (ops.zip found).length] at inside
    obtain ⟨first, last, split, count⟩ := stands_of_mem needed (Nat.zero_le _) inside
    rw [Nat.zero_add] at count
    exact ⟨first, last, split, count⟩

/-- The labels are numbered by their rank, and none is left out. -/
theorem filterMap_label?_ofOps :
    (layout (labelled found ops.length) (ops.zip found) 0).filterMap label?
      = (List.range (labelled found ops.length).length).map Int.ofNat := by
  have all : (List.range (ops.length + 1)).filter (· ∈ labelled found ops.length)
      = labelled found ops.length := by
    refine List.filter_congr fun position inside => ?_
    simp [labelled, List.mem_range.mp inside]
  rw [filterMap_label?_layout, length_zip_of_targets done, ← List.range_eq_range', all]
  have distinct : (labelled found ops.length).Nodup := List.nodup_range.filter _
  refine List.ext_getElem (by simp) ?_
  intro rank inside inside'
  rw [List.length_map] at inside
  simp [labelNumber, distinct.idxOf_getElem rank inside]

end Derived

/-- What is derived resolves the labels. -/
theorem resolves_of_ofOps (derived : ofOps ops = .ok templates) : Resolves ops templates := by
  obtain ⟨found, done, rfl⟩ := ofOps_eq_layout derived
  constructor
  case opCount_eq =>
    rw [opCount, filterMap_op?_layout, List.length_map, length_zip_of_targets done]
  case shown =>
    intro position operation template there shown
    obtain ⟨goal, _, rfl⟩ := getElem?_op done there shown
    exact ⟨rfl, rfl⟩
  case branch =>
    intro position target operation template branches there shown
    obtain ⟨goal, here, rfl⟩ := getElem?_op done there shown
    rw [(branchesTo_iff done).mp branches] at here
    injection here with here
    subst here
    have needed := (mem_labelled done).mpr ⟨position, branches⟩
    exact ⟨_, (stands_iff done).mpr ⟨needed, rfl⟩, rfl⟩
  case plain =>
    intro position operation template stays there shown
    obtain ⟨goal, here, rfl⟩ := getElem?_op done there shown
    cases goal with
    | none => rfl
    | some target => exact absurd ((branchesTo_iff done).mpr here) (stays target)
  case targets =>
    intro target
    rw [← mem_labelled done]
    constructor
    · rintro ⟨number, stands⟩
      exact ((stands_iff done).mp stands).1
    · intro needed
      exact ⟨_, (stands_iff done).mpr ⟨needed, rfl⟩⟩
  case once =>
    intro first number last first' number' last' split split' count
    rcases List.append_eq_append_iff.mp (split.symm.trans split') with
      ⟨between, rfl, rest⟩ | ⟨between, rfl, rest⟩
    · rw [eq_nil_of_opCount_eq split rest count, List.append_nil]
    · rw [eq_nil_of_opCount_eq split' rest count.symm, List.append_nil]
  case numbered =>
    rw [filterMap_label?_ofOps done, List.length_map, List.length_range]
  case next =>
    intro first number last split
    exact (of_layout_eq split).2.2
  case referenced =>
    intro number member
    obtain ⟨first, last, split⟩ := List.append_of_mem member
    obtain ⟨needed, same⟩ := (stands_iff done).mp ⟨first, last, split, rfl⟩
    obtain ⟨position, branches⟩ := (mem_labelled done).mp needed
    have here := (branchesTo_iff done).mp branches
    obtain ⟨operation, _, _, there, _⟩ := branches
    refine ⟨_, op_mem_layout (List.getElem?_zip_eq_some.mpr ⟨there, here⟩), ?_⟩
    rw [same]
    rfl

/-! ## Distances that are too wide -/

/-- A distance that is wider than any number is not read. -/
theorem signedOffset_eq_error {v : Varnode} (sized : 1 ≤ v.size) (wide : ¬ Width.Fits v.size) :
    v.signedOffset = .error .uncountableWidth := by
  have notEmpty : ¬ v.size = 0 := by omega
  rw [Varnode.signedOffset, if_neg notEmpty, Width.bits?_of_wide (by omega) wide]
  rfl

/-- Nothing but a distance is read when templates are derived. -/
theorem ofOps_eq_error {fault : Fault} (refused : ofOps ops = .error fault) :
    ∃ distance ∈ distances ops, distance.signedOffset = .error fault := by
  have missing : targets ops = .error fault := by
    rcases bind_eq_error_iff.mp refused with missing | ⟨_, _, derived⟩
    · exact missing
    · cases derived
  obtain ⟨⟨operation, position⟩, member, failed⟩ := mapM_eq_error missing
  have failed : operation.target? position ops.length = .error fault := failed
  unfold MicroOp.target? at failed
  split at failed
  next => cases failed
  next distance branch =>
    rcases bind_eq_error_iff.mp failed with unread | ⟨_, _, found⟩
    · have inside := List.fst_mem_of_mem_zipIdx member
      exact ⟨distance, List.mem_filterMap.mpr ⟨operation, inside, branch⟩, unread⟩
    · cases found

theorem signedOffset_of_ofOps (derived : ofOps ops = .ok templates) :
    ∀ distance ∈ distances ops, ∃ offset, distance.signedOffset = .ok offset := by
  obtain ⟨found, done, _⟩ := ofOps_eq_layout derived
  intro distance member
  obtain ⟨operation, inside, branch⟩ := List.mem_filterMap.mp member
  obtain ⟨position, there⟩ := List.getElem?_of_mem inside
  obtain ⟨goal, _, same⟩ := getElem?_targets done there
  unfold MicroOp.target? at same
  rw [branch] at same
  obtain ⟨offset, read, _⟩ := bind_eq_ok_iff.mp same
  exact ⟨offset, read⟩

/-- **Labels and branches.** Let the distances of the branches have a width of at least a byte. If
numbers can be that wide, then templates are derived in which each branch refers to the label of its
target. If one distance is wider than any number, nothing is derived. -/
theorem resolves_ofOps (sized : ∀ distance ∈ distances ops, 1 ≤ distance.size) :
    ((∀ distance ∈ distances ops, Width.Fits distance.size) →
        ∃ templates, ofOps ops = .ok templates ∧ Resolves ops templates)
      ∧ ((∃ distance ∈ distances ops, ¬ Width.Fits distance.size) →
        ofOps ops = .error .uncountableWidth) := by
  cases derived : ofOps ops with
  | ok templates =>
      refine ⟨fun _ => ⟨templates, rfl, resolves_of_ofOps derived⟩, ?_⟩
      rintro ⟨distance, member, wide⟩
      obtain ⟨offset, read⟩ := signedOffset_of_ofOps derived distance member
      rw [signedOffset_eq_error (sized distance member) wide] at read
      cases read
  | error fault =>
      obtain ⟨distance, member, unread⟩ := ofOps_eq_error derived
      have sizedHere := sized distance member
      have wide : ¬ Width.Fits distance.size := by
        intro fits
        rw [Varnode.signedOffset_of_fits (by omega) fits] at unread
        cases unread
      refine ⟨fun fits => absurd (fits distance member) wide, fun _ => ?_⟩
      rw [signedOffset_eq_error sizedHere wide] at unread
      cases unread
      rfl

/-- A branch by a constant of four bytes. -/
def Sample.jump (opcode offset time : Int) : MicroOp :=
  ⟨opcode, none, [⟨.constant, offset, 4, none⟩], ⟨0, time⟩⟩

/-- Branches ahead, two of them to one target, to themselves, back, out of the list and to its
end. -/
def Sample.jumps : List MicroOp :=
  [jump Opcode.cbranch 3 0, jump Opcode.branch 2 1, jump Opcode.branch 0 2,
   jump Opcode.cbranch 0xfffffffd 3, jump Opcode.branch 9 4, jump Opcode.branch 1 5]

theorem resolves_ofOps_jumps :
    (∀ distance ∈ distances Sample.jumps, 1 ≤ distance.size)
      ∧ (∀ distance ∈ distances Sample.jumps, Width.Fits distance.size)
      ∧ ∃ templates, ofOps Sample.jumps = .ok templates ∧ Resolves Sample.jumps templates :=
  ⟨by decide, by decide, (resolves_ofOps (by decide)).1 (by decide)⟩

example : ofOps Sample.jumps = .ok
    [label 0, op ⟨Opcode.cbranch, none, [.label 2]⟩, op ⟨Opcode.branch, none, [.label 2]⟩,
     label 1, op ⟨Opcode.branch, none, [.label 1]⟩,
     label 2, op ⟨Opcode.cbranch, none, [.label 0]⟩,
     op ⟨Opcode.branch, none, [.varnode ⟨.constant, 9, 4, none⟩]⟩,
     op ⟨Opcode.branch, none, [.label 3]⟩, label 3] := by
  decide

/-- A branch by a constant of more bytes than can be counted. -/
def Sample.vast : MicroOp :=
  ⟨Opcode.branch, none, [⟨.constant, 0, 18446744073709551616, none⟩], ⟨0, 0⟩⟩

/-- A width of at least a byte is not enough: the distance may be too wide to be read. -/
theorem unresolved_vast : ¬ ∀ ops, (∀ distance ∈ distances ops, 1 ≤ distance.size) →
    ∃ templates, ofOps ops = .ok templates ∧ Resolves ops templates := by
  intro always
  obtain ⟨templates, derived, _⟩ := always [Sample.vast] (by decide)
  have refused : ofOps [Sample.vast] = .error .uncountableWidth := by decide
  rw [refused] at derived
  cases derived

end PcodePanel.Template
