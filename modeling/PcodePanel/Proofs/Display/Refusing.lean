import PcodePanel.Proofs.Display.Formatting
import PcodePanel.Proofs.Display.Temporaries

/-!
# Frames that cannot be formatted

Templates are derived by reading the distances of the branches, and a distance can be read only if
its width is at least a byte and one that numbers can have. Nothing else about a list of operations
stands in the way of deriving templates; and where they are derived, nothing stands in the way of
formatting but a number that is too long to be written.

* `Varnode.Readable` — a distance can be read; `Varnode.refusal` — why another cannot;
* `Template.BranchesShown` — a branch refers to a label, or keeps its inputs;
* `Formatted.refuses_ofFrame` — which frames cannot be formatted, and why.
-/

namespace PcodePanel

/-! ## Distances -/

/-- A distance can be read: it has at least a byte, and a width that numbers can have. -/
def Varnode.Readable (v : Varnode) : Prop :=
  1 ≤ v.size ∧ Width.Fits v.size

instance (v : Varnode) : Decidable v.Readable :=
  inferInstanceAs (Decidable (_ ∧ _))

/-- Why a distance that cannot be read is not read: it has less than a byte, or more bytes than
numbers can have. -/
def Varnode.refusal (v : Varnode) : Fault :=
  if v.size ≤ 0 then .negativeWidth else .uncountableWidth

namespace Varnode

variable {v : Varnode}

theorem signedOffset_of_readable (readable : v.Readable) :
    ∃ offset, v.signedOffset = .ok offset := by
  obtain ⟨sized, fits⟩ := readable
  exact ⟨_, signedOffset_of_fits (by omega) fits⟩

/-- Nothing is read of less than a byte. -/
theorem signedOffset_of_size_le_zero (empty : v.size ≤ 0) :
    v.signedOffset = .error .negativeWidth := by
  unfold signedOffset
  by_cases zero : v.size = 0
  · rw [if_pos zero]
    rfl
  · rw [if_neg zero, Width.bits?_of_neg (by omega)]
    rfl

theorem signedOffset_of_unreadable (unread : ¬ v.Readable) :
    v.signedOffset = .error v.refusal := by
  unfold refusal
  split
  next empty => exact signedOffset_of_size_le_zero empty
  next sized =>
    have sized : 1 ≤ v.size := by omega
    exact Template.signedOffset_eq_error sized fun fits => unread ⟨sized, fits⟩

end Varnode

/-! ## Deriving templates -/

namespace Template

variable {ops : List MicroOp} {templates : List Template}

/-- Each branch by a constant refers to the label of its target if that is in the list, and keeps
all of its inputs if it is not. -/
def BranchesShown (ops : List MicroOp) (templates : List Template) : Prop :=
  ∀ (position : Nat) op distance template, ops[position]? = some op →
    op.distance? = some distance → (templates.filterMap op?)[position]? = some template →
    (∃ number target, target ≤ ops.length ∧ BranchesTo ops position target
        ∧ Stands templates number target
        ∧ template.operands = .label number :: op.inputs.tail.map .varnode)
      ∨ (∀ target, ¬ BranchesTo ops position target)
        ∧ template.operands = op.inputs.map .varnode

theorem branchesShown_of_ofOps (derived : ofOps ops = .ok templates) :
    BranchesShown ops templates := by
  have resolves := resolves_of_ofOps derived
  intro position op distance template there _ shown
  by_cases goes : ∃ target, BranchesTo ops position target
  · obtain ⟨target, branches⟩ := goes
    obtain ⟨number, stands, operands⟩ :=
      resolves.branch position target op template branches there shown
    have inside : target ≤ ops.length := by
      obtain ⟨_, _, _, _, _, _, _, inside⟩ := branches
      exact inside
    exact .inl ⟨number, target, inside, branches, stands, operands⟩
  · have stays := not_exists.mp goes
    exact .inr ⟨stays, resolves.plain position op template stays there shown⟩

theorem target?_of_readable {op : MicroOp}
    (readable : ∀ distance ∈ op.distance?, distance.Readable) (position count : Nat) :
    ∃ goal, op.target? position count = .ok goal := by
  unfold MicroOp.target?
  cases branch : op.distance? with
  | none => exact ⟨none, rfl⟩
  | some distance =>
      obtain ⟨offset, read⟩ := Varnode.signedOffset_of_readable (readable distance branch)
      exact ⟨_, bind_eq_ok_iff.mpr ⟨offset, read, rfl⟩⟩

theorem ofOps_of_readable (readable : ∀ distance ∈ distances ops, distance.Readable) :
    ∃ templates, ofOps ops = .ok templates := by
  cases derived : ofOps ops with
  | ok templates => exact ⟨templates, rfl⟩
  | error fault =>
      obtain ⟨distance, member, unread⟩ := ofOps_eq_error derived
      obtain ⟨offset, read⟩ := Varnode.signedOffset_of_readable (readable distance member)
      rw [read] at unread
      cases unread

/-- The first distance that cannot be read stands in the way of deriving templates, and says why. -/
theorem ofOps_of_unread {before after : List Varnode} {distance : Varnode} {fault : Fault}
    (split : distances ops = before ++ distance :: after)
    (readable : ∀ other ∈ before, other.Readable) (unread : distance.signedOffset = .error fault) :
    ofOps ops = .error fault := by
  obtain ⟨first, rest, rfl, earlier, split⟩ := List.filterMap_eq_append_iff.mp split
  obtain ⟨middle, op, last, rfl, none, branch, _⟩ := List.filterMap_eq_cons_iff.mp split
  have refused : op.target? (first ++ middle).length (first ++ (middle ++ op :: last)).length
      = .error fault := by
    rw [MicroOp.target?, branch]
    exact bind_eq_error_iff.mpr (.inl unread)
  -- Before this operation there are the ones that have the earlier distances, or none.
  have done : ∀ pair ∈ (first ++ middle).zipIdx, ∃ goal,
      pair.1.target? pair.2 (first ++ (middle ++ op :: last)).length = .ok goal := by
    intro pair member
    refine target?_of_readable (fun other branch => readable other ?_) _ _
    rw [← earlier]
    rcases List.mem_append.mp (List.fst_mem_of_mem_zipIdx member) with inFirst | inMiddle
    · exact List.mem_filterMap.mpr ⟨pair.1, inFirst, branch⟩
    · have branch : pair.1.distance? = some other := branch
      rw [none pair.1 inMiddle] at branch
      cases branch
  have missing : targets (first ++ (middle ++ op :: last)) = .error fault := by
    unfold targets
    rw [← List.append_assoc, List.zipIdx_append, List.zipIdx_cons, Nat.zero_add]
    rw [← List.append_assoc] at refused done
    exact mapM_append_eq_error done refused
  exact bind_eq_error_iff.mpr (.inl missing)

end Template

/-! ## Formatting -/

theorem Piece.token?_eq_error {legend : Legend} {piece : Piece} {fault : Fault}
    (refused : piece.token? legend = .error fault) : fault = .numeralTooLong := by
  have written : ∀ {number : Int}, Numeral.write number = .error fault →
      fault = .numeralTooLong := fun refused => (Numeral.write_eq_error_iff.mp refused).2
  cases piece with
  | address | register | scalar | space | indent | separator => cases refused
  | unique | lineLabel | raw =>
      exact written (bind_pure_eq_error_iff.mp (bind_pure_eq_error_iff.mp refused))
  | mnemonic opcode =>
      have refused := bind_pure_eq_error_iff.mp refused
      unfold Opcode.mnemonic at refused
      split at refused
      · cases refused
      · exact written (bind_pure_eq_error_iff.mp refused)
  | spaceNumber number =>
      have refused := bind_pure_eq_error_iff.mp refused
      unfold Legend.spaceText at refused
      split at refused
      · split at refused
        · exact written (bind_pure_eq_error_iff.mp refused)
        · cases refused
      · exact written (bind_pure_eq_error_iff.mp refused)
  | userop number =>
      have refused := bind_pure_eq_error_iff.mp refused
      unfold Legend.useropText at refused
      split at refused
      · cases refused
      · split at refused
        · cases refused
        · exact written refused

namespace Listing

/-- Where templates are derived, only a number that is too long is in the way of a listing. -/
theorem ofFrame_eq_error {language : Language} {frame : Frame} {indent : Option Bool}
    {templates : List Template} {fault : Fault}
    (derived : Template.ofOps frame.code = .ok templates)
    (refused : ofFrame language frame indent = .error fault) :
    fault = .numeralTooLong ∧ ∃ template ∈ templates,
      ∃ number ∈ template.numbers language frame.userops, ¬ Numeral.Short number := by
  unfold ofFrame at refused
  rw [derived] at refused
  obtain ⟨template, member, there⟩ :=
    exists_of_walk_eq_error (bind_pure_eq_error_iff.mp refused)
  rw [Template.kept_eq_self (Nat.le_of_eq (Template.resolves_of_ofOps derived).opCount_eq)]
    at member
  constructor
  · obtain ⟨piece, _, here⟩ := mapM_eq_error (bind_pure_eq_error_iff.mp there)
    exact Piece.token?_eq_error here
  · refine ⟨template, member, ?_⟩
    by_contra short
    push Not at short
    have can : template.CanShow
        (.ofFrame language frame (indent.getD (templates.any Template.isLabel))) :=
      Template.canShow_of_short short
    obtain ⟨tokens, rendered⟩ := can
    rw [rendered] at there
    cases there

end Listing

/-- **Frames that cannot be formatted.** If the distances of a frame's branches can be read, then
templates are derived in which each branch refers to a label or keeps its inputs, and only a number
that is too long to be written is in the way of formatting. Otherwise the first distance that cannot
be read is in the way of both. -/
theorem Formatted.refuses_ofFrame (language : Language) (frame : Frame) (indent : Option Bool) :
    ((∀ distance ∈ Template.distances frame.code, distance.Readable) →
        ∃ templates, Template.ofOps frame.code = .ok templates
          ∧ Template.BranchesShown frame.code templates
          ∧ ∀ fault, ofFrame language frame indent = .error fault → fault = .numeralTooLong
            ∧ ∃ template ∈ templates, ∃ number ∈ template.numbers language frame.userops,
              ¬ Numeral.Short number)
      ∧ ∀ before distance after, Template.distances frame.code = before ++ distance :: after →
        (∀ other ∈ before, other.Readable) → ¬ distance.Readable →
        distance.signedOffset = .error distance.refusal
          ∧ Template.ofOps frame.code = .error distance.refusal
          ∧ ofFrame language frame indent = .error distance.refusal := by
  constructor
  · intro readable
    obtain ⟨templates, derived⟩ := Template.ofOps_of_readable readable
    refine ⟨templates, derived, Template.branchesShown_of_ofOps derived, fun fault refused => ?_⟩
    rw [ofFrame_eq] at refused
    cases listed : Listing.ofFrame language frame indent with
    | ok listing =>
        rw [listed] at refused
        cases refused
    | error other =>
        rw [listed] at refused
        cases refused
        exact Listing.ofFrame_eq_error derived listed
  · intro before distance after split readable unread
    have unread := Varnode.signedOffset_of_unreadable unread
    have underived := Template.ofOps_of_unread split readable unread
    refine ⟨unread, underived, ?_⟩
    unfold ofFrame Formatter.ofFrame
    rw [underived]
    rfl

/-- A branch by a constant without bytes. -/
def Template.Sample.weightless : MicroOp :=
  ⟨Opcode.branch, none, [⟨.constant, 5, 0, none⟩], ⟨0, 6⟩⟩

/-- Branches that can be read, and then one that cannot. -/
def Sample.unreadable : Frame where
  code := Template.Sample.jumps ++ [Template.Sample.weightless]

/-- One branch without bytes is in the way of all rows. -/
theorem Formatted.refuses_ofFrame_unreadable :
    (∀ other ∈ Template.distances Template.Sample.jumps, other.Readable)
      ∧ ofFrame Listing.Sample.nameless Sample.unreadable none = .error .negativeWidth := by
  have readable : ∀ other ∈ Template.distances Template.Sample.jumps, other.Readable := by decide
  obtain ⟨_, _, refused⟩ := (refuses_ofFrame Listing.Sample.nameless Sample.unreadable none).2
    (Template.distances Template.Sample.jumps) ⟨.constant, 5, 0, none⟩ [] (by decide) readable
    (by decide)
  exact ⟨readable, refused⟩

/-- Without a byte, even a distance out of the list is in the way of deriving templates. -/
theorem Template.underived_weightless :
    ¬ ∀ ops, ∃ templates, ofOps ops = .ok templates ∧ BranchesShown ops templates := by
  intro always
  obtain ⟨templates, derived, _⟩ := always [Sample.weightless]
  have refused : ofOps [Sample.weightless] = .error .negativeWidth := by decide
  rw [refused] at derived
  cases derived

end PcodePanel
