import Mathlib.Data.Int.ModEq
import PcodePanel.Proofs.Pcode.Labels

/-!
# Two's complement

The offset of a varnode may be any integer, but only its residue for the varnode's width counts
where it is read as a signed number: the reading is the one number in the range of the width that is
congruent to the offset. A constant is made with the residue itself, so that it reads back as the
number that it was made of exactly if that is in the range. A branch whose target is in the list is
shown by the target, so that it is shown alike by any offset with the same residue.

* `Width.Represents` — a number stands for another in two's complement;
* `Varnode.TwosComplement` — offsets of a width are read in two's complement;
* `Template.ofOps_redirect` — templates depend on the residue of a distance;
* `Varnode.reads_twosComplement` — for which widths this holds, and what else happens.
-/

namespace PcodePanel

-- Powers are those of core, whatever else is in scope.
attribute [local instance (10000)] instPowNat

/-! ## Numbers in a range -/

namespace Width

/-- A number that can be written with so many bits in two's complement. -/
def InRange (bits : Nat) (x : Int) : Prop :=
  -2 ^ (bits - 1) ≤ x ∧ x < 2 ^ (bits - 1)

/-- A number stands for another in two's complement of so many bits: it is in the range, and
congruent to it. -/
structure Represents (bits : Nat) (value x : Int) : Prop where
  inRange : InRange bits value
  congruent : value ≡ x [ZMOD 2 ^ bits]

variable {bits : Nat} {value x y : Int}

/-- Exactly one number stands for another. -/
theorem represents_iff (pos : 0 < bits) : Represents bits value x ↔ value = x.bmod (2 ^ bits) := by
  obtain ⟨rest, rfl⟩ := Nat.exists_eq_succ_of_ne_zero (Nat.ne_of_gt pos)
  have half : ((2 ^ rest : Nat) : Int) = 2 ^ rest := Int.natCast_pow 2 rest
  have whole : ((2 ^ (rest + 1) : Nat) : Int) = 2 ^ (rest + 1) := Int.natCast_pow 2 (rest + 1)
  have double : (2 : Nat) ^ (rest + 1) = 2 ^ rest * 2 := Nat.pow_succ ..
  have range : InRange (rest + 1) value
      ↔ -(((2 ^ (rest + 1) : Nat) : Int) / 2) ≤ value
        ∧ value < (((2 ^ (rest + 1) : Nat) : Int) + 1) / 2 := by
    rw [InRange, Nat.add_sub_cancel, ← half, double]
    omega
  rw [eq_comm, Int.bmod_eq_iff (Nat.two_pow_pos _), ← and_assoc, ← range, whole,
    ← Int.modEq_iff_dvd]
  exact ⟨fun ⟨inRange, congruent⟩ => ⟨inRange, congruent.symm⟩,
    fun ⟨inRange, congruent⟩ => ⟨inRange, congruent.symm⟩⟩

/-- Congruent numbers are stood for by the same number. -/
theorem bmod_congr (same : x ≡ y [ZMOD 2 ^ bits]) : x.bmod (2 ^ bits) = y.bmod (2 ^ bits) := by
  have whole : ((2 ^ bits : Nat) : Int) = 2 ^ bits := Int.natCast_pow 2 bits
  rw [← Int.emod_bmod x, ← Int.emod_bmod y, whole, same]

end Width

/-! ## Offsets -/

namespace Varnode

variable {v w : Varnode} {size : Int}

/-- An offset is read by its residue alone, whatever the width. -/
theorem signedOffset_congr (width : v.size = w.size)
    (same : v.offset ≡ w.offset [ZMOD 2 ^ (8 * w.size.toNat)]) :
    v.signedOffset = w.signedOffset := by
  by_cases zero : w.size = 0
  · rw [signedOffset, signedOffset, if_pos zero, if_pos (width.trans zero)]
    rfl
  · by_cases fits : Width.Fits w.size
    · rw [signedOffset_of_fits zero fits, signedOffset_of_fits (width ▸ zero) (width ▸ fits), width,
        Width.bmod_congr same]
    · obtain ⟨fault, refused⟩ := Width.bits?_of_not_fits fits
      rw [signedOffset, signedOffset, width, refused]
      rfl

theorem ofConstant_of_fits (fits : Width.Fits size) (number : Int) :
    ofConstant number size = .ok ⟨.constant, number % 2 ^ (8 * size.toNat), size, none⟩ := by
  rw [ofConstant, Width.bits?_of_fits fits, ← Width.low_eq]
  rfl

/-- The offsets of varnodes of a width are read in two's complement. -/
structure TwosComplement (size : Int) : Prop where
  /-- An offset is read as the one number that stands for it. -/
  reads : ∀ v : Varnode, v.size = size → ∃ value, v.signedOffset = .ok value
    ∧ ∀ other, Width.Represents (8 * size.toNat) other v.offset ↔ other = value
  /-- A constant has the residue of the number that it is made of. -/
  constant : ∀ number, ∃ constant, ofConstant number size = .ok constant
    ∧ constant.space = .constant ∧ constant.size = size
    ∧ constant.offset = number % 2 ^ (8 * size.toNat)
  /-- A constant reads back as the number exactly if that is in the range. Otherwise it is off by
  some widths. -/
  readsBack : ∀ number constant, ofConstant number size = .ok constant →
    ∃ value, constant.signedOffset = .ok value
      ∧ (value = number ↔ Width.InRange (8 * size.toNat) number)
      ∧ (¬ Width.InRange (8 * size.toNat) number →
        ∃ factor ≠ 0, value = number + factor * 2 ^ (8 * size.toNat))

theorem twosComplement_of_fits (sized : 1 ≤ size) (fits : Width.Fits size) :
    TwosComplement size := by
  have pos : 0 < 8 * size.toNat := by omega
  have notEmpty : size ≠ 0 := by omega
  have read : ∀ v : Varnode, v.size = size →
      v.signedOffset = .ok (v.offset.bmod (2 ^ (8 * size.toNat))) := by
    rintro v rfl
    exact signedOffset_of_fits notEmpty fits
  constructor
  case reads =>
    intro v width
    exact ⟨_, read v width, fun other => Width.represents_iff pos⟩
  case constant =>
    intro number
    exact ⟨_, ofConstant_of_fits fits number, rfl, rfl, rfl⟩
  case readsBack =>
    intro number constant made
    rw [ofConstant_of_fits fits] at made
    cases made
    refine ⟨_, read _ rfl, ?_⟩
    -- The residue of the number is read as what stands for the number itself.
    have residue : (number % 2 ^ (8 * size.toNat)).bmod (2 ^ (8 * size.toNat))
        = number.bmod (2 ^ (8 * size.toNat)) := Width.bmod_congr (Int.mod_modEq ..)
    have represents := (Width.represents_iff pos).mpr residue
    generalize (number % 2 ^ (8 * size.toNat)).bmod (2 ^ (8 * size.toNat)) = value at *
    have exact : value = number ↔ Width.InRange (8 * size.toNat) number := by
      constructor
      · rintro rfl
        exact represents.inRange
      · intro inRange
        exact residue.trans ((Width.represents_iff pos).mp ⟨inRange, rfl⟩).symm
    refine ⟨exact, fun outside => ?_⟩
    obtain ⟨factor, sum⟩ := Int.modEq_iff_add_fac.mp represents.congruent.symm
    refine ⟨factor, ?_, by rw [sum, Int.mul_comm]⟩
    rintro rfl
    rw [Int.mul_zero, Int.add_zero] at sum
    exact outside (exact.mp sum)

/-- One more than the greatest number in the range is read as the least. -/
example : (ofRam 0x7f 1 "ram").signedOffset = .ok 0x7f
    ∧ (ofRam 0x80 1 "ram").signedOffset = .ok (-0x80)
    ∧ (ofRam (-0x80) 1 "ram").signedOffset = .ok (-0x80) := by
  decide

end Varnode

/-! ## Distances -/

/-- The operation with another offset in its first input. -/
def MicroOp.redirect (op : MicroOp) (offset : Int) : MicroOp :=
  { op with inputs := op.inputs.modifyHead fun first => { first with offset } }

theorem MicroOp.distance?_redirect {op : MicroOp} {distance : Varnode}
    (branch : op.distance? = some distance) (offset : Int) :
    (op.redirect offset).distance? = some { distance with offset } := by
  obtain ⟨opcode, output, _ | ⟨first, inputs⟩, sequence⟩ := op
  · cases branch
  · unfold distance? at branch
    dsimp only at branch
    split at branch
    next jumps =>
      cases branch
      exact if_pos jumps
    next => cases branch

/-- A branch goes where it went, by any distance with the same residue. -/
theorem MicroOp.target?_redirect {op : MicroOp} {distance : Varnode} {offset : Int}
    (branch : op.distance? = some distance)
    (same : offset ≡ distance.offset [ZMOD 2 ^ (8 * distance.size.toNat)]) (position count : Nat) :
    (op.redirect offset).target? position count = op.target? position count := by
  have read : ({ distance with offset } : Varnode).signedOffset = distance.signedOffset :=
    Varnode.signedOffset_congr rfl same
  rw [target?, target?, distance?_redirect branch, branch]
  dsimp only
  rw [read]

/-- A branch has a target if its distance, if that can be read, keeps it in the list. -/
theorem MicroOp.exists_target {op : MicroOp} {distance : Varnode} {position count : Nat}
    {goal : Option Nat} (branch : op.distance? = some distance)
    (inside : ∀ value, distance.signedOffset = .ok value →
      0 ≤ position + value ∧ position + value ≤ count)
    (goes : op.target? position count = .ok goal) : ∃ target, goal = some target := by
  have read := goes
  rw [target?, branch] at read
  obtain ⟨value, read, _⟩ := bind_eq_ok_iff.mp read
  obtain ⟨first, last⟩ := inside value read
  obtain ⟨target, reached⟩ := Int.eq_ofNat_of_zero_le first
  have found : op.target? position count = .ok (some target) :=
    Template.target?_eq_ok_iff.mpr ⟨distance, value, branch, read, reached.symm, by omega⟩
  rw [goes] at found
  injection found with found
  exact ⟨target, found⟩

namespace Template

variable {before after : List MicroOp} {op other : MicroOp}

theorem targets_replace
    (same : ∀ position count, other.target? position count = op.target? position count) :
    targets (before ++ other :: after) = targets (before ++ op :: after) := by
  simp only [targets, List.zipIdx_append, List.zipIdx_cons, List.mapM_append, List.mapM_cons,
    List.length_append, List.length_cons, same]

/-- Templates stay if an operation is replaced by one with the same template. -/
theorem layout_replace {labels : List Nat} {goal : Option Nat}
    (same : ofOp labels other goal = ofOp labels op goal) {found : List (Option Nat)}
    (there : found[before.length]? = some goal) (start : Nat) :
    layout labels ((before ++ other :: after).zip found) start
      = layout labels ((before ++ op :: after).zip found) start := by
  induction before generalizing found start with
  | nil =>
      cases found with
      | nil => cases there
      | cons first found =>
          injection there with there
          subst there
          rw [List.nil_append, List.nil_append, List.zip_cons_cons, List.zip_cons_cons, layout,
            layout, same]
  | cons operation before ih =>
      cases found with
      | nil => cases there
      | cons first found =>
          rw [List.cons_append, List.cons_append, List.zip_cons_cons, List.zip_cons_cons, layout,
            layout, ih there]

/-- Templates stay if an operation is replaced by one that goes to the same target, and is shown
alike with it. -/
theorem ofOps_replace
    (same : ∀ position count, other.target? position count = op.target? position count)
    (alike : ∀ goal, op.target? before.length (before ++ op :: after).length = .ok goal →
      ∀ labels, ofOp labels other goal = ofOp labels op goal) :
    ofOps (before ++ other :: after) = ofOps (before ++ op :: after) := by
  have unmoved : targets (before ++ other :: after) = targets (before ++ op :: after) :=
    targets_replace same
  cases done : targets (before ++ op :: after) with
  | error fault =>
      rw [ofOps, ofOps, unmoved, done]
      rfl
  | ok found =>
      have length : (before ++ other :: after).length = (before ++ op :: after).length := by
        rw [List.length_append, List.length_append, List.length_cons, List.length_cons]
      have here : (before ++ op :: after)[before.length]? = some op := by
        rw [List.getElem?_append_right (Nat.le_refl _), Nat.sub_self]
        rfl
      obtain ⟨goal, there, goes⟩ := getElem?_targets done here
      rw [ofOps_of_targets done, ofOps_of_targets (unmoved.trans done), length,
        layout_replace (alike goal goes _) there]

/-- Templates stay if a branch in the list gets another distance with the same residue. -/
theorem ofOps_redirect {distance : Varnode} {offset : Int} (branch : op.distance? = some distance)
    (same : offset ≡ distance.offset [ZMOD 2 ^ (8 * distance.size.toNat)])
    (inside : ∀ value, distance.signedOffset = .ok value →
      0 ≤ before.length + value ∧ before.length + value ≤ (before ++ op :: after).length) :
    ofOps (before ++ op.redirect offset :: after) = ofOps (before ++ op :: after) := by
  refine ofOps_replace (MicroOp.target?_redirect branch same) fun goal goes labels => ?_
  -- The branch is shown by its target, so that its distance is not shown.
  obtain ⟨target, rfl⟩ := MicroOp.exists_target branch inside goes
  simp only [ofOp, MicroOp.redirect, List.tail_modifyHead]

end Template

/-! ## All widths -/

/-- **Two's complement.** Let a width be at least a byte. If numbers can be that wide, then offsets
are read in two's complement; if not, neither are offsets read nor constants made. In any case, a
branch by a distance of this width to a target in the list is shown alike for all distances with the
same residue. -/
theorem Varnode.reads_twosComplement {size : Int} (sized : 1 ≤ size) :
    (Width.Fits size → TwosComplement size)
      ∧ (¬ Width.Fits size →
        (∀ v : Varnode, v.size = size → v.signedOffset = .error .uncountableWidth)
          ∧ ∀ number, ofConstant number size = .error .uncountableWidth)
      ∧ ∀ (before after : List MicroOp) (op : MicroOp) (distance : Varnode) (offset : Int),
        op.distance? = some distance → distance.size = size →
        offset ≡ distance.offset [ZMOD 2 ^ (8 * size.toNat)] →
        (∀ value, Width.Represents (8 * size.toNat) value distance.offset →
          0 ≤ before.length + value ∧ before.length + value ≤ (before ++ op :: after).length) →
        Template.ofOps (before ++ op.redirect offset :: after)
          = Template.ofOps (before ++ op :: after) := by
  refine ⟨twosComplement_of_fits sized, ?_, ?_⟩
  · intro wide
    constructor
    · rintro v rfl
      exact Template.signedOffset_eq_error sized wide
    · intro number
      rw [ofConstant, Width.bits?_of_wide (by omega) wide]
      rfl
  · rintro before after op distance offset branch rfl same inside
    refine Template.ofOps_redirect branch same fun value read => inside value ?_
    by_cases fits : Width.Fits distance.size
    · obtain ⟨known, read', unique⟩ := (twosComplement_of_fits sized fits).reads distance rfl
      rw [read] at read'
      injection read' with same
      exact (unique value).mpr same
    · rw [Template.signedOffset_eq_error sized fits] at read
      cases read

/-- A branch back is shown alike by a negative distance and by its residue. -/
theorem Varnode.reads_twosComplement_jumps :
    (1 : Int) ≤ 4 ∧ Width.Fits 4 ∧ TwosComplement 4
      ∧ Template.ofOps
          [Template.Sample.jump Opcode.cbranch 3 0, Template.Sample.jump Opcode.branch 2 1,
           Template.Sample.jump Opcode.branch 0 2, Template.Sample.jump Opcode.cbranch (-3) 3,
           Template.Sample.jump Opcode.branch 9 4, Template.Sample.jump Opcode.branch 1 5]
        = Template.ofOps Template.Sample.jumps := by
  have sized : (1 : Int) ≤ 4 := by decide
  have fits : Width.Fits 4 := by decide
  obtain ⟨reads, _, alike⟩ := reads_twosComplement sized
  refine ⟨sized, fits, reads fits, ?_⟩
  refine alike (Template.Sample.jumps.take 3) (Template.Sample.jumps.drop 4)
    (Template.Sample.jump Opcode.cbranch 0xfffffffd 3) ⟨.constant, 0xfffffffd, 4, none⟩ (-3) rfl rfl
    (by decide) ?_
  intro value represents
  have back : value = -3 := (Width.represents_iff (by decide)).mp represents
  rw [back]
  decide

/-- A constant of more bytes than can be counted. -/
def Varnode.Sample.vast : Varnode :=
  ⟨.constant, 0, 18446744073709551616, none⟩

/-- A width of at least a byte is not enough: there are widths that no offset is read in. -/
theorem Varnode.not_twosComplement_vast : ¬ ∀ size : Int, 1 ≤ size → TwosComplement size := by
  intro always
  obtain ⟨value, read, _⟩ := (always Sample.vast.size (by decide)).reads Sample.vast rfl
  have refused : Sample.vast.signedOffset = .error .uncountableWidth := by decide
  rw [refused] at read
  cases read

end PcodePanel
