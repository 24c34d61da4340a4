import PcodePanel.Proofs.Display.Unambiguous
import PcodePanel.Proofs.Pcode.Placing

/-!
# The heads of rows

An operation's row begins with an indentation if rows are indented at all, and names the operation
once: by the name of a user operation if a constant selects one, and otherwise by the mnemonic.

* `OpTemplate.head?_of_shown`, `OpTemplate.category_ne_indent` — where there are indentations;
* `OpTemplate.named_of_shown` — the one span that names the operation;
* `Template.headCategory_of_resolves` — templates that resolve labels name their operations.
-/

namespace PcodePanel

variable {legend : Legend}

/-! ## Pieces other than indentations -/

theorem Opcode.category_ne_indent (opcode : Int) : category opcode ≠ .indent := by
  unfold category
  split <;> nofun

namespace Piece

theorem category_ne_indent {piece : Piece} (visible : piece ≠ .indent) :
    piece.category ≠ .indent := by
  cases piece with
  | indent => exact absurd rfl visible
  | mnemonic opcode => exact Opcode.category_ne_indent opcode
  | _ => nofun

theorem ShownAs.category_ne_indent {pieces : List Piece} {all : List Span}
    (shown : ShownAs legend pieces all) (visible : indent ∉ pieces) :
    ∀ span ∈ all, span.1 ≠ .indent := by
  induction pieces generalizing all with
  | nil =>
      cases shown
      exact fun span member => absurd member List.not_mem_nil
  | cons piece pieces ih =>
      rw [List.mem_cons, not_or] at visible
      have visibleHere := Ne.symm visible.1
      obtain ⟨text, rest, _, later, rfl⟩ := shown.of_cons visibleHere
      exact List.forall_mem_cons.mpr
        ⟨Piece.category_ne_indent visibleHere, ih later visible.2⟩

end Piece

theorem Varnode.indent_notMem_pieces (language : Language) (v : Varnode) :
    Piece.indent ∉ v.pieces language := by
  unfold pieces
  split
  case h_3 => split <;> simp
  all_goals simp

namespace Operand

theorem indent_notMem_pieces (language : Language) (operand : Operand) :
    Piece.indent ∉ operand.pieces language := by
  cases operand with
  | varnode v => exact v.indent_notMem_pieces language
  | label number => simp [pieces]

theorem indent_notMem_listPieces (language : Language) (operands : List Operand) :
    Piece.indent ∉ listPieces language operands := by
  induction operands with
  | nil => simp [listPieces]
  | cons operand operands ih =>
      rw [listPieces_cons, List.mem_append, not_or]
      refine ⟨operand.indent_notMem_pieces language, ?_⟩
      cases operands with
      | nil => simp
      | cons => simpa using ih

end Operand

namespace OpTemplate

variable {template : OpTemplate} {all : List Span}

theorem indent_notMem_outputPieces (language : Language) (template : OpTemplate) :
    Piece.indent ∉ template.outputPieces language := by
  unfold outputPieces
  split
  · simpa using Varnode.indent_notMem_pieces language _
  · simp

theorem indent_notMem_actionPieces (language : Language) (template : OpTemplate) :
    Piece.indent ∉ template.actionPieces language := by
  have listed := Operand.indent_notMem_listPieces language
  have shown := Operand.indent_notMem_pieces language
  obtain ⟨opcode, output, operands⟩ := template
  unfold actionPieces
  cases operands with
  | nil => simp [selector?]
  | cons first rest =>
      cases selector? ⟨opcode, output, first :: rest⟩ with
      | none => simp [listed]
      | some number =>
          dsimp only [List.tail_cons]
          by_cases call : opcode = Opcode.callOther
          · simp [if_pos call, listed]
          · rw [if_neg call]
            by_cases memory : opcode = Opcode.load ∨ opcode = Opcode.store
            · rw [if_pos memory]
              rcases rest with _ | ⟨address, _ | ⟨value, values⟩⟩ <;> simp [listed, shown]
            · simp [if_neg memory, listed]

/-! ## Indentations -/

/-- Where rows are indented, an operation's row begins with an indentation. -/
theorem head?_of_shown (indented : legend.indent = true)
    (shown : Piece.ShownAs legend (template.pieces legend.language) all) :
    all.head? = some (.indent, Piece.indentText) := by
  obtain ⟨output, rest, _, _, _, rfl⟩ := exists_of_pieces shown
  unfold lead
  rw [if_pos indented]
  rfl

/-- Where rows are not indented, there is no indentation in the row of an operation. -/
theorem category_ne_indent (flush : legend.indent = false)
    (shown : Piece.ShownAs legend (template.pieces legend.language) all) :
    ∀ span ∈ all, span.1 ≠ .indent := by
  have apart : Piece.ShownAs legend ([.indent] ++ (template.outputPieces legend.language
      ++ template.actionPieces legend.language)) all := shown
  obtain ⟨margin, rest, before, action, rfl⟩ := apart.of_append
  have none : margin = [] := by
    obtain ⟨language, userops, indent⟩ := legend
    cases flush
    cases before
    rfl
  rw [none, List.nil_append]
  refine action.category_ne_indent ?_
  rw [List.mem_append, not_or]
  exact ⟨indent_notMem_outputPieces _ _, indent_notMem_actionPieces _ _⟩

/-! ## Names -/

theorem filter_namesOperation {spans : List Span} (unnamed : Unnamed spans) :
    spans.filter (fun span => span.1.namesOperation) = [] := by
  simpa [Unnamed] using unnamed

theorem mnemonic_of_laid {opcode : Int} {head : Span} {inputs : List (List Span)}
    {tail : List Span} (laid : Laid opcode head inputs tail) (named : head.1 ≠ .userop) :
    Opcode.mnemonic opcode = .ok head.2 := by
  cases laid with
  | call => exact absurd rfl named
  | access mnemonic | plain mnemonic => exact mnemonic

/-- One span names an operation. Unless it is the name of a user operation, it is the mnemonic. -/
theorem named_of_shown (shown : Piece.ShownAs legend (template.pieces legend.language) all) :
    ∃ text, (all.filter fun span => span.1.namesOperation) = [(template.headCategory, text)]
      ∧ (template.headCategory ≠ .userop → Opcode.mnemonic template.opcode = .ok text) := by
  obtain ⟨output, _, _, unnamed, ⟨head, inputs, tail, rfl, category, _, laid⟩, rfl⟩ :=
    exists_of_pieces shown
  refine ⟨head.2, ?_, ?_⟩
  · rw [List.filter_append, filter_namesOperation unnamed, List.filter_cons, if_pos laid.named,
      filter_namesOperation laid.unnamed, ← category]
    rfl
  · rw [← category]
    exact mnemonic_of_laid laid

end OpTemplate

/-! ## Operations and their templates -/

/-- The category of the span that names an operation: that of a user operation if a constant selects
one, and otherwise that of the mnemonic. -/
def MicroOp.headCategory (op : MicroOp) : Category :=
  if op.opcode = Opcode.callOther ∧ op.inputs.head?.any Varnode.isConstant then .userop
  else Opcode.category op.opcode

theorem MicroOp.isBranch_of_callOther {op : MicroOp} (call : op.opcode = Opcode.callOther) :
    op.isBranch = false := by
  rw [isBranch, call]
  rfl

/-- A template names the operation that it shows, wherever the labels are. -/
theorem Template.headCategory_of_resolves {ops : List MicroOp} {templates : List Template}
    {position : Nat} {operation : MicroOp} {template : OpTemplate}
    (resolves : Resolves ops templates) (there : ops[position]? = some operation)
    (shown : (templates.filterMap op?)[position]? = some template) :
    template.headCategory = operation.headCategory := by
  have opcode := (resolves.shown position operation template there shown).1
  unfold OpTemplate.headCategory MicroOp.headCategory
  rw [opcode]
  by_cases goes : ∃ target, BranchesTo ops position target
  · -- The label in place of a distance selects nothing, and a branch is no user operation.
    obtain ⟨target, other, distance, _, found, branch, _⟩ := goes
    rw [there] at found
    injection found with found
    subst found
    have noCall : ¬ operation.opcode = Opcode.callOther := by
      intro call
      have isBranch := MicroOp.isBranch_of_distance? branch
      rw [MicroOp.isBranch_of_callOther call] at isBranch
      cases isBranch
    rw [if_neg fun call => noCall call.1, if_neg fun call => noCall call.1]
  · have operands := resolves.plain position operation template (not_exists.mp goes) there shown
    have selected : template.selector?.isSome = operation.inputs.head?.any Varnode.isConstant := by
      unfold OpTemplate.selector?
      rw [operands]
      cases operation.inputs with
      | nil => rfl
      | cons first rest => cases constant : first.isConstant <;> simp [constant]
    rw [selected]

end PcodePanel
