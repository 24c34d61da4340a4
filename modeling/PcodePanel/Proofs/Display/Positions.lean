import PcodePanel.Proofs.Display.Formatting
import PcodePanel.Proofs.Display.Heading

/-!
# The positions of rows

A frame is shown by the templates of its own code, which have their rows one by one. So the place of
a template is the position of its row, and what is known of the one is known of the other.

* `Listing.Shows` — the rows of a frame's own templates;
* `Formatted.Placed` — where rows are, how many there are, and what they begin with and name;
* `Formatted.placed_ofFrame` — whatever is made of a frame by its own templates is placed so.
-/

namespace PcodePanel

open Template (opPlace labelPlace reached)

/-! ## Rows of templates -/

section Rows

variable {legend : Legend} {templates : List Template} {rows : List Row}

theorem length_filterMap_operation?
    (shown : List.Forall₂ (Template.ShownBy legend) templates rows) :
    (rows.filterMap Row.operation?).length = Template.opCount templates := by
  induction shown with
  | nil => rfl
  | @cons template row templates rows here _ ih =>
      cases template <;> cases row <;> first
        | exact here.elim
        | exact ih
        | exact congrArg Nat.succ ih

/-- What is collected from a list, at the place of an element that it is collected from. -/
theorem getElem?_filterMap_of_getElem? {α β : Type} {f : α → Option β} {list : List α} {a : α}
    {b : β} {position : Nat} (there : list[position]? = some a) (collected : f a = some b) :
    (list.filterMap f)[((list.take position).filterMap f).length]? = some b := by
  obtain ⟨inside, rfl⟩ := List.getElem?_eq_some_iff.mp there
  have split := congrArg (List.filterMap f) (List.take_append_drop position list).symm
  rw [List.filterMap_append, List.drop_eq_getElem_cons inside,
    List.filterMap_cons_some collected] at split
  rw [split, List.getElem?_append_right (Nat.le_refl _), Nat.sub_self, List.getElem?_cons_zero]

/-- The row at a position shows the template at it. If it shows an operation, as many operations are
shown before it as there are templates of operations before that template. -/
theorem Template.exists_of_row {row : Row} {position : Nat}
    (shown : List.Forall₂ (ShownBy legend) templates rows) (there : rows[position]? = some row) :
    ∃ template, templates[position]? = some template ∧ template.ShownBy legend row
      ∧ ∀ operation, row.operation? = some operation →
        (rows.filterMap Row.operation?)[opCount (templates.take position)]? = some operation := by
  obtain ⟨inside, rfl⟩ := List.getElem?_eq_some_iff.mp there
  have inTemplates : position < templates.length := by rwa [shown.length_eq]
  refine ⟨templates[position], List.getElem?_eq_getElem inTemplates,
    shown.get inTemplates inside, ?_⟩
  intro operation shows
  rw [← length_filterMap_operation? (List.forall₂_take position shown)]
  exact getElem?_filterMap_of_getElem? there shows

/-- A template has its row where it stands. -/
theorem Template.exists_row {first last : List Template} {template : Template}
    (shown : List.Forall₂ (ShownBy legend) (first ++ template :: last) rows) :
    ∃ row, rows[first.length]? = some row ∧ template.ShownBy legend row
      ∧ ∀ operation, row.operation? = some operation →
        (rows.filterMap Row.operation?)[opCount first]? = some operation := by
  have inside : first.length < rows.length := by
    rw [← shown.length_eq, List.length_append, List.length_cons]
    omega
  have there := List.getElem?_eq_getElem inside
  obtain ⟨other, found, shownBy, shows⟩ := exists_of_row shown there
  rw [List.getElem?_append_right (Nat.le_refl _), Nat.sub_self, List.getElem?_cons_zero] at found
  injection found with found
  rw [← found] at shownBy
  rw [List.take_left' rfl] at shows
  exact ⟨_, there, shownBy, shows⟩

end Rows

theorem getElem?_firstAt {current : Int} {before : Option Nat} {ops : List MicroOp}
    {position : Nat} {operation : MicroOp} {isNext : Bool} :
    (firstAt current before ops)[position]? = some (operation, isNext)
      ↔ ops[position]? = some operation
        ∧ isNext = (before.isNone
          && ops.findIdx? (fun op => decide (op.sequence.time = current)) == some position) := by
  rw [firstAt, List.getElem?_mapIdx, Option.map_eq_some_iff]
  constructor
  · rintro ⟨other, found, same⟩
    injection same with same flag
    exact ⟨same ▸ found, flag.symm⟩
  · rintro ⟨found, rfl⟩
    exact ⟨operation, found, rfl⟩

theorem map_fst_firstAt (current : Int) (before : Option Nat) (ops : List MicroOp) :
    (firstAt current before ops).map Prod.fst = ops := by
  refine List.ext_getElem? fun position => ?_
  rw [List.getElem?_map, firstAt, List.getElem?_mapIdx, Option.map_map]
  exact congrFun Option.map_id _

/-! ## Walks that come to their end -/

namespace Listing

theorem along_of_walk {legend : Legend} {current : Int} {templates : List Template}
    {code : List MicroOp} {position : Nat} {before : Option Nat} {listing : Listing}
    (walked : walk legend current templates code position before = .ok listing) :
    Along legend current templates code before listing := by
  obtain ⟨other, again, along⟩ := along_walk current code position before (canShow_of_walk walked)
  rw [walked] at again
  injection again with same
  rw [same]
  exact along

/-- The rows of the templates of a frame's own code. -/
structure Shows (legend : Legend) (frame : Frame) (templates : List Template) (body : List Row) :
    Prop where
  derived : Template.ofOps frame.code = .ok templates
  shown : List.Forall₂ (Template.ShownBy legend) templates body
  operations : body.filterMap Row.operation? = firstAt frame.index none frame.code

theorem exists_shows {language : Language} {frame : Frame} {indent : Option Bool}
    {listing : Listing} (listed : ofFrame language frame indent = .ok listing) :
    ∃ templates body,
      Shows (.ofFrame language frame (indent.getD (templates.any Template.isLabel))) frame
        templates body
      ∧ listing.rows = body ++ closing frame body.length := by
  obtain ⟨templates, derived, listed⟩ := bind_eq_ok_iff.mp listed
  obtain ⟨walked, ok, listed⟩ := bind_eq_ok_iff.mp listed
  injection listed with listed
  obtain ⟨shown, operations, _⟩ := along_of_walk ok
  have count := (Template.resolves_of_ofOps derived).opCount_eq
  rw [Template.kept_eq_self (Nat.le_of_eq count)] at shown
  rw [count, List.take_length] at operations
  exact ⟨templates, walked.rows, ⟨derived, shown, operations⟩, by rw [← listed]⟩

/-! ### Operations in rows -/

theorem filterMap_operation?_closing (frame : Frame) (position : Nat) :
    (closing frame position).filterMap Row.operation? = [] := by
  unfold closing
  split
  · rfl
  · split <;> rfl

/-- The closing row shows no operation. -/
theorem mem_of_op_mem {frame : Frame} {body : List Row} {position : Nat} {index : Int}
    {operation : MicroOp} {isNext : Bool} {tokens : List Token}
    (member : .op index operation isNext tokens ∈ body ++ closing frame position) :
    .op index operation isNext tokens ∈ body := by
  refine (List.mem_append.mp member).resolve_right fun last => ?_
  have collected : (operation, isNext) ∈ (closing frame position).filterMap Row.operation? :=
    List.mem_filterMap.mpr ⟨_, last, rfl⟩
  rw [filterMap_operation?_closing] at collected
  exact List.not_mem_nil collected

namespace Shows

variable {legend : Legend} {frame : Frame} {templates : List Template} {body : List Row}
  (shows : Shows legend frame templates body)
include shows

theorem length_body : body.length = frame.code.length + (reached frame.code).card := by
  rw [← shows.shown.length_eq, Template.length_of_ofOps shows.derived]

/-- An operation has its row at its place, and it is marked if the operation is the first at the
frame's step. -/
theorem op_row {position : Nat} {operation : MicroOp}
    (there : frame.code[position]? = some operation) :
    ∃ index tokens, body[opPlace frame.code position]? = some (.op index operation
      (frame.code.findIdx? (fun op => decide (op.sequence.time = frame.index)) == some position)
      tokens) := by
  obtain ⟨first, template, last, split, count, place⟩ :=
    Template.split_at_op shows.derived (List.getElem?_eq_some_iff.mp there).1
  obtain ⟨row, found, shown, takes⟩ := Template.exists_row (split ▸ shows.shown)
  rw [place] at found
  rw [count, shows.operations] at takes
  cases row with
  | op index own isNext tokens =>
      obtain ⟨same, flag⟩ := getElem?_firstAt.mp (takes (own, isNext) rfl)
      rw [there] at same
      injection same with same
      rw [← same, flag] at found
      exact ⟨index, tokens, found⟩
  | _ => exact shown.elim

/-- The label of a target has its row at its place, and is written by its number. -/
theorem label_row {target : Nat} (needed : target ∈ reached frame.code) :
    ∃ index tokens, body[labelPlace frame.code target]? = some (.label index tokens)
      ∧ Piece.tokens legend
          [.lineLabel (((reached frame.code).filter (· < target)).card : Nat)] = .ok tokens := by
  obtain ⟨first, last, split, place⟩ := Template.split_at_label shows.derived needed
  obtain ⟨row, found, shown, _⟩ := Template.exists_row (split ▸ shows.shown)
  rw [place] at found
  cases row with
  | label index tokens => exact ⟨index, tokens, found, shown⟩
  | _ => exact shown.elim

/-- A row of an operation shows the template of an operation of the frame. -/
theorem exists_of_op_row {index : Int} {operation : MicroOp} {isNext : Bool} {tokens : List Token}
    (member : .op index operation isNext tokens ∈ body) :
    ∃ position template, frame.code[position]? = some operation
      ∧ isNext = (frame.code.findIdx? (fun op => decide (op.sequence.time = frame.index))
        == some position)
      ∧ (templates.filterMap Template.op?)[position]? = some template
      ∧ Template.ShownBy legend (.op template) (.op index operation isNext tokens) := by
  obtain ⟨place, there⟩ := List.getElem?_of_mem member
  obtain ⟨template, found, shown, takes⟩ := Template.exists_of_row shows.shown there
  rw [shows.operations] at takes
  obtain ⟨same, flag⟩ := getElem?_firstAt.mp (takes (operation, isNext) rfl)
  cases template with
  | label => exact shown.elim
  | op template =>
      exact ⟨_, template, same, flag, getElem?_filterMap_of_getElem? found rfl, shown⟩

/-- The spans of an operation's row are those of a template that names the operation. -/
theorem exists_template {index : Int} {operation : MicroOp} {isNext : Bool} {tokens : List Token}
    (member : .op index operation isNext tokens ∈ body) : ∃ template : OpTemplate,
      template.headCategory = operation.headCategory ∧ template.opcode = operation.opcode
        ∧ Piece.ShownAs legend (template.pieces legend.language) (tokens.map Token.span) := by
  obtain ⟨position, template, there, _, found, shown⟩ := shows.exists_of_op_row member
  have resolves := Template.resolves_of_ofOps shows.derived
  obtain ⟨_, spans, made⟩ := shown.shownAs
  cases spans
  exact ⟨template, Template.headCategory_of_resolves resolves there found,
    (resolves.shown position operation template there found).1, made⟩

/-- A row that is marked is that of the first operation at the frame's step. -/
theorem nextRow_eq {nextRow : Option Nat}
    (marks : MarksNext (body ++ closing frame body.length) nextRow) :
    nextRow = (frame.code.findIdx? fun op => decide (op.sequence.time = frame.index)).map
      (opPlace frame.code) := by
  cases first : frame.code.findIdx? fun op => decide (op.sequence.time = frame.index) with
  | none =>
      cases next : nextRow with
      | none => rfl
      | some place =>
          obtain ⟨row, there, isNext⟩ := (marks place).mp next
          rcases @row_cases frame ⟨body, none, 0⟩ _ _ there with inBody | ⟨_, unmarked⟩
          · cases row with
            | op index operation flag tokens =>
                obtain ⟨position, _, _, marked, _⟩ :=
                  shows.exists_of_op_row (List.mem_of_getElem? inBody)
                rw [first] at marked
                cases marked
                cases isNext
            | _ => cases isNext
          · rw [unmarked] at isNext
            cases isNext
  | some position =>
      obtain ⟨inside, _⟩ := List.findIdx?_eq_some_iff_getElem.mp first
      obtain ⟨index, tokens, there⟩ := shows.op_row (List.getElem?_eq_getElem inside)
      rw [first, beq_self_eq_true] at there
      refine (marks _).mpr ⟨.op index frame.code[position] true tokens, ?_, rfl⟩
      rw [List.getElem?_append_left (List.getElem?_eq_some_iff.mp there).1]
      exact there

/-- Rows are labelled exactly if there are targets. -/
theorem isLabel_iff : templates.any Template.isLabel = true ↔ (reached frame.code).Nonempty := by
  rw [List.any_eq_true]
  constructor
  · rintro ⟨template, member, isLabel⟩
    cases template with
    | label number =>
        obtain ⟨first, last, split⟩ := List.append_of_mem member
        have resolves := Template.resolves_of_ofOps shows.derived
        exact ⟨Template.opCount first,
          Template.mem_reached.mpr ((resolves.targets _).mp ⟨number, first, last, split, rfl⟩)⟩
    | op => cases isLabel
  · rintro ⟨target, needed⟩
    obtain ⟨first, last, split, _⟩ := Template.split_at_label shows.derived needed
    exact ⟨_, split ▸ List.mem_append_right first List.mem_cons_self, rfl⟩

end Shows

end Listing

/-! ## Steps that are positions -/

section Times

variable {ops : List MicroOp} {current : Int}
  (times : ∀ (position : Nat) op, ops[position]? = some op → op.sequence.time = position)
include times

theorem findIdx?_of_lt {position : Nat} (inside : position < ops.length)
    (here : current = position) :
    ops.findIdx? (fun op => decide (op.sequence.time = current)) = some position := by
  have timeAt : ∀ (i : Nat) (h : i < ops.length), ops[i].sequence.time = i :=
    fun i h => times i _ (List.getElem?_eq_getElem h)
  refine List.findIdx?_eq_some_iff_getElem.mpr ⟨inside, ?_, ?_⟩
  · rw [timeAt, here, decide_eq_true_iff]
  · intro i earlier
    rw [timeAt, decide_eq_true_iff]
    omega

theorem findIdx?_of_le (beyond : (ops.length : Int) ≤ current) :
    ops.findIdx? (fun op => decide (op.sequence.time = current)) = none := by
  rw [List.findIdx?_eq_none_iff]
  intro op member
  obtain ⟨position, there⟩ := List.getElem?_of_mem member
  have inside := (List.getElem?_eq_some_iff.mp there).1
  rw [times position op there, decide_eq_false_iff_not]
  omega

end Times

/-! ## What is made of a frame -/

theorem tokens_lineLabel {legend : Legend} {number : Int} {tokens : List Token}
    (rendered : Piece.tokens legend [.lineLabel number] = .ok tokens) :
    tokens = [.of .lineLabel ("<" ++ Numeral.decimal number ++ ">")] := by
  obtain ⟨found, each, rendered⟩ := bind_eq_ok_iff.mp rendered
  cases mapM_eq_ok_iff.mp each with
  | cons first others =>
      cases others
      obtain ⟨text, labelled, first⟩ := bind_eq_ok_iff.mp first
      obtain ⟨digits, written, labelled⟩ := bind_eq_ok_iff.mp labelled
      obtain ⟨_, rfl⟩ := Numeral.write_eq_ok_iff.mp written
      cases labelled
      cases first
      cases rendered
      rfl

/-- The rows of a frame are in their places. -/
structure Formatted.Placed (frame : Frame) (indent : Option Bool) (formatted : Formatted) :
    Prop where
  /-- The rows for operations show those of the frame, in order. -/
  operations : (formatted.rows.filterMap Row.operation?).map Prod.fst = frame.code
  /-- An operation's row has as many labels before it as there are targets up to the operation. -/
  op : ∀ (position : Nat) operation, frame.code[position]? = some operation →
    ∃ isNext tokens, formatted.rows[opPlace frame.code position]?
      = some (.op (opPlace frame.code position) operation isNext tokens)
  /-- A target's label has as many labels before it as there are targets before the target, and is
  numbered by them. -/
  label : ∀ target ∈ reached frame.code, formatted.rows[labelPlace frame.code target]?
    = some (.label (labelPlace frame.code target) [.of .lineLabel
      ("<" ++ Numeral.decimal ((reached frame.code).filter (· < target)).card ++ ">")])
  /-- Before a closing row, there is a row for each operation and each target. -/
  count : ∃ body, formatted.rows = body ++ Listing.closing frame body.length
    ∧ body.length = frame.code.length + (reached frame.code).card
  /-- There are no more targets than branches. -/
  few : (reached frame.code).card ≤ frame.code.countP MicroOp.isBranch
  /-- If operations have their positions for steps, the next row is that of the operation at the
  frame's index, and there is none exactly if the frame is finished. -/
  next : (∀ (position : Nat) operation, frame.code[position]? = some operation →
      operation.sequence.time = position) → 0 ≤ frame.index →
    (formatted.nextRow = none ↔ frame.isFinished = true)
      ∧ (frame.isFinished = false →
        formatted.nextRow = some (opPlace frame.code frame.index.toNat))
  /-- Where nothing is said about it, operations are indented if there are targets. -/
  indented : indent = none → (reached frame.code).Nonempty →
    ∀ index operation isNext tokens, .op index operation isNext tokens ∈ formatted.rows →
      (tokens.map Token.span).head? = some (.indent, Piece.indentText)
  /-- If there are none, nothing is indented. -/
  flush : indent = none → reached frame.code = ∅ →
    ∀ index operation isNext tokens, .op index operation isNext tokens ∈ formatted.rows →
      ∀ span ∈ tokens.map Token.span, span.1 ≠ .indent
  /-- One span of an operation's row names the operation, and unless a constant selects a user
  operation, it is the mnemonic. -/
  named : ∀ index operation isNext tokens, .op index operation isNext tokens ∈ formatted.rows →
    ∃ text, ((tokens.map Token.span).filter fun span => span.1.namesOperation)
        = [(operation.headCategory, text)]
      ∧ (operation.headCategory ≠ .userop → operation.mnemonic = .ok text)

namespace Listing.Shows

variable {language : Language} {frame : Frame} {indent : Option Bool} {templates : List Template}
  {body : List Row}

/-- The rows of templates, with a closing row, are in their places. -/
theorem placed {formatted : Formatted}
    (shows : Shows (.ofFrame language frame (indent.getD (templates.any Template.isLabel))) frame
      templates body) (rows : formatted.rows = body ++ closing frame body.length)
    (numbered : Numbered formatted.rows) (marks : MarksNext formatted.rows formatted.nextRow) :
    formatted.Placed frame indent := by
  have inRows : ∀ {place : Nat} {row : Row}, body[place]? = some row →
      formatted.rows[place]? = some row := by
    intro place row there
    rw [rows, List.getElem?_append_left (List.getElem?_eq_some_iff.mp there).1, there]
  have inBody : ∀ {index : Int} {operation : MicroOp} {isNext : Bool} {tokens : List Token},
      .op index operation isNext tokens ∈ formatted.rows → ∃ template : OpTemplate,
        template.headCategory = operation.headCategory ∧ template.opcode = operation.opcode
          ∧ Piece.ShownAs (.ofFrame language frame (indent.getD (templates.any Template.isLabel)))
            (template.pieces language) (tokens.map Token.span) := by
    intro index operation isNext tokens member
    rw [rows] at member
    exact shows.exists_template (mem_of_op_mem member)
  constructor
  case operations =>
    rw [rows, List.filterMap_append, filterMap_operation?_closing, List.append_nil,
      shows.operations, map_fst_firstAt]
  case op =>
    intro position operation there
    obtain ⟨index, tokens, found⟩ := shows.op_row there
    have found := inRows found
    obtain rfl := numbered _ _ found
    exact ⟨_, tokens, found⟩
  case label =>
    intro target needed
    obtain ⟨index, tokens, found, rendered⟩ := shows.label_row needed
    have found := inRows found
    obtain rfl := numbered _ _ found
    rw [tokens_lineLabel rendered] at found
    exact found
  case count => exact ⟨body, rows, shows.length_body⟩
  case few => exact Template.card_reached_le shows.derived
  case next =>
    intro times nonneg
    have next := shows.nextRow_eq (rows ▸ marks)
    unfold Frame.isFinished
    by_cases beyond : (frame.code.length : Int) ≤ frame.index
    · rw [next, findIdx?_of_le times beyond]
      simp [beyond]
    · have inside : frame.index.toNat < frame.code.length := by omega
      have here : frame.index = frame.index.toNat := by omega
      rw [next, findIdx?_of_lt times inside here]
      simp [beyond]
  case indented =>
    rintro rfl needed index operation isNext tokens member
    obtain ⟨template, _, _, made⟩ := inBody member
    exact OpTemplate.head?_of_shown (shows.isLabel_iff.mpr needed) made
  case flush =>
    rintro rfl none index operation isNext tokens member
    obtain ⟨template, _, _, made⟩ := inBody member
    refine OpTemplate.category_ne_indent ?_ made
    refine Bool.eq_false_iff.mpr fun isLabel => ?_
    rw [← Finset.not_nonempty_iff_eq_empty] at none
    exact none (shows.isLabel_iff.mp isLabel)
  case named =>
    intro index operation isNext tokens member
    obtain ⟨template, category, opcode, made⟩ := inBody member
    have named := OpTemplate.named_of_shown made
    rw [category, opcode] at named
    exact named

end Listing.Shows

/-- **The positions of rows.** Whatever is made of a frame by the templates of its own code, its
rows are in their places. -/
theorem Formatted.placed_ofFrame {language : Language} {frame : Frame} {indent : Option Bool}
    {formatted : Formatted} (made : ofFrame language frame indent = .ok formatted) :
    formatted.Placed frame indent := by
  rw [ofFrame_eq] at made
  cases listed : Listing.ofFrame language frame indent with
  | error fault =>
      rw [listed] at made
      cases made
  | ok listing =>
      rw [listed] at made
      cases made
      obtain ⟨templates, body, shows, rows⟩ := Listing.exists_shows listed
      exact shows.placed rows (Listing.numbered_ofFrame listed) (Listing.marksNext_ofFrame listed)

/-- Code with labels before three operations and at its end, stopped at the third of the three. -/
def Sample.turning : Frame where
  code := Template.Sample.jumps
  index := 3

/-- There are three labels before the next operation. -/
theorem Formatted.placed_ofFrame_turning :
    ∃ formatted, ofFrame ⟨"x", false, [], [], []⟩ Sample.turning none = .ok formatted
      ∧ formatted.Placed Sample.turning none ∧ formatted.nextRow = some 6
      ∧ opPlace Sample.turning.code 3 = 6 ∧ reached Sample.turning.code = {0, 2, 3, 6} := by
  have next : (ofFrame ⟨"x", false, [], [], []⟩ Sample.turning none).map Formatted.nextRow
      = .ok (some 6) := by
    decide +kernel
  cases made : ofFrame ⟨"x", false, [], [], []⟩ Sample.turning none with
  | error fault =>
      rw [made] at next
      cases next
  | ok formatted =>
      rw [made] at next
      injection next with next
      exact ⟨formatted, rfl, placed_ofFrame made, next, by decide +kernel, by decide +kernel⟩

end PcodePanel
