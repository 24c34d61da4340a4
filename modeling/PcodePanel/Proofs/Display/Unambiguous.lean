import PcodePanel.Proofs.Display.Layout
import PcodePanel.Proofs.Display.Temporaries

/-!
# Operations can be told apart

The spans of a row tell which operation it shows, as far as anything of the operation is shown.

* `OpTemplate.inputPieces` — how each input of an operation is shown;
* `OpTemplate.laidOut_actionPieces` — an operation and its inputs are laid out in one of three ways;
* `OpTemplate.SameDisplay` — two operations have all in common that is shown of them;
* `OpTemplate.unambiguous` — the spans of a row name one operation, and determine what it shows.
-/

namespace PcodePanel

open PcodePanel.Span (separator separated spaced followers separated_cons)

/-! ## The spans of pieces -/

variable {legend : Legend}

namespace Piece

/-- The spans that show pieces. -/
def spans (legend : Legend) (pieces : List Piece) : Except Fault (List Span) :=
  return (← tokens legend pieces).map Token.span

/-- Pieces are shown by spans. -/
def ShownAs (legend : Legend) (pieces : List Piece) (all : List Span) : Prop :=
  spans legend pieces = .ok all

/-- Pieces are shown alike: by the same spans. -/
def ShownAlike (legend : Legend) (pieces others : List Piece) : Prop :=
  ∃ all, ShownAs legend pieces all ∧ ShownAs legend others all

/-- The category of a piece's span. -/
def category : Piece → Category
  | address _ => .address
  | register _ => .register
  | scalar _ => .scalar
  | unique .. => .unique
  | lineLabel _ => .lineLabel
  | mnemonic opcode => Opcode.category opcode
  | raw .. => .raw
  | space _ | spaceNumber _ => .space
  | userop _ => .userop
  | indent => .indent
  | separator _ => .separator

theorem ShownAs.of_append {pieces others : List Piece} {all : List Span}
    (shown : ShownAs legend (pieces ++ others) all) :
    ∃ first rest, ShownAs legend pieces first ∧ ShownAs legend others rest
      ∧ all = first ++ rest := by
  obtain ⟨tokens, rendered, shown⟩ := bind_eq_ok_iff.mp shown
  obtain ⟨found, each, rendered⟩ := bind_eq_ok_iff.mp rendered
  rw [List.mapM_append] at each
  obtain ⟨first, before, each⟩ := bind_eq_ok_iff.mp each
  obtain ⟨rest, after, each⟩ := bind_eq_ok_iff.mp each
  cases each
  cases rendered
  cases shown
  refine ⟨_, _, bind_eq_ok_iff.mpr ⟨_, bind_eq_ok_iff.mpr ⟨_, before, rfl⟩, rfl⟩,
    bind_eq_ok_iff.mpr ⟨_, bind_eq_ok_iff.mpr ⟨_, after, rfl⟩, rfl⟩, ?_⟩
  rw [List.filterMap_append, List.map_append]

/-- A piece other than an indentation has one span. -/
theorem ShownAs.of_singleton {piece : Piece} {all : List Span} (shown : ShownAs legend [piece] all)
    (visible : piece ≠ .indent) : ∃ text, all = [(piece.category, text)] := by
  obtain ⟨tokens, rendered, shown⟩ := bind_eq_ok_iff.mp shown
  obtain ⟨found, each, rendered⟩ := bind_eq_ok_iff.mp rendered
  have each := mapM_eq_ok_iff.mp each
  cases each with
  | cons first others =>
      cases others
      cases rendered
      cases shown
      cases piece
      case indent => exact absurd rfl visible
      case address | register | scalar | space | separator =>
        cases first
        exact ⟨_, rfl⟩
      case unique | lineLabel | mnemonic | raw | spaceNumber | userop =>
        obtain ⟨text, _, first⟩ := bind_eq_ok_iff.mp first
        cases first
        exact ⟨_, rfl⟩

theorem ShownAs.of_cons {piece : Piece} {pieces : List Piece} {all : List Span}
    (shown : ShownAs legend (piece :: pieces) all) (visible : piece ≠ .indent) :
    ∃ text rest, ShownAs legend [piece] [(piece.category, text)]
      ∧ ShownAs legend pieces rest ∧ all = (piece.category, text) :: rest := by
  have apart : ShownAs legend ([piece] ++ pieces) all := shown
  obtain ⟨first, rest, here, later, rfl⟩ := apart.of_append
  obtain ⟨text, rfl⟩ := here.of_singleton visible
  exact ⟨text, rest, here, later, rfl⟩

/-- A separator has its own text. -/
theorem ShownAs.of_separator {text : String} {pieces : List Piece} {all : List Span}
    (shown : ShownAs legend (separator text :: pieces) all) :
    ∃ rest, ShownAs legend pieces rest ∧ all = Span.separator (separatorText text) :: rest := by
  obtain ⟨_, rest, here, later, rfl⟩ := shown.of_cons nofun
  cases here
  exact ⟨rest, later, rfl⟩

/-- An opcode has its mnemonic. -/
theorem ShownAs.of_mnemonic {opcode : Int} {pieces : List Piece} {all : List Span}
    (shown : ShownAs legend (mnemonic opcode :: pieces) all) :
    ∃ name rest, Opcode.mnemonic opcode = .ok name ∧ ShownAs legend pieces rest
      ∧ all = (Opcode.category opcode, name) :: rest := by
  obtain ⟨text, rest, here, later, rfl⟩ := shown.of_cons nofun
  refine ⟨text, rest, ?_, later, rfl⟩
  obtain ⟨tokens, rendered, here⟩ := bind_eq_ok_iff.mp here
  obtain ⟨found, each, rendered⟩ := bind_eq_ok_iff.mp rendered
  cases mapM_eq_ok_iff.mp each with
  | cons first others =>
      obtain ⟨name, named, first⟩ := bind_eq_ok_iff.mp first
      cases others
      cases first
      cases rendered
      cases here
      exact named

end Piece

/-! ## Inputs and outputs -/

theorem isOperand_singleton {category : Category} {text : String}
    (unnamed : category.namesOperation = false) (visible : category ≠ .separator)
    (place : category ≠ .space) : IsOperand [(category, text)] := by
  refine ⟨by simp, by simpa using unnamed, ?_, by simpa using place⟩
  intro comma
  exact visible (congrArg Prod.fst (List.mem_singleton.mp comma)).symm

theorem Varnode.isOperand {v : Varnode} {spans : List Span}
    (shown : Piece.ShownAs legend (v.pieces legend.language) spans) : IsOperand spans := by
  have single : ∀ {piece : Piece}, Piece.ShownAs legend [piece] spans →
      piece.category.namesOperation = false → piece.category ≠ .separator →
      piece.category ≠ .space → piece ≠ .indent → IsOperand spans := by
    intro piece shown unnamed visible place drawn
    obtain ⟨text, rfl⟩ := shown.of_singleton drawn
    exact isOperand_singleton unnamed visible place
  unfold pieces at shown
  split at shown
  · exact single shown rfl nofun nofun nofun
  · exact single shown rfl nofun nofun nofun
  · split at shown <;> exact single shown rfl nofun nofun nofun
  · -- Memory is shown by more than one piece. The first is a star.
    cases shown
    refine ⟨by simp, ?_, ?_, by simp [Token.span, TokenKind.category, Token.of]⟩
    · simp [Token.span, TokenKind.category, Token.of, Category.namesOperation]
    · simp [separator, Token.span, TokenKind.category, Token.of, Piece.separatorText]
  · exact single shown rfl nofun nofun nofun

theorem Operand.isOperand {operand : Operand} {spans : List Span}
    (shown : Piece.ShownAs legend (operand.pieces legend.language) spans) : IsOperand spans := by
  cases operand with
  | varnode v => exact Varnode.isOperand shown
  | label number =>
      obtain ⟨text, rfl⟩ := shown.of_singleton nofun
      exact isOperand_singleton rfl nofun nofun

namespace Operand

/-- Operands are shown by spans, each by its own. -/
def ShownAs (legend : Legend) (operands : List Operand) (inputs : List (List Span)) : Prop :=
  List.Forall₂ (fun operand => Piece.ShownAs legend (operand.pieces legend.language))
    operands inputs

variable {operands : List Operand} {inputs : List (List Span)} {all : List Span}

theorem ShownAs.isOperand (shown : ShownAs legend operands inputs) :
    ∀ input ∈ inputs, IsOperand input := by
  induction shown with
  | nil => simp
  | cons first _ ih => exact List.forall_mem_cons.mpr ⟨Operand.isOperand first, ih⟩

theorem ShownAs.map (shown : ShownAs legend operands inputs) :
    List.Forall₂ (Piece.ShownAs legend) (operands.map (pieces legend.language)) inputs :=
  List.forall₂_map_left_iff.mpr shown

theorem listPieces_cons (language : Language) (operand : Operand) (operands : List Operand) :
    listPieces language (operand :: operands)
      = operand.pieces language ++ match operands with
        | [] => []
        | operands => .separator "," :: .separator " " :: listPieces language operands := by
  cases operands with
  | nil => simp [listPieces]
  | cons next operands =>
      rw [listPieces, List.map_cons, List.map_cons, List.intercalate_cons_cons,
        List.append_assoc]
      rfl

theorem shownAs_of_listPieces
    (shown : Piece.ShownAs legend (listPieces legend.language operands) all) :
    ∃ inputs, ShownAs legend operands inputs ∧ all = separated inputs := by
  induction operands generalizing all with
  | nil =>
      cases shown
      exact ⟨[], .nil, rfl⟩
  | cons operand operands ih =>
      rw [listPieces_cons] at shown
      obtain ⟨first, _, here, after, rfl⟩ := shown.of_append
      cases operands with
      | nil =>
          cases after
          exact ⟨[first], .cons here .nil, (separated_cons first []).symm⟩
      | cons next operands =>
          obtain ⟨_, blank, rfl⟩ := after.of_separator
          obtain ⟨_, later, rfl⟩ := blank.of_separator
          obtain ⟨inputs, each, rfl⟩ := ih later
          refine ⟨first :: inputs, .cons here each, ?_⟩
          cases each
          exact (separated_cons first (_ :: _)).symm

theorem shownAs_of_spaced (shown : Piece.ShownAs legend (match operands with
      | [] => []
      | operands => .separator " " :: listPieces legend.language operands) all) :
    ∃ inputs, ShownAs legend operands inputs ∧ all = spaced inputs := by
  cases operands with
  | nil =>
      cases shown
      exact ⟨[], .nil, rfl⟩
  | cons operand operands =>
      obtain ⟨_, listed, rfl⟩ := shown.of_separator
      obtain ⟨inputs, each, rfl⟩ := shownAs_of_listPieces listed
      refine ⟨inputs, each, ?_⟩
      cases each
      rfl

theorem shownAs_of_followers (shown : Piece.ShownAs legend (match operands with
      | [] => []
      | operands => .separator "," :: .separator " " :: listPieces legend.language operands) all) :
    ∃ inputs, ShownAs legend operands inputs ∧ all = followers inputs := by
  cases operands with
  | nil =>
      cases shown
      exact ⟨[], .nil, rfl⟩
  | cons operand operands =>
      obtain ⟨_, blank, rfl⟩ := shown.of_separator
      obtain ⟨_, listed, rfl⟩ := blank.of_separator
      obtain ⟨inputs, each, rfl⟩ := shownAs_of_listPieces listed
      refine ⟨inputs, each, ?_⟩
      cases each
      rfl

end Operand

/-! ## Operations -/

namespace OpTemplate

/-- The category of the span that names the operation. -/
def headCategory (template : OpTemplate) : Category :=
  if template.opcode = Opcode.callOther ∧ template.selector?.isSome then .userop
  else Opcode.category template.opcode

/-- How each input is shown. A constant that selects a user operation or the space of an access is
shown by its name. -/
def inputPieces (language : Language) (template : OpTemplate) : List (List Piece) :=
  let plain := template.operands.map (Operand.pieces language)
  match template.selector? with
  | none => plain
  | some number =>
    if template.opcode = Opcode.callOther then [.userop number] :: plain.tail
    else if (template.opcode = Opcode.load ∨ template.opcode = Opcode.store)
        ∧ 2 ≤ template.operands.length then
      [.spaceNumber number] :: plain.tail
    else plain

theorem length_inputPieces (language : Language) (template : OpTemplate) :
    (template.inputPieces language).length = template.operands.length := by
  unfold inputPieces
  cases selected : template.selector? with
  | none => simp
  | some number =>
      obtain ⟨first, rest, operands, _⟩ := selector?_eq_some selected
      dsimp only
      split
      · simp [operands]
      · split <;> simp [operands]

/-- Spans that show an operation and its inputs, in one of the layouts. -/
def LaidOut (legend : Legend) (template : OpTemplate) (all : List Span) : Prop :=
  ∃ head inputs tail, all = head :: tail ∧ head.1 = template.headCategory
    ∧ List.Forall₂ (Piece.ShownAs legend) (template.inputPieces legend.language) inputs
    ∧ Laid template.opcode head inputs tail

section

variable {template : OpTemplate} {all : List Span} {number : Int}

theorem laidOut_of_plain
    (shown : Piece.ShownAs legend (.mnemonic template.opcode :: match template.operands with
      | [] => []
      | operands => .separator " " :: Operand.listPieces legend.language operands) all)
    (category : template.headCategory = Opcode.category template.opcode)
    (pieces : template.inputPieces legend.language
      = template.operands.map (Operand.pieces legend.language)) : template.LaidOut legend all := by
  obtain ⟨name, _, named, listed, rfl⟩ := shown.of_mnemonic
  obtain ⟨inputs, each, rfl⟩ := Operand.shownAs_of_spaced listed
  refine ⟨_, inputs, _, rfl, category.symm, ?_, .plain named each.isOperand⟩
  rw [pieces]
  exact each.map

theorem laidOut_of_call (selected : template.selector? = some number)
    (call : template.opcode = Opcode.callOther)
    (shown : Piece.ShownAs legend (.userop number :: .separator "("
      :: (Operand.listPieces legend.language template.operands.tail ++ [.separator ")"])) all) :
    template.LaidOut legend all := by
  obtain ⟨name, _, here, opening, rfl⟩ := shown.of_cons nofun
  obtain ⟨_, within, rfl⟩ := opening.of_separator
  obtain ⟨_, _, listed, closing, rfl⟩ := within.of_append
  obtain ⟨inputs, each, rfl⟩ := Operand.shownAs_of_listPieces listed
  cases closing
  refine ⟨_, [(.userop, name)] :: inputs, _, rfl, ?_, ?_, ?_⟩
  · simp [headCategory, call, selected, Piece.category]
  · simp only [inputPieces, selected, call, if_true, ← List.map_tail]
    exact .cons here each.map
  · rw [call]
    exact .call each.isOperand

theorem laidOut_of_access {first address : Operand} {values : List Operand}
    (selected : template.selector? = some number) (call : template.opcode ≠ Opcode.callOther)
    (memory : template.opcode = Opcode.load ∨ template.opcode = Opcode.store)
    (operands : template.operands = first :: address :: values)
    (shown : Piece.ShownAs legend (.mnemonic template.opcode :: .separator " "
      :: .spaceNumber number :: .separator "(" :: (address.pieces legend.language
        ++ .separator ")" :: match values with
          | [] => []
          | values => .separator "," :: .separator " "
            :: Operand.listPieces legend.language values)) all) :
    template.LaidOut legend all := by
  obtain ⟨name, _, named, blank, rfl⟩ := shown.of_mnemonic
  obtain ⟨_, access, rfl⟩ := blank.of_separator
  obtain ⟨space, _, here, opening, rfl⟩ := access.of_cons nofun
  obtain ⟨_, within, rfl⟩ := opening.of_separator
  obtain ⟨place, _, there, closing, rfl⟩ := within.of_append
  obtain ⟨_, after, rfl⟩ := closing.of_separator
  obtain ⟨inputs, each, rfl⟩ := Operand.shownAs_of_followers after
  refine ⟨_, [(.space, space)] :: place :: inputs, _, rfl, ?_, ?_, ?_⟩
  · simp [headCategory, call]
  · have two : 2 ≤ (first :: address :: values).length := by simp
    simp only [inputPieces, selected, if_neg call, operands, if_pos (And.intro memory two)]
    exact .cons here (.cons there each.map)
  · have laid : Laid template.opcode (Opcode.category template.opcode, name)
        ([(.space, space)] :: place :: inputs) _ :=
      .access named (Operand.isOperand there) each.isOperand
    simp only [spaced, separated_cons, List.cons_append, List.append_assoc] at laid
    exact laid

/-- **The layout of an operation.** An operation and its inputs are laid out as one of the ways
says. -/
theorem laidOut_actionPieces
    (shown : Piece.ShownAs legend (template.actionPieces legend.language) all) :
    template.LaidOut legend all := by
  unfold actionPieces at shown
  cases selected : template.selector? with
  | none =>
      rw [selected] at shown
      exact laidOut_of_plain shown (by simp [headCategory, selected])
        (by simp [inputPieces, selected])
  | some number =>
      obtain ⟨first, rest, operands, _⟩ := selector?_eq_some selected
      rw [selected] at shown
      dsimp only at shown
      by_cases call : template.opcode = Opcode.callOther
      · rw [if_pos call] at shown
        exact laidOut_of_call selected call shown
      · have category : template.headCategory = Opcode.category template.opcode := by
          simp [headCategory, call]
        rw [if_neg call] at shown
        by_cases memory : template.opcode = Opcode.load ∨ template.opcode = Opcode.store
        · rw [if_pos memory] at shown
          -- Without an address there is no access, and the constant is shown as it is.
          cases rest with
          | nil =>
              have pieces : template.inputPieces legend.language
                  = template.operands.map (Operand.pieces legend.language) := by
                simp [inputPieces, selected, call, operands]
              have short : template.operands.tail = [] := by rw [operands, List.tail_cons]
              rw [short] at shown
              exact laidOut_of_plain shown category pieces
          | cons address values =>
              rw [operands] at shown
              simp only [List.tail_cons, List.cons_append, List.append_assoc,
                List.nil_append] at shown
              exact laidOut_of_access selected call memory operands shown
        · rw [if_neg memory] at shown
          exact laidOut_of_plain shown category (by simp [inputPieces, selected, call, memory])

end

/-- Two operations have all in common that is shown of them. -/
structure SameDisplay (legend : Legend) (template other : OpTemplate) : Prop where
  /-- Both have an output or none has, and the outputs are shown alike. -/
  output : Option.Rel (fun v w =>
      Piece.ShownAlike legend (v.pieces legend.language) (w.pieces legend.language))
    template.output other.output
  opcode : template.opcode = other.opcode
  /-- They have as many inputs. -/
  count : template.operands.length = other.operands.length
  /-- Each input is shown as that in its place. -/
  inputs : List.Forall₂ (Piece.ShownAlike legend) (template.inputPieces legend.language)
    (other.inputPieces legend.language)

/-- An output is shown by spans, if there is one. -/
def OutputAs (legend : Legend) : Option Varnode → Option (List Span) → Prop :=
  Option.Rel fun v => Piece.ShownAs legend (v.pieces legend.language)

/-- What stands before the name: an indentation and an output. -/
def lead (legend : Legend) (output : Option (List Span)) : List Span :=
  (if legend.indent then [(.indent, Piece.indentText)] else [])
    ++ match output with
      | some spans => spans ++ [separator " = "]
      | none => []

theorem lead_inj {output other : Option (List Span)}
    (same : lead legend output = lead legend other) : output = other := by
  have same := List.append_cancel_left same
  cases output <;> cases other <;> simp_all

/-- A row begins with an indentation and the output. -/
theorem exists_of_pieces {template : OpTemplate} {all : List Span}
    (shown : Piece.ShownAs legend (template.pieces legend.language) all) :
    ∃ output rest, OutputAs legend template.output output ∧ Unnamed (lead legend output)
      ∧ template.LaidOut legend rest ∧ all = lead legend output ++ rest := by
  have apart : Piece.ShownAs legend ([.indent] ++ template.outputPieces legend.language
      ++ template.actionPieces legend.language) all := shown
  obtain ⟨_, rest, before, action, rfl⟩ := apart.of_append
  obtain ⟨margin, written, indented, assigned, rfl⟩ := before.of_append
  have laid := laidOut_actionPieces action
  have same : margin = if legend.indent then [(.indent, Piece.indentText)] else [] := by
    obtain ⟨language, userops, indent⟩ := legend
    cases indent <;> cases indented <;> rfl
  have unnamed : Unnamed margin := by
    rw [same]
    split <;> simp [Category.namesOperation]
  unfold outputPieces at assigned
  cases output : template.output with
  | none =>
      rw [output] at assigned
      cases assigned
      refine ⟨none, rest, .none, ?_, laid, by rw [lead, same]; rfl⟩
      rw [lead, ← same, List.append_nil]
      exact unnamed
  | some v =>
      rw [output] at assigned
      obtain ⟨spans, _, here, sign, rfl⟩ := assigned.of_append
      cases sign
      refine ⟨some spans, rest, .some here, ?_, laid, by rw [lead, same]; rfl⟩
      rw [lead, ← same]
      simpa using And.intro unnamed (Varnode.isOperand here).unnamed

theorem shownAlike_of_forall₂ {pieces others : List (List Piece)} {inputs : List (List Span)}
    (first : List.Forall₂ (Piece.ShownAs legend) pieces inputs)
    (second : List.Forall₂ (Piece.ShownAs legend) others inputs) :
    List.Forall₂ (Piece.ShownAlike legend) pieces others := by
  induction first generalizing others with
  | nil =>
      cases second
      exact .nil
  | cons here _ ih =>
      cases second with
      | cons there later => exact .cons ⟨_, here, there⟩ (ih later)

theorem shownAlike_of_rel {output other : Option Varnode} {spans : Option (List Span)}
    (first : OutputAs legend output spans) (second : OutputAs legend other spans) :
    Option.Rel (fun v w =>
        Piece.ShownAlike legend (v.pieces legend.language) (w.pieces legend.language))
      output other := by
  cases first with
  | none =>
      cases second
      exact .none
  | some here =>
      cases second with
      | some there => exact .some ⟨_, here, there⟩

/-- Operations that are shown by the same spans have the same display. -/
theorem sameDisplay_of_spans {template other : OpTemplate} {all : List Span}
    (first : Piece.ShownAs legend (template.pieces legend.language) all)
    (second : Piece.ShownAs legend (other.pieces legend.language) all) :
    SameDisplay legend template other := by
  obtain ⟨output, _, outputs, unnamed, ⟨head, inputs, tail, rfl, _, each, laid⟩, rfl⟩ :=
    exists_of_pieces first
  obtain ⟨output', _, outputs', unnamed', ⟨head', inputs', tail', rfl, _, each', laid'⟩, same⟩ :=
    exists_of_pieces second
  -- The name is where the spans come apart: nothing before it or after it names an operation.
  have notIn : ∀ {spans : List Span}, Unnamed spans → head' ∉ spans := by
    intro spans unnamed member
    simpa [laid'.named] using unnamed head' member
  obtain ⟨leads, heads, tails⟩ :=
    (List.append_cons_inj_of_notMem (notIn unnamed) (notIn laid.unnamed)).mp same
  obtain ⟨opcode, rfl⟩ := laid.unique laid' heads tails
  obtain rfl := lead_inj leads
  have alike := shownAlike_of_forall₂ each each'
  refine ⟨shownAlike_of_rel outputs outputs', opcode, ?_, alike⟩
  simpa only [length_inputPieces] using alike.length_eq

end OpTemplate

/-- The spans of an operation's row are those of its pieces. -/
theorem Template.ShownBy.shownAs {template : OpTemplate} {row : Row}
    (shown : ShownBy legend (.op template) row) :
    ∃ spans, row.spans = .ok spans
      ∧ Piece.ShownAs legend (template.pieces legend.language) spans := by
  obtain ⟨tokens, rendered, spans⟩ := shown.exists_tokens
  exact ⟨_, spans, bind_eq_ok_iff.mpr ⟨tokens, rendered, rfl⟩⟩

/-- **Operations can be told apart.** Exactly one span of an operation's row names the operation: by
a user operation's name if a constant selects one, and otherwise by a mnemonic, which has a category
of its own if the opcode has no implementation. And in rows for one frame, whatever names are in
use, the same spans are of operations with the same opcode, and with the same output and inputs as
far as these are shown. -/
theorem OpTemplate.unambiguous {language : Language} {frame : Frame} {indent : Bool}
    {template : OpTemplate} {row : Row}
    (shown : Template.ShownBy (.ofFrame language frame indent) (.op template) row) :
    (∃ spans text, row.spans = .ok spans
        ∧ (spans.filter fun span => span.1.namesOperation) = [(template.headCategory, text)])
      ∧ ∀ (other : OpTemplate) (row' : Row),
        Template.ShownBy (.ofFrame language frame indent) (.op other) row' →
        row'.spans = row.spans → SameDisplay (.ofFrame language frame indent) template other := by
  obtain ⟨spans, made, rendered⟩ := shown.shownAs
  constructor
  · obtain ⟨output, _, _, unnamed, ⟨head, inputs, tail, rfl, category, _, laid⟩, rfl⟩ :=
      exists_of_pieces rendered
    refine ⟨_, head.2, made, ?_⟩
    have none : ∀ {spans : List Span}, Unnamed spans →
        (spans.filter fun span => span.1.namesOperation) = [] := by
      intro spans unnamed
      simpa [Unnamed] using unnamed
    rw [List.filter_append, none unnamed, List.filter_cons, if_pos laid.named, none laid.unnamed,
      ← category]
    rfl
  · intro other row' shown' same
    obtain ⟨spans', made', rendered'⟩ := shown'.shownAs
    rw [made, made'] at same
    injection same with same
    subst same
    exact sameDisplay_of_spans rendered rendered'

/-- A language in which two spaces have one name, which looks like a separator. -/
def Sample.commas : Language where
  name := "commas"
  spaces := [(1, ","), (3, ",")]

/-- A constant is written to memory. -/
def Sample.stored : OpTemplate :=
  ⟨Opcode.store, none, [.varnode ⟨.constant, 1, 8, none⟩, .varnode ⟨.unique, 0x20, 8, none⟩,
    .varnode ⟨.constant, 5, 4, none⟩]⟩

/-- The same in a space of the same name, with another width. -/
def Sample.storedBeside : OpTemplate :=
  ⟨Opcode.store, none, [.varnode ⟨.constant, 3, 8, none⟩, .varnode ⟨.unique, 0x20, 8, none⟩,
    .varnode ⟨.constant, 5, 2, none⟩]⟩

/-- The row of both. -/
def Sample.storedRow : Row :=
  .op 0 ⟨Opcode.store, none, [], ⟨0, 0⟩⟩ false
    [.of .mnemonic "STORE", .of .separator " ", .of .space ",", .of .separator "(",
     .of .unique "$U20:8", .of .separator ")", .of .separator ",", .of .separator " ",
     .of .scalar "0x5"]

/-- Operations that differ only in what is not shown of them have one display. -/
theorem OpTemplate.unambiguous_commas :
    let legend := Legend.ofFrame Sample.commas ⟨[], 0, false, false, none, []⟩ false
    Template.ShownBy legend (.op Sample.stored) Sample.storedRow
      ∧ Template.ShownBy legend (.op Sample.storedBeside) Sample.storedRow
      ∧ Sample.stored ≠ Sample.storedBeside
      ∧ (∃ spans text, Sample.storedRow.spans = .ok spans
        ∧ (spans.filter fun span => span.1.namesOperation) = [(.mnemonic, text)])
      ∧ SameDisplay legend Sample.stored Sample.storedBeside := by
  intro legend
  have shown : Template.ShownBy legend (.op Sample.stored) Sample.storedRow := by
    show Piece.tokens _ _ = _
    decide +kernel
  have beside : Template.ShownBy legend (.op Sample.storedBeside) Sample.storedRow := by
    show Piece.tokens _ _ = _
    decide +kernel
  obtain ⟨named, same⟩ := unambiguous shown
  exact ⟨shown, beside, by decide, named, same _ _ beside rfl⟩

end PcodePanel
