import Mathlib.Data.List.Nodup
import PcodePanel.Proofs.Display.Following
import PcodePanel.Proofs.Unique.Naming

/-!
# The temporaries in the rows

A frame's temporaries are scanned twice: for the rows, piece by piece as each operation is shown,
and for the entries, operation by operation. Some forms of an operation leave an input out or show
it otherwise, and a branch has a label in place of one; but what is left out is a constant.

* `OpTemplate.addresses_pieces` — an operation is shown with all its temporaries and no others;
* `Template.addresses_of_resolves` — so is a list of operations by its templates;
* `Template.canShow_of_short` — only a number that is too long stands in the way of showing one;
* `Listing.sameTemporaries_ofFrame` — the rows and the entries of a frame name the same temporaries.
-/

namespace PcodePanel

open PcodePanel.Unique (Address addresses addresses_append)

/-! ## The temporaries among pieces -/

/-- The address of the temporary that a piece shows. -/
def Piece.address? : Piece → Option Address
  | unique offset size => some ⟨offset, size⟩
  | _ => none

@[simp] theorem Piece.address?_separator (text : String) : (separator text).address? = none := rfl

@[simp] theorem Piece.address?_mnemonic (opcode : Int) : (mnemonic opcode).address? = none := rfl

@[simp] theorem Piece.address?_userop (number : Int) : (userop number).address? = none := rfl

@[simp] theorem Piece.address?_spaceNumber (number : Int) :
    (spaceNumber number).address? = none := rfl

variable {language : Language}

theorem addresses_of_isConstant {v : Varnode} (constant : v.isConstant = true)
    (rest : List Varnode) : addresses (v :: rest) = addresses rest := by
  have notUnique : v.isUnique = false := by
    unfold Varnode.isConstant at constant
    unfold Varnode.isUnique
    rw [of_decide_eq_true constant]
    rfl
  simp [addresses, notUnique]

theorem Varnode.addresses_pieces (v : Varnode) :
    (v.pieces language).filterMap Piece.address? = addresses [v] := by
  obtain ⟨space, offset, size, name⟩ := v
  cases space with
  | register =>
      unfold pieces
      dsimp only
      split <;> rfl
  | unique => rfl
  | constant => rfl
  | ram => rfl
  | other => rfl

/-- The varnode that an operand shows, if it is no label. -/
def Operand.varnodes : Operand → List Varnode
  | varnode v => [v]
  | label _ => []

theorem Operand.addresses_pieces (operand : Operand) :
    (operand.pieces language).filterMap Piece.address? = addresses operand.varnodes := by
  cases operand with
  | varnode v => exact v.addresses_pieces
  | label number => rfl

/-- What stands between operands shows no temporary. -/
theorem Operand.addresses_listPieces (operands : List Operand) :
    (listPieces language operands).filterMap Piece.address?
      = addresses (operands.flatMap Operand.varnodes) := by
  unfold listPieces
  induction operands with
  | nil => rfl
  | cons first rest ih =>
      cases rest with
      | nil =>
          rw [List.map_singleton, List.intercalate_singleton, first.addresses_pieces,
            List.flatMap_singleton]
      | cons second rest =>
          have all : addresses ((first :: second :: rest).flatMap Operand.varnodes)
              = addresses first.varnodes
                ++ addresses ((second :: rest).flatMap Operand.varnodes) := by
            rw [List.flatMap_cons, addresses_append]
          rw [List.map_cons, List.map_cons, List.intercalate_cons_cons, List.filterMap_append,
            List.filterMap_append, ← List.map_cons, ih, first.addresses_pieces, all]
          simp [List.filterMap_cons]

namespace OpTemplate

/-- The varnodes that a template shows, the output first. -/
def varnodes (template : OpTemplate) : List Varnode :=
  template.output.toList ++ template.operands.flatMap Operand.varnodes

/-- What selects the form of an operation is a constant. -/
theorem selector?_eq_some {template : OpTemplate} {number : Int}
    (selected : template.selector? = some number) :
    ∃ first rest, template.operands = .varnode first :: rest ∧ first.isConstant = true := by
  unfold selector? at selected
  split at selected
  · next first rest operands =>
    refine ⟨first, rest, operands, ?_⟩
    by_contra notConstant
    rw [if_neg notConstant] at selected
    cases selected
  · cases selected

theorem addresses_outputPieces (template : OpTemplate) :
    (template.outputPieces language).filterMap Piece.address?
      = addresses template.output.toList := by
  unfold outputPieces
  cases template.output with
  | none => rfl
  | some v =>
      rw [List.filterMap_append, v.addresses_pieces, List.filterMap_cons_none rfl,
        List.filterMap_nil, List.append_nil]
      rfl

theorem addresses_actionPieces (template : OpTemplate) :
    (template.actionPieces language).filterMap Piece.address?
      = addresses (template.operands.flatMap Operand.varnodes) := by
  unfold actionPieces
  extract_lets plainPieces
  have plain : plainPieces.filterMap Piece.address?
      = addresses (template.operands.flatMap Operand.varnodes) := by
    unfold plainPieces
    cases template.operands with
    | nil => rfl
    | cons first rest => simp [List.filterMap_cons, Operand.addresses_listPieces]
  cases selected : template.selector? with
  | none => exact plain
  | some number =>
      -- The first operand is shown in a form of its own. It is a constant and no temporary.
      obtain ⟨first, rest, operands, constant⟩ := selector?_eq_some selected
      have others : addresses (template.operands.flatMap Operand.varnodes)
          = addresses (rest.flatMap Operand.varnodes) := by
        rw [operands, List.flatMap_cons]
        exact addresses_of_isConstant constant _
      dsimp only
      split
      · rw [others, operands, List.tail_cons]
        simp [List.filterMap_cons, Operand.addresses_listPieces]
      · split
        · rw [operands, List.tail_cons]
          cases rest with
          | nil =>
              rw [← operands]
              exact plain
          | cons place values =>
              rw [operands] at others
              rw [others, List.flatMap_cons, addresses_append]
              cases values with
              | nil => simp [List.filterMap_cons, place.addresses_pieces, addresses]
              | cons value values =>
                  simp [List.filterMap_cons, place.addresses_pieces,
                    Operand.addresses_listPieces]
        · exact plain

/-- **The pieces of an operation.** Whatever its form, an operation is shown with the temporaries
among its output and operands, in order, and with no others. -/
theorem addresses_pieces (template : OpTemplate) :
    (template.pieces language).filterMap Piece.address? = addresses template.varnodes := by
  rw [pieces, List.cons_append, List.filterMap_cons_none rfl, List.filterMap_append,
    addresses_outputPieces, addresses_actionPieces, ← addresses_append]
  rfl

end OpTemplate

/-! ## Numbers in decimal -/

namespace Piece

/-- The numbers that a piece is written with in decimal. Names are those of the language and, for
user operations, of the frame. -/
def numbers (language : Language) (userops : List (Int × String)) : Piece → List Int
  | unique _ size | raw _ _ size => [size]
  | lineLabel number => [number]
  | mnemonic opcode => if (Opcode.name? opcode).isNone then [opcode] else []
  | spaceNumber number => if (language.space? number).getD "" = "" then [number] else []
  | userop number =>
    if (language.userop? number).isNone && (valueOf? userops number).isNone then [number] else []
  | _ => []

/-- A piece has a text if its numbers are short enough. -/
theorem token?_of_short {legend : Legend} {piece : Piece}
    (short : ∀ number ∈ piece.numbers legend.language legend.userops, Numeral.Short number) :
    ∃ token, piece.token? legend = .ok token := by
  have written : ∀ {number : Int}, Numeral.Short number →
      Numeral.write number = .ok (Numeral.decimal number) := Numeral.write_of_short
  cases piece
  case address | register | scalar | space | indent | separator => exact ⟨_, rfl⟩
  case unique offset size =>
    rw [token?, Unique.unique_of_short (short size List.mem_cons_self)]
    exact ⟨_, rfl⟩
  case raw space offset size =>
    rw [token?, Notation.raw, written (short size List.mem_cons_self)]
    exact ⟨_, rfl⟩
  case lineLabel number =>
    rw [token?, Notation.lineLabel, written (short number List.mem_cons_self)]
    exact ⟨_, rfl⟩
  case mnemonic opcode =>
    rw [token?, Opcode.mnemonic]
    cases name : Opcode.name? opcode with
    | some text => exact ⟨_, rfl⟩
    | none =>
        rw [written (short opcode (by simp [numbers, name]))]
        exact ⟨_, rfl⟩
  case spaceNumber number =>
    rw [token?, Legend.spaceText]
    cases name : legend.language.space? number with
    | some text =>
        dsimp only
        by_cases empty : text = ""
        · rw [if_pos empty, Legend.spaceText.numbered,
            written (short number (by simp [numbers, name, empty]))]
          exact ⟨_, rfl⟩
        · rw [if_neg empty]
          exact ⟨_, rfl⟩
    | none =>
        rw [Legend.spaceText.numbered, written (short number (by simp [numbers, name]))]
        exact ⟨_, rfl⟩
  case userop number =>
    rw [token?, Legend.useropText]
    cases name : legend.language.userop? number with
    | some text => exact ⟨_, rfl⟩
    | none =>
        cases own : valueOf? legend.userops number with
        | some text => exact ⟨_, rfl⟩
        | none =>
            rw [written (short number (by simp [numbers, name, own]))]
            exact ⟨_, rfl⟩

end Piece

/-- The numbers that a template is written with in decimal. -/
def Template.numbers (language : Language) (userops : List (Int × String)) (template : Template) :
    List Int :=
  (template.pieces language).flatMap (Piece.numbers language userops)

/-- Nothing but a number that is too long stands in the way of showing a template. -/
theorem Template.canShow_of_short {legend : Legend} {template : Template}
    (short : ∀ number ∈ template.numbers legend.language legend.userops, Numeral.Short number) :
    template.CanShow legend := by
  unfold CanShow Piece.tokens
  cases found : (template.pieces legend.language).mapM (Piece.token? legend) with
  | ok tokens => exact ⟨_, rfl⟩
  | error fault =>
      obtain ⟨piece, member, refused⟩ := mapM_eq_error found
      obtain ⟨token, shown⟩ := Piece.token?_of_short fun number inside =>
        short number (List.mem_flatMap.mpr ⟨piece, member, inside⟩)
      rw [shown] at refused
      cases refused

/-! ## The temporaries among spans -/

/-- The text of a span that shows a temporary. -/
def temporary? (span : Span) : Option String :=
  if span.1 = .unique then some span.2 else none

/-- A piece has a span for the temporary that it shows. -/
theorem filterMap_token? {legend : Legend} {piece : Piece} {token : Option Token}
    (shown : piece.token? legend = .ok token) :
    (token.toList.map Token.span).filterMap temporary?
      = piece.address?.toList.map Address.text := by
  cases piece
  case unique offset size =>
    obtain ⟨name, written, shown⟩ := bind_eq_ok_iff.mp shown
    obtain ⟨size', short, written⟩ := bind_eq_ok_iff.mp written
    obtain ⟨_, rfl⟩ := Numeral.write_eq_ok_iff.mp short
    cases written
    cases shown
    rfl
  case raw | lineLabel | spaceNumber | userop =>
    obtain ⟨text, _, shown⟩ := bind_eq_ok_iff.mp shown
    cases shown
    rfl
  case mnemonic =>
    obtain ⟨text, _, shown⟩ := bind_eq_ok_iff.mp shown
    cases shown
    split <;> rfl
  case indent =>
    injection shown with shown
    subst shown
    split <;> rfl
  case address | register | scalar | space | separator =>
    cases shown
    rfl

theorem filterMap_tokens {legend : Legend} {pieces : List Piece} {tokens : List Token}
    (rendered : Piece.tokens legend pieces = .ok tokens) :
    (tokens.map Token.span).filterMap temporary?
      = (pieces.filterMap Piece.address?).map Address.text := by
  obtain ⟨found, each, rendered⟩ := bind_eq_ok_iff.mp rendered
  injection rendered with rendered
  subst rendered
  have each := mapM_eq_ok_iff.mp each
  clear * - each
  induction each with
  | nil => rfl
  | @cons piece token pieces found first _ ih =>
      have tokens : (token :: found).filterMap id = token.toList ++ found.filterMap id := by
        cases token <;> rfl
      have shown : (piece :: pieces).filterMap Piece.address?
          = piece.address?.toList ++ pieces.filterMap Piece.address? := by
        rw [List.filterMap_cons]
        cases piece.address? <;> rfl
      rw [tokens, shown, List.map_append, List.filterMap_append, filterMap_token? first, ih,
        List.map_append]

/-! ## The temporaries in rows -/

/-- A row that shows a template has the tokens of its pieces. -/
theorem Template.ShownBy.exists_tokens {legend : Legend} {template : Template} {row : Row}
    (shown : template.ShownBy legend row) :
    ∃ tokens, Piece.tokens legend (template.pieces legend.language) = .ok tokens
      ∧ row.spans = .ok (tokens.map Token.span) := by
  cases template <;> cases row <;> first
    | exact ⟨_, shown, rfl⟩
    | exact shown.elim

/-- Rows for templates have the temporaries that the templates are shown with. -/
theorem spans_of_shown {legend : Legend} {templates : List Template} {rows : List Row}
    (shown : List.Forall₂ (Template.ShownBy legend) templates rows) :
    ∃ spans, rows.mapM Row.spans = .ok spans
      ∧ spans.flatten.filterMap temporary?
        = (templates.flatMap fun template =>
          (template.pieces legend.language).filterMap Piece.address?).map Address.text := by
  induction shown with
  | nil => exact ⟨[], rfl, rfl⟩
  | @cons template row templates rows first _ ih =>
      obtain ⟨rest, others, texts⟩ := ih
      obtain ⟨tokens, rendered, spans⟩ := first.exists_tokens
      refine ⟨tokens.map Token.span :: rest, mapM_eq_ok_iff.mpr (.cons spans
        (mapM_eq_ok_iff.mp others)), ?_⟩
      rw [List.flatten_cons, List.filterMap_append, filterMap_tokens rendered, texts,
        List.flatMap_cons, List.map_append]

/-- The closing row has none. -/
theorem spans_of_closing {frame : Frame} (position : Nat)
    (short : frame.isBranch = true → ∀ target ∈ frame.branched, Numeral.Short target) :
    ∃ spans, (Listing.closing frame position).mapM Row.spans = .ok spans
      ∧ spans.flatten.filterMap temporary? = [] := by
  unfold Listing.closing
  split
  · next branch =>
    cases target : frame.branched with
    | none => exact ⟨[[(.text, "(branched)")]], rfl, rfl⟩
    | some address =>
        have written := Numeral.write_of_short (short branch address target)
        refine ⟨[[(.text, "(branched to " ++ Numeral.decimal address ++ ")")]], ?_, rfl⟩
        refine mapM_eq_ok_iff.mpr (.cons ?_ .nil)
        rw [Row.spans, written]
        rfl
  · split
    · exact ⟨[[(.text, "(fall-through)")]], rfl, rfl⟩
    · exact ⟨[], rfl, rfl⟩

namespace Template

theorem kept_eq_self {templates : List Template} {room : Nat}
    (enough : opCount templates ≤ room) : kept templates room = templates := by
  induction templates generalizing room with
  | nil => rfl
  | cons template templates ih =>
      cases template with
      | label number =>
          rw [kept, ih enough]
      | op template =>
          rw [opCount_op] at enough
          cases room with
          | zero => omega
          | succ room => rw [kept, ih (by omega)]

/-- The template of an operation has its temporaries: what a branch leaves out is a constant. -/
theorem addresses_of_branch {ops : List MicroOp} {templates : List Template}
    (resolves : Resolves ops templates) {position : Nat} {operation : MicroOp}
    {template : OpTemplate} (there : ops[position]? = some operation)
    (shown : (templates.filterMap op?)[position]? = some template) :
    addresses template.varnodes = addresses operation.varnodes := by
  have inputs : ∀ varnodes : List Varnode,
      (varnodes.map Operand.varnode).flatMap Operand.varnodes = varnodes := by
    intro varnodes
    simp [List.flatMap_map, Operand.varnodes]
  have output := (resolves.shown position operation template there shown).2
  rw [OpTemplate.varnodes, MicroOp.varnodes, addresses_append, addresses_append, output]
  congr 1
  by_cases branches : ∃ target, BranchesTo ops position target
  · obtain ⟨target, branches⟩ := branches
    obtain ⟨number, _, operands⟩ := resolves.branch position target _ _ branches there shown
    obtain ⟨_, distance, _, there', branch, _⟩ := branches
    rw [there] at there'
    injection there' with there'
    subst there'
    unfold MicroOp.distance? at branch
    split at branch
    · cases branch
    · next first rest same =>
      split at branch
      · next isBranch =>
        rw [operands, same, List.flatMap_cons, List.tail_cons, inputs,
          addresses_of_isConstant isBranch.2]
        rfl
      · cases branch
  · have operands := resolves.plain position _ _ (fun target branch => branches ⟨target, branch⟩)
      there shown
    rw [operands, inputs]

/-- **The pieces of templates.** Templates with resolved labels are shown with the temporaries of
their operations, in order, and with no others. -/
theorem addresses_of_resolves (language : Language) {ops : List MicroOp} {templates : List Template}
    (resolves : Resolves ops templates) :
    (templates.flatMap fun template => (template.pieces language).filterMap Piece.address?)
      = addresses (ops.flatMap MicroOp.varnodes) := by
  have labels : ∀ templates : List Template,
      (templates.flatMap fun template => (template.pieces language).filterMap Piece.address?)
        = (templates.filterMap op?).flatMap fun template => addresses template.varnodes := by
    intro templates
    induction templates with
    | nil => rfl
    | cons template templates ih =>
        cases template with
        | label number => exact ih
        | op template =>
            rw [List.flatMap_cons, ih, List.filterMap_cons_some (op?_op template),
              List.flatMap_cons]
            exact congrArg (· ++ _) template.addresses_pieces
  have each : (templates.filterMap op?).map (fun template => addresses template.varnodes)
      = ops.map fun operation => addresses operation.varnodes := by
    refine List.ext_getElem (by simpa [opCount] using resolves.opCount_eq) ?_
    intro position inTemplates inOps
    rw [List.length_map] at inTemplates inOps
    rw [List.getElem_map, List.getElem_map]
    exact addresses_of_branch resolves (List.getElem?_eq_getElem inOps)
      (List.getElem?_eq_getElem inTemplates)
  rw [labels, Unique.addresses_flatMap, List.flatMap_def, each, ← List.flatMap_def]

end Template

/-! ## Rows and entries -/

namespace Listing

/-- The numbers that a listing is written with in decimal. -/
def numbers (language : Language) (frame : Frame) (templates : List Template) : List Int :=
  templates.flatMap (Template.numbers language frame.userops)
    ++ if frame.isBranch then frame.branched.toList else []

/-- Spans and names of entries speak of the same temporaries. -/
structure SameTemporaries (frame : Frame) (spans : List Span) (names : List String) : Prop where
  /-- What a span shows as a temporary is the name of an entry, and every name is shown. -/
  texts : ∀ text, (Category.unique, text) ∈ spans ↔ text ∈ names
  /-- No two entries have one name. -/
  distinct : names.Nodup
  /-- There is a span for each temporary in the code. -/
  count : (spans.countP fun span => span.1 = .unique)
    = (frame.code.flatMap MicroOp.varnodes).countP Varnode.isUnique
  /-- There are no more entries than spans. -/
  enough : names.length ≤ spans.countP fun span => span.1 = .unique

theorem temporary?_eq_some_iff {span : Span} {text : String} :
    temporary? span = some text ↔ span = (.unique, text) := by
  obtain ⟨category, own⟩ := span
  unfold temporary?
  by_cases unique : category = .unique <;> simp [unique]

theorem length_filterMap_temporary? (spans : List Span) :
    (spans.filterMap temporary?).length = spans.countP fun span => span.1 = .unique := by
  induction spans with
  | nil => rfl
  | cons span spans ih =>
      by_cases unique : span.1 = .unique <;>
        simp [temporary?, unique, ih]

/-- Spans and names of the temporaries in the code of a frame are the same, one for each address. -/
theorem sameTemporaries {frame : Frame} {spans : List Span}
    (shown : spans.filterMap temporary?
      = (addresses (frame.code.flatMap MicroOp.varnodes)).map Address.text) :
    SameTemporaries frame spans
      (((Unique.collect frame).map Unique.Entry.address).map Address.text) := by
  have count : (spans.countP fun span => span.1 = .unique)
      = (frame.code.flatMap MicroOp.varnodes).countP Varnode.isUnique := by
    rw [← length_filterMap_temporary?, shown, List.length_map, Unique.length_addresses]
  refine ⟨?_, ?_, count, ?_⟩
  · intro text
    have inSpans : (Category.unique, text) ∈ spans ↔ text ∈ spans.filterMap temporary? := by
      simp [List.mem_filterMap, temporary?_eq_some_iff]
    rw [inSpans, shown, List.mem_map, List.mem_map]
    simp only [Unique.address_mem_collect_iff]
  · exact List.Nodup.map Address.text_injective (Unique.nodup_address_collect frame)
  · rw [count, List.length_map, List.length_map]
    exact Unique.length_collect_le frame

/-- The size of each temporary in the code is written in some row. -/
theorem short_of_resolves {frame : Frame} {templates : List Template}
    (resolves : Template.Resolves frame.code templates)
    (short : ∀ number ∈ numbers language frame templates, Numeral.Short number) :
    ∀ address ∈ addresses (frame.code.flatMap MicroOp.varnodes),
      Numeral.Short address.size := by
  intro address inCode
  rw [← Template.addresses_of_resolves language resolves] at inCode
  obtain ⟨template, inTemplates, inPieces⟩ := List.mem_flatMap.mp inCode
  obtain ⟨piece, inTemplate, same⟩ := List.mem_filterMap.mp inPieces
  have written : address.size ∈ piece.numbers language frame.userops := by
    cases piece <;> cases same
    exact List.mem_cons_self
  refine short _ (List.mem_append_left _ ?_)
  exact List.mem_flatMap.mpr
    ⟨template, inTemplates, List.mem_flatMap.mpr ⟨piece, inTemplate, written⟩⟩

/-- **Rows and entries.** Let the distances of a frame's branches have a width of at least a byte
that numbers can have, and let no number be too long to be written in decimal. Then the frame has
rows, the rows have spans and its entries have names, and spans and names speak of the same
temporaries. -/
theorem sameTemporaries_ofFrame {frame : Frame} {indent : Option Bool}
    (sized : ∀ distance ∈ Template.distances frame.code, 1 ≤ distance.size)
    (fits : ∀ distance ∈ Template.distances frame.code, Width.Fits distance.size)
    (short : ∀ templates, Template.ofOps frame.code = .ok templates →
      ∀ number ∈ numbers language frame templates, Numeral.Short number) :
    ∃ listing spans names, ofFrame language frame indent = .ok listing
      ∧ listing.rows.mapM Row.spans = .ok spans
      ∧ (Unique.collect frame).mapM Unique.Entry.name = .ok names
      ∧ SameTemporaries frame spans.flatten names := by
  obtain ⟨templates, derived, resolves⟩ := (Template.resolves_ofOps sized).1 fits
  have short := short templates derived
  -- Every template is shown, since there are as many as operations.
  have kept : Template.kept templates frame.code.length = templates :=
    Template.kept_eq_self (Nat.le_of_eq resolves.opCount_eq)
  let legend : Legend := .ofFrame language frame (indent.getD (templates.any Template.isLabel))
  have can : ∀ template ∈ Template.kept templates frame.code.length, template.CanShow legend := by
    intro template member
    rw [kept] at member
    refine Template.canShow_of_short fun number inside => short number ?_
    exact List.mem_append_left _ (List.mem_flatMap.mpr ⟨template, member, inside⟩)
  obtain ⟨walked, ok, shown, _, _⟩ :=
    along_walk frame.index frame.code 0 none can
  rw [kept] at shown
  obtain ⟨bodySpans, body, bodyTexts⟩ := spans_of_shown shown
  obtain ⟨lastSpans, last, lastTexts⟩ := spans_of_closing walked.rows.length (by
    intro branch target branched
    refine short target (List.mem_append_right _ ?_)
    rw [if_pos branch]
    exact Option.mem_toList.mpr branched)
  have listed : ofFrame language frame indent
      = .ok { walked with rows := walked.rows ++ closing frame walked.rows.length } :=
    bind_eq_ok_iff.mpr ⟨templates, derived, bind_eq_ok_iff.mpr ⟨walked, ok, rfl⟩⟩
  refine ⟨_, bodySpans ++ lastSpans, _, listed, ?_,
    Unique.names_collect (short_of_resolves resolves short), sameTemporaries ?_⟩
  · rw [List.mapM_append, body, last]
    rfl
  · rw [List.flatten_append, List.filterMap_append, bodyTexts, lastTexts, List.append_nil,
      Template.addresses_of_resolves _ resolves]

/-- Code that reads and writes memory by a temporary, performs a user operation with another, and
jumps to its end on a third. -/
def Sample.busy : Frame where
  code :=
    [⟨Opcode.load, some ⟨.unique, 0x10, 4, none⟩,
        [⟨.constant, 1, 8, none⟩, ⟨.unique, 0x20, 8, none⟩], ⟨0, 0⟩⟩,
     ⟨Opcode.store, none, [⟨.constant, 1, 8, none⟩, ⟨.unique, 0x20, 8, none⟩,
        ⟨.unique, 0x10, 4, none⟩], ⟨0, 1⟩⟩,
     ⟨Opcode.callOther, none, [⟨.constant, 7, 4, none⟩, ⟨.unique, 0x10, 4, none⟩], ⟨0, 2⟩⟩,
     ⟨Opcode.cbranch, none, [⟨.constant, 1, 4, none⟩, ⟨.unique, -1, 1, none⟩], ⟨0, 3⟩⟩]

/-- The templates of that code. -/
def Sample.busyTemplates : List Template :=
  [.op ⟨Opcode.load, some ⟨.unique, 0x10, 4, none⟩,
      [.varnode ⟨.constant, 1, 8, none⟩, .varnode ⟨.unique, 0x20, 8, none⟩]⟩,
   .op ⟨Opcode.store, none, [.varnode ⟨.constant, 1, 8, none⟩, .varnode ⟨.unique, 0x20, 8, none⟩,
      .varnode ⟨.unique, 0x10, 4, none⟩]⟩,
   .op ⟨Opcode.callOther, none,
      [.varnode ⟨.constant, 7, 4, none⟩, .varnode ⟨.unique, 0x10, 4, none⟩]⟩,
   .op ⟨Opcode.cbranch, none, [.label 0, .varnode ⟨.unique, -1, 1, none⟩]⟩,
   .label 0]

/-- A language without names. -/
def Sample.nameless : Language where
  name := "nameless"

/-- Six spans show three temporaries. -/
theorem sameTemporaries_ofFrame_busy :
    (∀ distance ∈ Template.distances Sample.busy.code, 1 ≤ distance.size)
      ∧ (∀ distance ∈ Template.distances Sample.busy.code, Width.Fits distance.size)
      ∧ (∀ templates, Template.ofOps Sample.busy.code = .ok templates →
        ∀ number ∈ numbers Sample.nameless Sample.busy templates, Numeral.Short number)
      ∧ ∃ listing spans names, ofFrame Sample.nameless Sample.busy none = .ok listing
        ∧ listing.rows.mapM Row.spans = .ok spans
        ∧ (Unique.collect Sample.busy).mapM Unique.Entry.name = .ok names
        ∧ SameTemporaries Sample.busy spans.flatten names := by
  have derived : Template.ofOps Sample.busy.code = .ok Sample.busyTemplates := by decide
  have short : ∀ templates, Template.ofOps Sample.busy.code = .ok templates →
      ∀ number ∈ numbers Sample.nameless Sample.busy templates, Numeral.Short number := by
    intro templates same
    rw [derived] at same
    injection same with same
    subst same
    decide +kernel
  exact ⟨by decide, by decide, short,
    sameTemporaries_ofFrame (by decide) (by decide) short⟩

/-- A frame that branches by a constant of more bytes than can be counted. -/
def Sample.vast : Frame where
  code := [Template.Sample.vast]

/-- A width of at least a byte is not enough for a frame to have rows: the distance may be too wide
to be read, though no number in the frame is too long to be written. -/
theorem rowless_vast :
    (∀ distance ∈ Template.distances Sample.vast.code, 1 ≤ distance.size)
      ∧ (∀ op ∈ Sample.vast.code, Numeral.Short op.opcode
        ∧ ∀ v ∈ op.varnodes, Numeral.Short v.offset ∧ Numeral.Short v.size)
      ∧ ¬ ∃ listing, ofFrame Sample.nameless Sample.vast none = .ok listing := by
  refine ⟨by decide, by decide +kernel, ?_⟩
  rintro ⟨listing, listed⟩
  have refused : ofFrame Sample.nameless Sample.vast none = .error .uncountableWidth := by
    decide
  rw [refused] at listed
  cases listed

end Listing

end PcodePanel
