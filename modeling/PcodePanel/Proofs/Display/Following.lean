import PcodePanel.Display.Formatter
import PcodePanel.Proofs.Display.NextRow
import PcodePanel.Proofs.Pcode.Labels

/-!
# Rows follow the templates and the frame

Rows are made by a walk over two lists at once, the templates and the operations of the frame, and
the lists need not be of one length. A formatter walks as often as it is asked to, and leaves its
counts behind.

* `Template.kept` — the templates that make rows: all but those that find no operation left;
* `Listing.Along` — what the rows of a walk have to do with both lists;
* `Formatter.Reaches`, `Formatter.reaches_format` — where a walk ends, at a fault or at the last
  row;
* `Formatter.format_eq` — a formatter makes the rows of the listing, whatever it has done before;
* `Formatter.Follows`, `Formatter.follows_format` — what is made, every time.
-/

namespace PcodePanel

/-- The operation that a row shows, and whether it shows it as the next. -/
def Row.operation? : Row → Option (MicroOp × Bool)
  | op _ operation isNext _ => some (operation, isNext)
  | _ => none

namespace Template

/-- The templates that make rows where there is room for so many operations: the labels and the
first so many others. -/
def kept : List Template → (room : Nat) → List Template
  | [], _ => []
  | label number :: templates, room => label number :: kept templates room
  | op _ :: templates, 0 => kept templates 0
  | op template :: templates, room + 1 => op template :: kept templates room

/-- How a template is shown. -/
def pieces (language : Language) : Template → List Piece
  | label number => [.lineLabel number]
  | op template => template.pieces language

/-- A row shows a template: a label row a label, and an operation's row an operation, each in its
words. -/
def ShownBy (legend : Legend) : Template → Row → Prop
  | label number, .label _ tokens => Piece.tokens legend [.lineLabel number] = .ok tokens
  | op template, .op _ _ _ tokens =>
    Piece.tokens legend (template.pieces legend.language) = .ok tokens
  | _, _ => False

/-- Nothing stands in the way of showing a template. -/
def CanShow (legend : Legend) (template : Template) : Prop :=
  ∃ tokens, Piece.tokens legend (template.pieces legend.language) = .ok tokens

instance (legend : Legend) (template : Template) : Decidable (template.CanShow legend) :=
  match shown : Piece.tokens legend (template.pieces legend.language) with
  | .ok tokens => isTrue ⟨tokens, shown⟩
  | .error _ => isFalse fun ⟨_, can⟩ => by simp [shown] at can

end Template

/-! ## Walks -/

/-- Operations, each with whether it is the first one at a step and none came before it. -/
def firstAt (current : Int) (before : Option Nat) (ops : List MicroOp) : List (MicroOp × Bool) :=
  ops.mapIdx fun position op =>
    (op, before.isNone
      && ops.findIdx? (fun op => decide (op.sequence.time = current)) == some position)

theorem firstAt_cons (current : Int) (before : Option Nat) (op : MicroOp) (ops : List MicroOp)
    (position : Nat) :
    firstAt current before (op :: ops)
      = (op, before.isNone && decide (op.sequence.time = current))
        :: firstAt current
          (if (before.isNone && decide (op.sequence.time = current)) = true then some position
            else before) ops := by
  unfold firstAt
  rw [List.mapIdx_cons, List.findIdx?_cons]
  congr 1
  · cases before <;> by_cases here : op.sequence.time = current <;> simp [here]
  · rw [List.mapIdx_eq_mapIdx_iff]
    intro later _
    cases before <;> by_cases here : op.sequence.time = current <;> simp [here]

namespace Listing

/-- What rows of a walk have to do with the templates and the operations that it goes along. -/
structure Along (legend : Legend) (current : Int) (templates : List Template) (code : List MicroOp)
    (before : Option Nat) (listing : Listing) : Prop where
  /-- Each template that is kept has its row. -/
  shown : List.Forall₂ (Template.ShownBy legend) (Template.kept templates code.length) listing.rows
  /-- The rows show the operations in order, and the first at the step as the next. -/
  operations : listing.rows.filterMap Row.operation?
    = firstAt current before (code.take (Template.opCount templates))
  /-- The other templates are skipped. -/
  skipped : listing.skipped = Template.opCount templates - code.length

open Template in
/-- **A walk.** If nothing stands in the way of showing the templates that are kept, the walk comes
to its end, and its rows go along both lists. -/
theorem along_walk {legend : Legend} (current : Int) {templates : List Template} :
    ∀ (code : List MicroOp) (position : Nat) (before : Option Nat),
      (∀ template ∈ kept templates code.length, template.CanShow legend) →
      ∃ listing, walk legend current templates code position before = .ok listing
        ∧ Along legend current templates code before listing := by
  -- The induction is on the templates. Only those for operations take something from the code.
  induction templates with
  | nil =>
      intro code position before _
      exact ⟨done before, rfl, .nil, by simp [firstAt, done], by simp [done]⟩
  | cons template templates ih =>
      intro code position before can
      cases template with
      | label number =>
          obtain ⟨⟨tokens, rendered⟩, later⟩ := List.forall_mem_cons.mp can
          obtain ⟨rest, walked, shown, operations, skipped⟩ := ih code (position + 1) before
            later
          refine ⟨cons (.label position tokens) rest, ?_, .cons rendered shown, ?_, skipped⟩
          · exact bind_eq_ok_iff.mpr ⟨tokens, rendered, bind_eq_ok_iff.mpr ⟨rest, walked, rfl⟩⟩
          · rw [cons, List.filterMap_cons_none rfl, operations, opCount_label]
      | op template =>
          cases code with
          | nil =>
              obtain ⟨rest, walked, shown, operations, skipped⟩ := ih [] position before can
              refine ⟨{ rest with skipped := rest.skipped + 1 }, ?_, shown, ?_, ?_⟩
              · exact bind_eq_ok_iff.mpr ⟨rest, walked, rfl⟩
              · rw [operations, List.take_nil, List.take_nil]
              · rw [skipped, opCount_op]
                simp
          | cons operation code =>
              obtain ⟨⟨tokens, rendered⟩, later⟩ := List.forall_mem_cons.mp can
              let isNext := before.isNone && decide (operation.sequence.time = current)
              obtain ⟨rest, walked, shown, operations, skipped⟩ := ih code (position + 1)
                (if isNext = true then some position else before) later
              refine ⟨cons (.op position operation isNext tokens) rest, ?_, .cons rendered shown,
                ?_, ?_⟩
              · exact bind_eq_ok_iff.mpr
                  ⟨tokens, rendered, bind_eq_ok_iff.mpr ⟨rest, walked, rfl⟩⟩
              · show (operation, isNext) :: rest.rows.filterMap Row.operation? = _
                rw [operations, opCount_op, List.take_succ_cons,
                  firstAt_cons current before operation _ position]
              · rw [cons, skipped, opCount_op, List.length_cons]
                omega

end Listing

/-! ## Formatters -/

namespace RowBuilder

/-- Pieces are added one after the other, up to the first one that has no text. -/
theorem foldlM_append (builder : RowBuilder) (pieces : List Piece) :
    (pieces.map Call.append).foldlM step builder
      = (Piece.tokens builder.legend pieces).map fun tokens =>
        { builder with tokens := builder.tokens ++ tokens } := by
  induction pieces generalizing builder with
  | nil =>
      show Except.ok builder = .ok { builder with tokens := builder.tokens ++ [] }
      rw [List.append_nil]
  | cons piece pieces ih =>
      rw [List.map_cons, List.foldlM_cons, step, Piece.tokens, List.mapM_cons]
      cases piece.token? builder.legend with
      | error fault => rfl
      | ok token =>
          refine (ih { builder with tokens := builder.tokens ++ token.toList }).trans ?_
          unfold Piece.tokens
          dsimp only
          cases pieces.mapM (Piece.token? builder.legend) with
          | error fault => rfl
          | ok found =>
              refine congrArg Except.ok ?_
              cases token <;> simp

end RowBuilder

namespace Formatter

/-- A row of pieces has their tokens, if they have texts. -/
theorem row_eq (builder : RowBuilder) (op : Option MicroOp) (isNext : Bool) (pieces : List Piece) :
    row builder op isNext pieces
      = (Piece.tokens builder.legend pieces).map fun tokens =>
        { builder with
          rows := builder.rows ++ [{ builder with tokens, op, isNext : RowBuilder }.openRow]
          tokens := [], op := none, isNext := false } := by
  have appended := RowBuilder.foldlM_append { builder with tokens := [], op, isNext } pieces
  show List.foldlM RowBuilder.step { builder with tokens := [], op, isNext }
    (pieces.map .append ++ [.close]) = _
  rw [List.foldlM_append, appended]
  dsimp only
  cases Piece.tokens builder.legend pieces <;> rfl

theorem getElem?_of_drop_nil {code : List MicroOp} {taken : Nat} (left : code.drop taken = []) :
    code[taken]? = none := by
  rw [List.getElem?_eq_none_iff]
  exact List.drop_eq_nil_iff.mp left

theorem getElem?_of_drop_cons {code others : List MicroOp} {op : MicroOp} {taken : Nat}
    (left : code.drop taken = op :: others) :
    code[taken]? = some op ∧ code.drop (taken + 1) = others := by
  rw [← List.head?_drop, ← List.tail_drop, left]
  exact ⟨rfl, rfl⟩

/-- Where showing templates ends that a walk goes along: with the rows of its listing below those
that were there, or with its fault. -/
inductive Reaches (formatter : Formatter) (builder : RowBuilder) :
    Except Fault Listing → Formatter × Except Fault RowBuilder → Prop
  | shown (listing : Listing) {taken : Nat} {built : RowBuilder} :
      built.rows = builder.rows ++ listing.rows →
      Reaches formatter builder (.ok listing)
        ({ formatter with
            taken, nextRow := listing.nextRow
            warnings := formatter.warnings + listing.skipped }, .ok built)
  | refused {after : Formatter} {fault : Fault} :
      Reaches formatter builder (.error fault) (after, .error fault)

/-- After one row more, a walk reaches what it reaches with that row. -/
theorem Reaches.row {formatter : Formatter} {builder made : RowBuilder} {row : Row} {taken : Nat}
    {nextRow : Option Nat} {walked : Except Fault Listing}
    {result : Formatter × Except Fault RowBuilder} (rows : made.rows = builder.rows ++ [row])
    (rest : Reaches { formatter with taken, nextRow } made walked result) :
    Reaches formatter builder (do return Listing.cons row (← walked)) result := by
  cases rest with
  | @shown listing _ built eq =>
      refine Reaches.shown (Listing.cons row listing) ?_
      rw [eq, rows, List.append_assoc]
      rfl
  | refused => exact .refused

/-- After one warning more, a walk reaches what it reaches with that template skipped. -/
theorem Reaches.skip {formatter : Formatter} {builder : RowBuilder}
    {walked : Except Fault Listing} {result : Formatter × Except Fault RowBuilder}
    (rest : Reaches { formatter with warnings := formatter.warnings + 1 } builder walked result) :
    Reaches formatter builder
      (do let listing ← walked; return { listing with skipped := listing.skipped + 1 })
      result := by
  cases rest with
  | @shown listing _ built eq =>
      rw [Nat.add_assoc, Nat.add_comm 1]
      exact Reaches.shown { listing with skipped := listing.skipped + 1 } eq
  | refused => exact .refused

/-- A formatter shows templates as a walk does, from the operation and the row that it has come
to. -/
theorem reaches_showAll {templates : List Template} :
    ∀ (formatter : Formatter) (builder : RowBuilder), builder.legend = formatter.legend →
      Reaches formatter builder
        (Listing.walk formatter.legend formatter.frame.index templates
          (formatter.frame.code.drop formatter.taken) builder.rows.length formatter.nextRow)
        (formatter.showAll builder templates) := by
  -- The induction is on the templates. A row leaves a builder with one more row, and a template for
  -- which there is no operation leaves it as it is.
  induction templates with
  | nil => exact fun formatter builder _ => .shown (.done _) (List.append_nil _).symm
  | cons template templates ih =>
      intro formatter builder legend
      have longer : ∀ row, (builder.rows ++ [row]).length = builder.rows.length + 1 :=
        fun row => List.length_append
      cases template with
      | label number =>
          rw [Listing.walk, showAll, showOne, row_eq, legend]
          cases Piece.tokens formatter.legend [.lineLabel number] with
          | error fault => exact .refused
          | ok tokens =>
              have rest := ih formatter
                { legend := formatter.legend
                  rows := builder.rows ++ [.label builder.rows.length tokens] } rfl
              rw [longer] at rest
              exact .row rfl rest
      | op template =>
          cases code : formatter.frame.code.drop formatter.taken with
          | nil =>
              rw [Listing.walk, showAll, showOne, getElem?_of_drop_nil code, ← code]
              exact .skip (ih { formatter with warnings := formatter.warnings + 1 } builder legend)
          | cons operation others =>
              obtain ⟨there, left⟩ := getElem?_of_drop_cons code
              let isNext :=
                formatter.nextRow.isNone && decide (operation.sequence.time = formatter.frame.index)
              rw [Listing.walk, showAll, showOne, there]
              dsimp only
              rw [row_eq, legend]
              show Reaches _ _
                (Piece.tokens formatter.legend (template.pieces formatter.language) >>= _) _
              cases Piece.tokens formatter.legend (template.pieces formatter.language) with
              | error fault => exact .refused
              | ok tokens =>
                  have rest := ih
                    { formatter with
                      taken := formatter.taken + 1
                      nextRow := if isNext then some builder.rows.length else formatter.nextRow }
                    { legend := formatter.legend
                      rows := builder.rows ++ [.op builder.rows.length operation isNext tokens] }
                    rfl
                  dsimp only at rest
                  rw [longer, left] at rest
                  exact .row rfl rest

/-- What a formatter was made of. -/
def setting (formatter : Formatter) : Language × Frame × List Template × Bool :=
  (formatter.language, formatter.frame, formatter.templates, formatter.indent)

theorem setting_showOne (formatter : Formatter) (builder : RowBuilder) (template : Template) :
    (formatter.showOne builder template).1.setting = formatter.setting := by
  cases template with
  | label number => rfl
  | op template =>
      cases there : formatter.frame.code[formatter.taken]? <;> rw [showOne, there] <;> rfl

theorem setting_showAll (formatter : Formatter) (builder : RowBuilder)
    (templates : List Template) :
    (formatter.showAll builder templates).1.setting = formatter.setting := by
  induction templates generalizing formatter builder with
  | nil => rfl
  | cons template templates ih =>
      have kept := setting_showOne formatter builder template
      unfold showAll
      split
      · next shown =>
        rw [shown] at kept
        rw [ih, kept]
      · next refused =>
        rw [refused] at kept
        exact kept

/-- However often it has been asked, and whether or not it could make the rows, a formatter is still
made of the same. -/
theorem setting_again (formatter : Formatter) (times : Nat) :
    (formatter.again times).setting = formatter.setting := by
  induction times with
  | zero => rfl
  | succ times ih => exact (setting_showAll _ _ _).trans ih

/-- What a formatter comes to, whatever it has made before. -/
theorem reaches_format (formatter : Formatter) :
    Reaches { formatter with taken := 0, nextRow := none } { legend := formatter.legend }
      (Listing.walk formatter.legend formatter.frame.index formatter.templates formatter.frame.code
        0 none)
      (showAll { formatter with taken := 0, nextRow := none } { legend := formatter.legend }
        formatter.templates) :=
  reaches_showAll _ _ rfl

/-- **Formatters and listings.** What a formatter makes is the listing of its frame, whatever it has
made before. -/
theorem format_eq (formatter : Formatter) {listing : Listing}
    (listed : Listing.ofTemplates formatter.language formatter.frame formatter.templates
      (some formatter.indent) = .ok listing) :
    formatter.format.2 = .ok ⟨listing.rows, listing.nextRow⟩
      ∧ formatter.format.1.nextRow = listing.nextRow
      ∧ formatter.format.1.warnings = formatter.warnings + listing.skipped := by
  obtain ⟨walked, ok, listed⟩ := bind_eq_ok_iff.mp listed
  injection listed with listed
  subst listed
  have reaches := reaches_format formatter
  have ok : Listing.walk formatter.legend formatter.frame.index formatter.templates
      formatter.frame.code 0 none = .ok walked := ok
  rw [ok] at reaches
  unfold format
  dsimp only
  generalize showAll _ _ _ = result at reaches ⊢
  cases reaches with
  | @shown _ _ built rows =>
      have rows : built.rows = walked.rows := rows
      refine ⟨?_, rfl, rfl⟩
      rw [← rows]
      rfl

/-- What is shown of a frame by templates: rows for the templates, and after these a closing row if
the frame has ended. -/
structure Follows (legend : Legend) (frame : Frame) (templates : List Template) (body : List Row)
    (formatted : Formatted) : Prop where
  /-- The templates have their rows, in order, except for those that find no operation. -/
  shown : List.Forall₂ (Template.ShownBy legend) (Template.kept templates frame.code.length) body
  /-- The rows for operations show those of the frame in order, and the first at the frame's step as
  the next. -/
  operations :
    let taken := frame.code.take (Template.opCount templates)
    body.filterMap Row.operation? = taken.mapIdx fun position op =>
      (op, taken.findIdx? (fun op => decide (op.sequence.time = frame.index)) == some position)
  /-- Every row has its position. -/
  numbered : Numbered formatted.rows
  /-- The row that is said to be next is the one that is marked. -/
  marked : MarksNext formatted.rows formatted.nextRow
  /-- After a branch there is one more row, which says so. -/
  branch : frame.isBranch = true → formatted.rows = body ++ [.branch body.length frame.branched]
  /-- After a fall-through there is one more row, which says so. -/
  fallthrough : frame.isBranch = false → frame.isFallthrough = true →
    formatted.rows = body ++ [.fallthrough body.length]
  /-- Otherwise there are no more rows. -/
  unended : frame.isBranch = false → frame.isFallthrough = false → formatted.rows = body

/-- **Rows follow the templates and the frame.** Let a formatter have made its rows any number of
times. If nothing stands in the way of showing the templates that find an operation, it makes them
again, in step with the templates and the frame, and warns of the other templates one by one. -/
theorem follows_format {language : Language} {frame : Frame} {templates : List Template}
    {indent : Option Bool} (times : Nat)
    (can : ∀ template ∈ Template.kept templates frame.code.length,
      template.CanShow (ofTemplates language frame templates indent).legend) :
    let formatter := (ofTemplates language frame templates indent).again times
    ∃ body formatted, formatter.format.2 = .ok formatted
      ∧ Follows (ofTemplates language frame templates indent).legend frame templates body formatted
      ∧ formatter.format.1.nextRow = formatted.nextRow
      ∧ formatter.format.1.warnings
        = formatter.warnings + (Template.opCount templates - frame.code.length) := by
  intro formatter
  obtain ⟨walked, ok, shown, operations, skipped⟩ :=
    Listing.along_walk frame.index frame.code 0 none can
  have listed : Listing.ofTemplates language frame templates
      (some (ofTemplates language frame templates indent).indent)
      = .ok { walked with rows := walked.rows ++ Listing.closing frame walked.rows.length } :=
    bind_eq_ok_iff.mpr ⟨walked, ok, rfl⟩
  have setting := setting_again (ofTemplates language frame templates indent) times
  injection setting with sameLanguage setting
  injection setting with sameFrame setting
  injection setting with sameTemplates sameIndent
  have made := format_eq formatter (by
    rw [sameLanguage, sameFrame, sameTemplates, sameIndent]
    exact listed)
  refine ⟨walked.rows, _, made.1, ⟨shown, ?_, ?_, ?_, ?_, ?_, ?_⟩, made.2.1, ?_⟩
  · simpa [firstAt] using operations
  · exact Listing.numbered_ofTemplates listed
  · exact Listing.marksNext_ofTemplates listed
  · intro branch
    simp [Listing.closing, branch]
  · intro noBranch falls
    simp [Listing.closing, noBranch, falls]
  · intro noBranch stays
    simp [Listing.closing, noBranch, stays]
  · rw [made.2.2, skipped]

/-- A frame that ended in a branch, with two operations at one step. -/
def Sample.branched : Frame where
  code := [⟨Opcode.branch, none, [], ⟨0, 0⟩⟩, ⟨1, none, [], ⟨0, 4⟩⟩, ⟨1, none, [], ⟨0, 4⟩⟩]
  index := 4
  isBranch := true
  isFallthrough := true
  branched := some 0x401000

/-- Templates with labels, one of them last, and more operations than a frame has. -/
def Sample.surplus : List Template :=
  [.label 0, .op ⟨Opcode.branch, none, [.label 1]⟩,
   .op ⟨1, some ⟨.unique, 16, 4, none⟩, [.varnode ⟨.constant, -1, 4, none⟩]⟩,
   .op ⟨1, none, []⟩, .op ⟨1, none, []⟩, .label 1, .op ⟨1, none, []⟩]

/-- A formatter of the frame by the templates. -/
def Sample.formatter : Formatter :=
  ofTemplates ⟨"x", false, [], [], []⟩ branched surplus none

/-- A formatter that has made its rows twice makes them again, and has then given six warnings. -/
theorem follows_format_surplus :
    (∀ template ∈ Template.kept Sample.surplus Sample.branched.code.length,
        template.CanShow Sample.formatter.legend)
      ∧ (∃ body formatted, (Sample.formatter.again 2).format.2 = .ok formatted
        ∧ Follows Sample.formatter.legend Sample.branched Sample.surplus body formatted)
      ∧ (Sample.formatter.again 3).warnings = 6 := by
  have can : ∀ template ∈ Template.kept Sample.surplus Sample.branched.code.length,
      template.CanShow Sample.formatter.legend := by
    decide +kernel
  obtain ⟨body, formatted, made, follows, _⟩ := follows_format 2 can
  exact ⟨can, ⟨body, formatted, made, follows⟩, by decide +kernel⟩

end Formatter

end PcodePanel
