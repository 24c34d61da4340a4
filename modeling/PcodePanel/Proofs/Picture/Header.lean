import PcodePanel.Proofs.Picture.Drawing
import PcodePanel.Proofs.Style.Colors

/-!
# A header only shifts the picture

A header is one more line, and it comes first. So every other line moves down by the height of one,
and every rectangle keeps to the width of the picture, which may have to make room for the header.

* `DrawCommand.moved` — a command moved down, with the right edge of a rectangle moved out;
* `Picture.drawLine_moved`, `Picture.drawLines_moved` — drawing commutes with it;
* `Picture.render_below_header` — a picture below a header is the one without, moved.
-/

namespace PcodePanel

/-- A command moved down, with the right edge of a rectangle moved out. -/
def DrawCommand.moved (down out : Int) : DrawCommand → DrawCommand
  | text x y content color font => text x (y + down) content color font
  | rectangle left top right bottom color =>
    rectangle left (top + down) (right + out) (bottom + down) color

/-- The colour of a rectangle. -/
def DrawCommand.fill? : DrawCommand → Option Color
  | text .. => none
  | rectangle _ _ _ _ color => some color

namespace Picture

variable {layout : Layout} {width top down out : Int} {selected : Option Int} {lines : List Line}

/-! ## Drawing further down -/

theorem drawSpans_moved (x : Binary64) (spans : List Span) :
    layout.drawSpans (top + down) x spans
      = (layout.drawSpans top x spans).map (.moved down out) := by
  induction spans generalizing x with
  | nil => rfl
  | cons span spans ih => exact congrArg _ (ih _)

/-- Drawing a line further down, in a wider picture, is moving what is drawn. -/
theorem drawLine_moved (line : Line) :
    layout.drawLine (width + out) selected (top + down) line
      = (layout.drawLine width selected top line).map (List.map (.moved down out)) := by
  cases line with
  | row row =>
      show (layout.style.rowBackground row.isNext (selected = some row.index) >>= _)
        = (layout.style.rowBackground row.isNext (selected = some row.index) >>= _).map _
      cases layout.style.rowBackground row.isNext (selected = some row.index) with
      | error fault => rfl
      | ok color =>
          show (layout.left >>= _) = (layout.left >>= _).map _
          cases layout.left with
          | error fault => rfl
          | ok x =>
              show (row.spans >>= _) = (row.spans >>= _).map _
              cases row.spans with
              | error fault => rfl
              | ok spans =>
                  have right : width + out - 1 = width - 1 + out := by omega
                  have bottom : top + down + layout.lineHeight - 1
                      = top + layout.lineHeight - 1 + down := by omega
                  show Except.ok (.rectangle 0 (top + down) (width + out - 1)
                    (top + down + layout.lineHeight - 1) color
                      :: layout.drawSpans (top + down) x spans) = _
                  rw [right, bottom, drawSpans_moved]
                  rfl
  | text content => rfl
  | absent => rfl

/-- Drawing lines further down, in a wider picture, is moving what is drawn. -/
theorem drawLines_moved (lines : List Line) :
    layout.drawLines (width + out) selected (top + down) lines
      = (layout.drawLines width selected top lines).map (List.map (.moved down out)) := by
  induction lines generalizing top with
  | nil => rfl
  | cons line lines ih =>
      have below : top + down + layout.lineHeight = top + layout.lineHeight + down := by omega
      rw [Layout.drawLines, Layout.drawLines, drawLine_moved, below, ih]
      cases layout.drawLine width selected top line with
      | error fault => rfl
      | ok block =>
          cases layout.drawLines width selected (top + layout.lineHeight) lines with
          | error fault => rfl
          | ok commands => exact congrArg Except.ok List.map_append.symm

/-! ## The header -/

/-- A header makes a picture as wide as it needs, and no wider. -/
theorem width_header {header : String} {n : Int}
    (measured : layout.lineWidth (.text header) = .ok n) :
    layout.width (.text header :: lines)
      = (layout.width lines).map fun width => max width (max 1 n + 2 * layout.padding) := by
  rw [Layout.width, Layout.width, List.mapM_cons, measured]
  cases lines.mapM layout.lineWidth with
  | error fault => rfl
  | ok widths =>
      have least := (le_foldl_max widths 1).1
      have split : (n :: widths).foldl max 1 = max n (widths.foldl max 1) := by
        rw [List.foldl_cons, Int.max_comm 1 n, List.foldl_assoc]
      show Except.ok ((n :: widths).foldl max 1 + 2 * layout.padding)
        = .ok (max (widths.foldl max 1 + 2 * layout.padding) (max 1 n + 2 * layout.padding))
      rw [split]
      exact congrArg Except.ok (by omega)

/-- A picture below the header that `alone` is a picture of. Everything is moved down, and the
rectangles keep to the width. -/
def below (layout : Layout) (header : String) (alone picture : Picture) : Picture where
  width := max picture.width alone.width
  height := picture.height + layout.lineHeight
  background := picture.background
  commands :=
    .text (.whole layout.padding) layout.padding header layout.style.foreground layout.font
      :: picture.commands.map
        (.moved layout.lineHeight (max picture.width alone.width - picture.width))

theorem height_header (nonempty : lines ≠ []) (header : Line) :
    layout.height (header :: lines) = layout.height lines + layout.lineHeight := by
  have positive : 0 < lines.length := List.length_pos_iff.mpr nonempty
  have counted : ((max 1 (header :: lines).length : Nat) : Int)
      = (max 1 lines.length : Nat) + 1 := by
    rw [List.length_cons]
    omega
  rw [Layout.height, Layout.height, counted, Int.add_mul, Int.one_mul]
  omega

theorem render_header (nonempty : lines ≠ []) {header : String}
    (length : (layout.ruler.measure header).IsLength) :
    ∃ alone, render layout [] selected (some header) = .ok alone
      ∧ render layout lines selected (some header)
        = (render layout lines selected none).map (below layout header alone) := by
  have known : layout.lineLength (.text header) = .ok (layout.ruler.measure header) := rfl
  obtain ⟨n, measured, _⟩ := exists_lineWidth known length
  have alone : layout.width [.text header] = .ok (max 1 n + 2 * layout.padding) := by
    rw [width_header measured]
    show Except.ok (max (1 + 2 * layout.padding) (max 1 n + 2 * layout.padding)) = _
    exact congrArg Except.ok (by omega)
  refine ⟨⟨max 1 n + 2 * layout.padding, layout.height [.text header], layout.style.background,
    [.text (.whole layout.padding) layout.padding header layout.style.foreground layout.font]⟩,
    ?_, ?_⟩
  · show (layout.width [.text header] >>= _) = _
    rw [alone]
    rfl
  show (layout.width (.text header :: lines) >>= _) = (layout.width lines >>= _).map _
  rw [width_header measured]
  cases layout.width lines with
  | error fault => rfl
  | ok width =>
      generalize max 1 n + 2 * layout.padding = room
      have wider : max width room = width + (max width room - width) := by omega
      have moved : layout.drawLines (max width room) selected
            (layout.padding + layout.lineHeight) lines
          = (layout.drawLines width selected layout.padding lines).map
            (List.map (.moved layout.lineHeight (max width room - width))) :=
        (congrArg (layout.drawLines · selected _ lines) wider).trans (drawLines_moved lines)
      show (layout.drawLines (max width room) selected (layout.padding + layout.lineHeight) lines
          >>= _) >>= _ = (layout.drawLines width selected layout.padding lines >>= _).map _
      rw [moved]
      cases layout.drawLines width selected layout.padding lines with
      | error fault => rfl
      | ok commands =>
          show Except.ok (Picture.mk _ (layout.height (.text header :: lines)) _ _) = _
          rw [height_header nonempty]
          rfl

/-! ## Rectangles -/

/-- The rectangles of lines are those of the rows among them, in order. A row is highlighted by what
it is and by its position. -/
theorem fills_drawLines {commands : List DrawCommand}
    (made : layout.drawLines width selected top lines = .ok commands) :
    (lines.filterMap (·.row?.toOption)).mapM
        (fun row => layout.style.rowBackground row.isNext (selected = some row.index))
      = .ok (commands.filterMap DrawCommand.fill?) := by
  induction lines generalizing top commands with
  | nil =>
      obtain rfl := Except.ok.inj made
      rfl
  | cons line lines ih =>
      rw [Layout.drawLines] at made
      obtain ⟨block, first, made⟩ := bind_eq_ok_iff.mp made
      obtain ⟨rest, others, made⟩ := bind_eq_ok_iff.mp made
      obtain rfl := Except.ok.inj made
      rw [List.filterMap_append]
      cases line with
      | row row =>
          obtain ⟨color, x, spans, filled, _, _, rfl⟩ := drawLine_row_eq_ok_iff.mp first
          show (row :: lines.filterMap (·.row?.toOption)).mapM _ = Except.ok
            (color :: (layout.drawSpans top x spans).filterMap DrawCommand.fill?
              ++ rest.filterMap DrawCommand.fill?)
          rw [List.mapM_cons, filled, ih others, filterMap_drawSpans fun _ _ _ _ _ => rfl]
          rfl
      | text content =>
          obtain rfl := Except.ok.inj first
          exact ih others
      | absent => cases first

theorem fills_render {header : Option String} {picture : Picture}
    (made : render layout lines selected header = .ok picture) :
    (lines.filterMap (·.row?.toOption)).mapM
        (fun row => layout.style.rowBackground row.isNext (selected = some row.index))
      = .ok (picture.commands.filterMap DrawCommand.fill?) := by
  obtain ⟨width, blocks, _, stacked, rfl⟩ := render_eq_ok_iff.mp made
  have rows : (shown header lines).filterMap (·.row?.toOption)
      = lines.filterMap (·.row?.toOption) := by
    cases header <;> rfl
  rw [← rows]
  exact fills_drawLines (drawLines_eq_ok_iff.mpr ⟨blocks, stacked, rfl⟩)

/-! ## Pictures below a header -/

/-- There is a picture of rows if they have widths and the padding is a number. -/
theorem exists_render_rows_iff {rows : List Row} (nonempty : rows ≠ [])
    (colors : layout.style.Colored Color.InRange) :
    (∃ picture, render layout (rows.map .row) selected none = .ok picture)
      ↔ (∀ row ∈ rows, ∃ n, layout.lineWidth (.row row) = .ok n) ∧ ∃ x, layout.left = .ok x := by
  have wide : (∃ width, layout.width (shown none (rows.map .row)) = .ok width)
      ↔ ∀ row ∈ rows, ∃ n, layout.lineWidth (.row row) = .ok n :=
    exists_width_iff.trans List.forall_mem_map
  rw [exists_render_iff, wide, List.forall_mem_map]
  constructor
  · rintro ⟨measured, drawable⟩
    obtain ⟨row, member⟩ := List.exists_mem_of_ne_nil rows nonempty
    exact ⟨measured, (drawable row member).2.1⟩
  · rintro ⟨measured, left⟩
    refine ⟨measured, fun row member => ⟨?_, left, Style.exists_rowBackground colors _ _⟩⟩
    obtain ⟨n, made⟩ := measured row member
    obtain ⟨length, known, _⟩ := bind_eq_ok_iff.mp made
    obtain ⟨spans, shown, _⟩ := bind_eq_ok_iff.mp known
    exact ⟨spans, shown⟩

/-- **A header only shifts the picture.** Below a header stands the picture without it, moved down
by the height of a line and made as wide as the header needs; if there is none without, there is
none with it, for the same reason. There is one if every row has a width and the padding is a
number. And with a header or without, a row's background is the one for its position. -/
theorem render_below_header {rows : List Row} (nonempty : rows ≠ []) (selected : Option Int)
    {header : String} (length : (layout.ruler.measure header).IsLength)
    (colors : layout.style.Colored Color.InRange) :
    (∃ alone, render layout [] selected (some header) = .ok alone
        ∧ render layout (rows.map .row) selected (some header)
          = (render layout (rows.map .row) selected none).map (below layout header alone))
      ∧ ((∃ picture, render layout (rows.map .row) selected none = .ok picture)
        ↔ (∀ row ∈ rows, ∃ n, layout.lineWidth (.row row) = .ok n) ∧ ∃ x, layout.left = .ok x)
      ∧ ∀ above picture, render layout (rows.map .row) selected above = .ok picture →
        rows.mapM (fun row => layout.style.rowBackground row.isNext (selected = some row.index))
          = .ok (picture.commands.filterMap DrawCommand.fill?) := by
  refine ⟨render_header (by simpa using nonempty) length, exists_render_rows_iff nonempty colors,
    fun above picture made => ?_⟩
  have listed : (rows.map Line.row).filterMap (·.row?.toOption) = rows := by
    rw [List.filterMap_map]
    exact List.filterMap_some
  rw [← fills_render made, listed]

/-- The usual layout in a font of which every character is 6.25 wide. -/
def Sample.even : Layout where
  ruler := .ofWidths fun _ => .finite (.ofIntWithPrec 25 2)

/-- The next operation and the end of the instruction. -/
def Sample.steps : List Row :=
  [.op 0 ⟨1, none, [], ⟨0, 0⟩⟩ true [.of .indent "  ", .of .mnemonic "COPY"], .fallthrough 1]

/-- A header above these rows. -/
theorem render_below_header_steps : Sample.steps ≠ []
    ∧ (Sample.even.ruler.measure "0:3.1").IsLength ∧ Sample.even.style.Colored Color.InRange
    ∧ ∃ alone picture, render Sample.even [] (some 0) (some "0:3.1") = .ok alone
      ∧ render Sample.even (Sample.steps.map .row) (some 0) none = .ok picture
      ∧ render Sample.even (Sample.steps.map .row) (some 0) (some "0:3.1")
        = .ok (below Sample.even "0:3.1" alone picture) := by
  have measured : Sample.even.ruler.measure "0:3.1" = .finite (.ofIntWithPrec (125 : Nat) 2) := by
    decide +kernel
  have length : (Sample.even.ruler.measure "0:3.1").IsLength :=
    measured ▸ Binary64.ofIntWithPrec_nonneg 125 2
  have nonempty : Sample.steps ≠ [] := List.cons_ne_nil _ _
  obtain ⟨⟨alone, first, both⟩, _⟩ :=
    render_below_header nonempty (some 0) length Style.colored_default
  have succeeds : (render Sample.even (Sample.steps.map .row) (some 0) none).isOk = true := by
    decide +kernel
  refine ⟨nonempty, length, Style.colored_default, alone, ?_⟩
  cases made : render Sample.even (Sample.steps.map .row) (some 0) none with
  | error fault =>
      rw [made] at succeeds
      cases succeeds
  | ok picture =>
      rw [made] at both
      exact ⟨picture, first, rfl, both⟩

end Picture

end PcodePanel
