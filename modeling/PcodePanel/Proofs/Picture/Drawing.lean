import PcodePanel.Picture
import PcodePanel.Proofs.Binary64.Exact
import PcodePanel.Proofs.Result

/-!
# What is drawn

A picture is made if its lines can be measured and drawn. Then it holds one block of commands for
each line, and the tops of the blocks are apart by the height of a line.

* `Picture.Undrawable` — the lines that are refused, and why;
* `Picture.Stacked`, `Picture.drawLines_eq_ok_iff` — the blocks of a picture;
* `Picture.render_eq_ok_iff`, `Picture.exists_render_iff` — when there is a picture, and which.
-/

namespace PcodePanel.Picture

variable {layout : Layout} {width top : Int} {selected : Option Int} {lines : List Line}
  {picture : Picture}

/-! ## Lines that cannot be shown -/

/-- A line that cannot be shown, and why: nothing was given, or the target of a branch has too many
digits. -/
inductive Undrawable : Line → Fault → Prop
  | absent : Undrawable .absent (.unsupportedRow "None")
  | branch (index target : Int) (long : ¬Numeral.Short target) :
    Undrawable (.row (.branch index (some target))) .numeralTooLong

theorem spans_eq_error_iff {row : Row} {fault : Fault} :
    row.spans = .error fault ↔ Undrawable (.row row) fault := by
  constructor
  · intro refused
    cases row with
    | branch index target =>
        cases target with
        | none => cases refused
        | some target =>
            rw [Row.spans, Numeral.write] at refused
            split at refused
            next => cases refused
            next long =>
              cases refused
              exact .branch index target long
    | _ => cases refused
  · rintro ⟨⟩
    case branch long =>
      rw [Row.spans, Numeral.write, if_neg long]
      rfl

/-- A line has a length if it can be shown. -/
theorem lineLength_eq_error_iff {line : Line} {fault : Fault} :
    layout.lineLength line = .error fault ↔ Undrawable line fault := by
  cases line with
  | row row => exact bind_pure_eq_error_iff.trans spans_eq_error_iff
  | text content => exact ⟨fun refused => (by cases refused), fun refused => (by cases refused)⟩
  | absent =>
      constructor
      · rintro ⟨⟩
        exact .absent
      · rintro ⟨⟩
        rfl

/-! ## Widths -/

/-- The width of a line exceeds its length. -/
theorem exists_lineWidth {line : Line} {length : Binary64}
    (known : layout.lineLength line = .ok length) (isLength : length.IsLength) :
    ∃ n : Int, layout.lineWidth line = .ok n ∧ length.value < n := by
  obtain ⟨n, cut, below⟩ := isLength.exists_truncate
  exact ⟨n + 1, by rw [Layout.lineWidth, known]; simp only [bind, Except.bind, cut]; rfl, below⟩

theorem le_foldl_max (widths : List Int) (start : Int) :
    start ≤ widths.foldl max start ∧ ∀ n ∈ widths, n ≤ widths.foldl max start := by
  induction widths generalizing start with
  | nil => exact ⟨Int.le_refl _, by simp⟩
  | cons first widths ih =>
      obtain ⟨least, rest⟩ := ih (max start first)
      rw [List.foldl_cons, List.forall_mem_cons]
      exact ⟨by omega, by omega, rest⟩

/-- A picture is as wide as each of its lines and the paddings. -/
theorem le_width (measured : layout.width lines = .ok width) : 1 + 2 * layout.padding ≤ width
    ∧ ∀ line ∈ lines, ∃ n, layout.lineWidth line = .ok n ∧ n + 2 * layout.padding ≤ width := by
  obtain ⟨widths, each, made⟩ := bind_eq_ok_iff.mp measured
  obtain rfl := Except.ok.inj made
  obtain ⟨least, most⟩ := le_foldl_max widths 1
  refine ⟨by omega, fun line member => ?_⟩
  obtain ⟨n, found, shown⟩ := exists_of_mapM_eq_ok each line member
  exact ⟨n, shown, by have := most n found; omega⟩

theorem exists_width_iff : (∃ width, layout.width lines = .ok width)
    ↔ ∀ line ∈ lines, ∃ n, layout.lineWidth line = .ok n := by
  constructor
  · rintro ⟨width, measured⟩ line member
    obtain ⟨n, made, _⟩ := (le_width measured).2 line member
    exact ⟨n, made⟩
  · intro each
    cases measured : lines.mapM layout.lineWidth with
    | ok widths => exact ⟨_, by rw [Layout.width, measured]; rfl⟩
    | error fault =>
        obtain ⟨line, member, refused⟩ := mapM_eq_error measured
        obtain ⟨n, made⟩ := each line member
        rw [refused] at made
        cases made

/-! ## The block of a line -/

/-- A line that can be drawn once it has been measured. -/
def Drawable (layout : Layout) (selected : Option Int) : Line → Prop
  | .row row => (∃ spans, row.spans = .ok spans) ∧ (∃ x, layout.left = .ok x)
    ∧ ∃ color, layout.style.rowBackground row.isNext (selected = some row.index) = .ok color
  | .text _ => True
  | .absent => False

theorem drawLine_row_eq_ok_iff {row : Row} {block : List DrawCommand} :
    layout.drawLine width selected top (.row row) = .ok block ↔ ∃ color x spans,
      layout.style.rowBackground row.isNext (selected = some row.index) = .ok color
        ∧ layout.left = .ok x ∧ row.spans = .ok spans
        ∧ .rectangle 0 top (width - 1) (top + layout.lineHeight - 1) color
          :: layout.drawSpans top x spans = block := by
  show (layout.style.rowBackground row.isNext (selected = some row.index) >>= _) = _ ↔ _
  simp only [bind_eq_ok_iff]
  constructor
  · rintro ⟨color, filled, x, starts, spans, shown, made⟩
    exact ⟨color, x, spans, filled, starts, shown, Except.ok.inj made⟩
  · rintro ⟨color, x, spans, filled, starts, shown, rfl⟩
    exact ⟨color, filled, x, starts, spans, shown, rfl⟩

/-- Spans are drawn as texts only. -/
theorem filterMap_drawSpans {α : Type} {f : DrawCommand → Option α}
    (ignores : ∀ x y content color font, f (.text x y content color font) = none) (x : Binary64)
    (spans : List Span) : (layout.drawSpans top x spans).filterMap f = [] := by
  induction spans generalizing x with
  | nil => rfl
  | cons span spans ih =>
      rw [Layout.drawSpans, List.filterMap_cons_none (ignores ..)]
      exact ih _

theorem exists_drawLine_iff {line : Line} :
    (∃ block, layout.drawLine width selected top line = .ok block)
      ↔ Drawable layout selected line := by
  cases line with
  | row row =>
      simp only [drawLine_row_eq_ok_iff, Drawable]
      constructor
      · rintro ⟨_, color, x, spans, filled, starts, shown, _⟩
        exact ⟨⟨spans, shown⟩, ⟨x, starts⟩, color, filled⟩
      · rintro ⟨⟨spans, shown⟩, ⟨x, starts⟩, color, filled⟩
        exact ⟨_, color, x, spans, filled, starts, shown, rfl⟩
  | text content => exact iff_of_true ⟨_, rfl⟩ trivial
  | absent => exact iff_of_false (fun ⟨_, made⟩ => by cases made) id

/-! ## Blocks below each other -/

/-- Blocks of commands that draw lines, the first with its top at `top`. -/
structure Stacked (layout : Layout) (width : Int) (selected : Option Int) (top : Int)
    (lines : List Line) (blocks : List (List DrawCommand)) : Prop where
  length : blocks.length = lines.length
  drawn : ∀ (i : Nat) line block, lines[i]? = some line → blocks[i]? = some block →
    layout.drawLine width selected (top + i * layout.lineHeight) line = .ok block

theorem stacked_cons_iff {line : Line} {block : List DrawCommand}
    {blocks : List (List DrawCommand)} :
    Stacked layout width selected top (line :: lines) (block :: blocks)
      ↔ layout.drawLine width selected top line = .ok block
        ∧ Stacked layout width selected (top + layout.lineHeight) lines blocks := by
  have below : ∀ i : Int, top + (i + 1) * layout.lineHeight
      = top + layout.lineHeight + i * layout.lineHeight := by
    intro i
    rw [Int.add_mul]
    omega
  constructor
  · intro stacked
    refine ⟨by simpa using stacked.drawn 0 line block rfl rfl, ?_, fun i => ?_⟩
    · simpa using stacked.length
    · simpa [below] using stacked.drawn (i + 1)
  · rintro ⟨first, rest⟩
    refine ⟨by simpa using rest.length, fun i => ?_⟩
    cases i with
    | zero =>
        rintro _ _ ⟨⟩ ⟨⟩
        simpa using first
    | succ i => simpa [below] using rest.drawn i

theorem drawLines_eq_ok_iff {commands : List DrawCommand} :
    layout.drawLines width selected top lines = .ok commands
      ↔ ∃ blocks, Stacked layout width selected top lines blocks ∧ blocks.flatten = commands := by
  induction lines generalizing top commands with
  | nil =>
      constructor
      · rintro ⟨⟩
        exact ⟨[], ⟨rfl, by simp⟩, rfl⟩
      · rintro ⟨blocks, stacked, rfl⟩
        rw [List.length_eq_zero_iff.mp stacked.length]
        rfl
  | cons line lines ih =>
      rw [Layout.drawLines]
      simp only [bind_eq_ok_iff, ih]
      constructor
      · rintro ⟨block, first, _, ⟨blocks, rest, rfl⟩, made⟩
        exact ⟨block :: blocks, stacked_cons_iff.mpr ⟨first, rest⟩, Except.ok.inj made⟩
      · rintro ⟨blocks, stacked, rfl⟩
        cases blocks with
        | nil => cases stacked.length
        | cons block blocks =>
            obtain ⟨first, rest⟩ := stacked_cons_iff.mp stacked
            exact ⟨block, first, _, ⟨blocks, rest, rfl⟩, rfl⟩

theorem exists_drawLines_iff :
    (∃ commands, layout.drawLines width selected top lines = .ok commands)
      ↔ ∀ line ∈ lines, Drawable layout selected line := by
  induction lines generalizing top with
  | nil => exact iff_of_true ⟨_, rfl⟩ (by simp)
  | cons line lines ih =>
      rw [List.forall_mem_cons, ← ih, ← exists_drawLine_iff, Layout.drawLines]
      simp only [bind_eq_ok_iff]
      constructor
      · rintro ⟨_, block, first, commands, rest, _⟩
        exact ⟨⟨block, first⟩, commands, rest⟩
      · rintro ⟨⟨block, first⟩, commands, rest⟩
        exact ⟨_, block, first, commands, rest, rfl⟩

/-! ## Pictures -/

/-- The lines of a picture: a header if there is one, and what it stands above. -/
def shown (header : Option String) (lines : List Line) : List Line :=
  header.toList.map Line.text ++ lines

variable {header : Option String}

theorem render_eq_ok_iff : render layout lines selected header = .ok picture
    ↔ ∃ width blocks, layout.width (shown header lines) = .ok width
      ∧ Stacked layout width selected layout.padding (shown header lines) blocks
      ∧ picture = {
        width
        height := layout.height (shown header lines)
        background := layout.style.background
        commands := blocks.flatten } := by
  rw [render]
  simp only [bind_eq_ok_iff, drawLines_eq_ok_iff]
  constructor
  · rintro ⟨width, measured, _, ⟨blocks, stacked, rfl⟩, made⟩
    exact ⟨width, blocks, measured, stacked, (Except.ok.inj made).symm⟩
  · rintro ⟨width, blocks, measured, stacked, rfl⟩
    exact ⟨width, measured, _, ⟨blocks, stacked, rfl⟩, rfl⟩

theorem exists_render_iff : (∃ picture, render layout lines selected header = .ok picture)
    ↔ (∃ width, layout.width (shown header lines) = .ok width)
      ∧ ∀ line ∈ lines, Drawable layout selected line := by
  have headed : (∀ line ∈ shown header lines, Drawable layout selected line)
      ↔ ∀ line ∈ lines, Drawable layout selected line := by
    cases header <;> simp [shown, Drawable]
  rw [← headed]
  constructor
  · rintro ⟨picture, made⟩
    obtain ⟨width, blocks, measured, stacked, _⟩ := render_eq_ok_iff.mp made
    exact ⟨⟨width, measured⟩,
      exists_drawLines_iff.mp ⟨_, drawLines_eq_ok_iff.mpr ⟨blocks, stacked, rfl⟩⟩⟩
  · rintro ⟨⟨width, measured⟩, drawable⟩
    have drawn : ∃ commands, layout.drawLines width selected layout.padding (shown header lines)
        = .ok commands := exists_drawLines_iff.mpr drawable
    obtain ⟨_, drawn⟩ := drawn
    obtain ⟨blocks, stacked, _⟩ := drawLines_eq_ok_iff.mp drawn
    exact ⟨_, render_eq_ok_iff.mpr ⟨width, blocks, measured, stacked, rfl⟩⟩

end PcodePanel.Picture
