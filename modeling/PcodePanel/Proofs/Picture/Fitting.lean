import PcodePanel.Proofs.Picture.Drawing
import PcodePanel.Proofs.Style.Colors

/-!
# The layout fits

The width of a picture is measured before anything is drawn, by sums of lengths that are cut off to
integers; the texts are then placed by sums that begin at the padding. Where neither sum is rounded,
the two agree: every text ends before the padding on the right. The rectangles of rows lie inside
the picture, one below the other.

* `Ruler.extent`, `Ruler.AddsUp` — exact sums of lengths, and when they are not rounded;
* `Ruler.addsUp_of_grid` — small multiples of a power of two add up;
* `Picture.Fits` — what it is to fit; `Picture.fits_render` — pictures do.
-/

namespace PcodePanel

-- Powers and sums are those of core, whatever else is in scope.
attribute [local instance (10000)] instPowNat Zero.ofOfNat0

/-! ## Lengths that add up -/

namespace Ruler

variable {ruler : Ruler} {start : Dyadic} {text : String} {texts : List String}

/-- The exact length of texts one after the other. -/
def extent (ruler : Ruler) (texts : List String) : Dyadic :=
  (texts.map fun text => (ruler.measure text).value).sum

@[simp] theorem extent_nil : ruler.extent [] = 0 :=
  rfl

@[simp] theorem extent_cons :
    ruler.extent (text :: texts) = (ruler.measure text).value + ruler.extent texts :=
  List.sum_cons

theorem extent_append (texts others : List String) :
    ruler.extent (texts ++ others) = ruler.extent texts + ruler.extent others := by
  induction texts with
  | nil => exact (Dyadic.zero_add _).symm
  | cons text texts ih => rw [List.cons_append, extent_cons, extent_cons, ih, Dyadic.add_assoc]

/-- The ruler gives lengths. -/
def Measures (ruler : Ruler) : Prop :=
  ∀ text, (ruler.measure text).IsLength

theorem Measures.extent_nonneg (lengths : ruler.Measures) (texts : List String) :
    0 ≤ ruler.extent texts := by
  induction texts with
  | nil => exact Std.le_refl _
  | cons text texts ih =>
      have first := (lengths text).value_nonneg
      rw [extent_cons]
      grind

/-- Texts from `start` on add up: no sum of the first of them is rounded. -/
def AddsUp (ruler : Ruler) (start : Dyadic) (texts : List String) : Prop :=
  ∀ shown, shown <+: texts →
    ruler.round (start + ruler.extent shown) = .finite (start + ruler.extent shown)

theorem AddsUp.head (exact : ruler.AddsUp start (text :: texts)) (lengths : ruler.Measures) :
    ruler.add (.finite start) (ruler.measure text)
      = .finite (start + (ruler.measure text).value) := by
  have first := exact [text] ⟨texts, rfl⟩
  rw [extent_cons, extent_nil, Dyadic.add_zero] at first
  rw [add, (lengths text).addWith, first]

theorem AddsUp.tail (exact : ruler.AddsUp start (text :: texts)) :
    ruler.AddsUp (start + (ruler.measure text).value) texts := by
  intro shown front
  have longer := exact (text :: shown) (List.prefix_cons_inj text |>.mpr front)
  rwa [extent_cons, ← Dyadic.add_assoc] at longer

/-- Lengths that add up are added without rounding. -/
theorem AddsUp.foldl_add (exact : ruler.AddsUp start texts) (lengths : ruler.Measures) :
    texts.foldl (fun length text => ruler.add length (ruler.measure text)) (.finite start)
      = .finite (start + ruler.extent texts) := by
  induction texts generalizing start with
  | nil => rw [extent_nil, Dyadic.add_zero, List.foldl_nil]
  | cons text texts ih =>
      rw [List.foldl_cons, exact.head lengths, ih exact.tail, extent_cons, Dyadic.add_assoc]

/-- Lengths on a grid add up if they are few: multiples of a place, less than `2 ^ 53` of them. -/
theorem addsUp_of_grid {places start : Nat} {units : String → Nat}
    (rounds : ruler.round = Binary64.round)
    (measured : ∀ text, ruler.measure text = .finite (.ofIntWithPrec (units text) places))
    (fine : (places : Int) ≤ -Binary64.leastExponent)
    (few : start * 2 ^ places + (texts.map units).sum < 2 ^ Binary64.precision) :
    ruler.AddsUp (start : Int) texts := by
  have grid : ∀ texts, ruler.extent texts
      = .ofIntWithPrec ((texts.map units).sum : Nat) places := by
    intro texts
    induction texts with
    | nil => rfl
    | cons text texts ih =>
        rw [extent_cons, ih, measured, List.map_cons, List.sum_cons, Int.natCast_add,
          ← Binary64.ofIntWithPrec_add]
        rfl
  rintro shown ⟨rest, rfl⟩
  rw [List.map_append, List.sum_append_nat] at few
  have place : (start : Int) * 2 ^ places = (start * 2 ^ places : Nat) := by
    rw [Int.natCast_mul, Int.natCast_pow]
    rfl
  rw [rounds, grid, Binary64.intCast_eq_ofIntWithPrec, Binary64.ofIntWithPrec_add, place,
    ← Int.natCast_add]
  refine Binary64.round_ofIntWithPrec ?_ fine
  rw [Int.natAbs_natCast]
  omega

end Ruler

/-- The rows of pixels that a rectangle takes. -/
def DrawCommand.band? : DrawCommand → Option (Int × Int)
  | text .. => none
  | rectangle _ top _ bottom _ => some (top, bottom)

/-- The place where a text begins. -/
def Abscissa.value : Abscissa → Dyadic
  | whole n => n
  | measured x => x.value

namespace Picture

variable {layout : Layout} {width top : Int} {selected : Option Int} {lines : List Line}
  {picture : Picture} {header : Option String}

/-! ## Lengths of lines -/

/-- The lengths of lines add up, both where they are measured and where they are drawn. -/
structure Exact (layout : Layout) (lines : List Line) : Prop where
  measures : layout.ruler.Measures
  left : layout.left = .ok (.finite layout.padding)
  measured : ∀ row spans, .row row ∈ lines → row.spans = .ok spans →
    layout.ruler.AddsUp 0 (spans.map Prod.snd)
  drawn : ∀ row spans, .row row ∈ lines → row.spans = .ok spans →
    layout.ruler.AddsUp layout.padding (spans.map Prod.snd)

theorem Exact.lineLength_row (exact : Exact layout lines) {row : Row} {spans : List Span}
    (member : .row row ∈ lines) (known : row.spans = .ok spans) :
    layout.lineLength (.row row) = .ok (.finite (layout.ruler.extent (spans.map Prod.snd))) := by
  have total := (exact.measured row spans member known).foldl_add exact.measures
  rw [Dyadic.zero_add] at total
  show (row.spans >>= fun spans => pure (layout.ruler.total (spans.map Prod.snd))) = _
  rw [known]
  exact congrArg Except.ok total

theorem Exact.isLength (exact : Exact layout lines) {line : Line} (member : line ∈ lines)
    {length : Binary64} (known : layout.lineLength line = .ok length) : length.IsLength := by
  cases line with
  | row row =>
      obtain ⟨spans, made, _⟩ := bind_eq_ok_iff.mp known
      rw [exact.lineLength_row member made] at known
      obtain rfl := Except.ok.inj known
      exact exact.measures.extent_nonneg _
  | text content =>
      obtain rfl := Except.ok.inj known
      exact exact.measures content
  | absent => cases known

/-! ## Texts -/

/-- The texts of spans from `left` on, each where the ones before it end. -/
def placed (layout : Layout) (top : Int) (left : Dyadic) (spans : List Span) : List DrawCommand :=
  spans.mapIdx fun k span =>
    .text (.measured (.finite (left + layout.ruler.extent ((spans.take k).map Prod.snd)))) top
      span.2 (layout.style.colorOf span.1) layout.font

theorem drawSpans_eq_placed (lengths : layout.ruler.Measures) {left : Dyadic} {spans : List Span}
    (exact : layout.ruler.AddsUp left (spans.map Prod.snd)) :
    layout.drawSpans top (.finite left) spans = placed layout top left spans := by
  induction spans generalizing left with
  | nil => rfl
  | cons span spans ih =>
      rw [Layout.drawSpans, exact.head lengths, ih exact.tail, placed, placed, List.mapIdx_cons]
      simp [Dyadic.add_assoc, Dyadic.add_zero]

/-- What is drawn for a line with its top at `top`: a text at the padding; or for a row the
rectangle of its background across the picture, and then its texts. -/
inductive Shows (layout : Layout) (width : Int) (selected : Option Int) (top : Int) :
    Line → List DrawCommand → Prop
  | text (content : String) : Shows layout width selected top (.text content)
      [.text (.whole layout.padding) top content layout.style.foreground layout.font]
  | row {row : Row} {spans : List Span} {color : Color} (known : row.spans = .ok spans)
      (background :
        layout.style.rowBackground row.isNext (selected = some row.index) = .ok color) :
      Shows layout width selected top (.row row)
        (.rectangle 0 top (width - 1) (top + layout.lineHeight - 1) color
          :: placed layout top layout.padding spans)

theorem Exact.shows (exact : Exact layout lines) {line : Line} (member : line ∈ lines)
    {block : List DrawCommand} (made : layout.drawLine width selected top line = .ok block) :
    Shows layout width selected top line block := by
  cases line with
  | row row =>
      obtain ⟨color, x, spans, background, starts, known, rfl⟩ := drawLine_row_eq_ok_iff.mp made
      rw [exact.left] at starts
      obtain rfl := Except.ok.inj starts
      rw [drawSpans_eq_placed exact.measures (exact.drawn row spans member known)]
      exact .row known background
  | text content =>
      obtain rfl := Except.ok.inj made
      exact .text content
  | absent => cases made

theorem extent_split (ruler : Ruler) {spans : List Span} {k : Nat} (bound : k < spans.length) :
    ruler.extent (spans.map Prod.snd) = ruler.extent ((spans.take k).map Prod.snd)
      + ((ruler.measure spans[k].2).value + ruler.extent ((spans.drop (k + 1)).map Prod.snd)) := by
  have parts : spans = spans.take k ++ spans[k] :: spans.drop (k + 1) := by
    rw [← List.drop_eq_getElem_cons bound, List.take_append_drop]
  conv_lhs => rw [parts]
  rw [List.map_append, List.map_cons, Ruler.extent_append, Ruler.extent_cons]

/-- A text ends where the width of its line does, or before. -/
theorem Exact.end_le (exact : Exact layout lines) {line : Line} (member : line ∈ lines)
    {block : List DrawCommand} (shows : Shows layout width selected top line block)
    {n : Int} (measured : layout.lineWidth line = .ok n) {x : Abscissa} {y : Int} {text : String}
    {color : Color} {font : String} (drawn : .text x y text color font ∈ block) :
    x.value + (layout.ruler.measure text).value ≤ (layout.padding : Dyadic) + n := by
  cases shows with
  | text content =>
      obtain ⟨rfl, _, rfl, _⟩ := DrawCommand.text.inj (List.mem_singleton.mp drawn)
      have length : layout.lineLength (.text text) = .ok (layout.ruler.measure text) := rfl
      obtain ⟨n', same, below⟩ := exists_lineWidth length (exact.measures text)
      obtain rfl := Except.ok.inj (measured.symm.trans same)
      show (layout.padding : Dyadic) + _ ≤ _
      grind
  | @row row spans _ known _ =>
      have inside : DrawCommand.text x y text color font
          ∈ placed layout top layout.padding spans := by simpa using drawn
      obtain ⟨k, bound, same⟩ := List.mem_mapIdx.mp inside
      obtain ⟨rfl, _, rfl, _⟩ := DrawCommand.text.inj same
      have known := exact.lineLength_row member known
      obtain ⟨n', same, below⟩ := exists_lineWidth known (exact.isLength member known)
      obtain rfl := Except.ok.inj (measured.symm.trans same)
      have rest := exact.measures.extent_nonneg ((spans.drop (k + 1)).map Prod.snd)
      have below : layout.ruler.extent (spans.map Prod.snd) < n := below
      rw [extent_split _ bound] at below
      show layout.padding + layout.ruler.extent _ + _ ≤ _
      grind

/-! ## Rectangles -/

theorem Shows.rectangle_eq {line : Line} {block : List DrawCommand}
    (shows : Shows layout width selected top line block) {left upper right lower : Int}
    {color : Color} (drawn : .rectangle left upper right lower color ∈ block) :
    left = 0 ∧ upper = top ∧ right = width - 1 ∧ lower = top + layout.lineHeight - 1 := by
  cases shows with
  | text content => cases List.mem_singleton.mp drawn
  | row known background =>
      rcases List.mem_cons.mp drawn with same | member
      · obtain ⟨rfl, rfl, rfl, rfl, _⟩ := DrawCommand.rectangle.inj same
        exact ⟨rfl, rfl, rfl, rfl⟩
      · obtain ⟨_, _, same⟩ := List.mem_mapIdx.mp member
        cases same

/-- A line has one rectangle at most, and it is as high as the line. -/
theorem bands_drawLine {line : Line} {block : List DrawCommand}
    (made : layout.drawLine width selected top line = .ok block) :
    (block.filterMap DrawCommand.band?).Sublist [(top, top + layout.lineHeight - 1)] := by
  cases line with
  | row row =>
      obtain ⟨color, x, spans, _, _, _, rfl⟩ := drawLine_row_eq_ok_iff.mp made
      rw [List.filterMap_cons, filterMap_drawSpans fun _ _ _ _ _ => rfl, DrawCommand.band?]
  | text content =>
      obtain rfl := Except.ok.inj made
      exact List.nil_sublist _
  | absent => cases made

/-- Rectangles lie one below the other. -/
theorem Stacked.pairwise_bands {blocks : List (List DrawCommand)}
    (stacked : Stacked layout width selected top lines blocks) (positive : 1 ≤ layout.lineHeight) :
    (blocks.flatten.filterMap DrawCommand.band?).Pairwise (fun upper lower => upper.2 < lower.1)
      ∧ ∀ band ∈ blocks.flatten.filterMap DrawCommand.band?, top ≤ band.1 := by
  induction lines generalizing top blocks with
  | nil =>
      rw [List.length_eq_zero_iff.mp stacked.length]
      simp
  | cons line lines ih =>
      cases blocks with
      | nil => cases stacked.length
      | cons block blocks =>
          obtain ⟨made, rest⟩ := stacked_cons_iff.mp stacked
          obtain ⟨apart, lower⟩ := ih rest
          have band := bands_drawLine made
          have first : ∀ upper ∈ block.filterMap DrawCommand.band?,
              upper = (top, top + layout.lineHeight - 1) :=
            fun upper member => List.mem_singleton.mp (band.subset member)
          rw [List.flatten_cons, List.filterMap_append, List.pairwise_append]
          refine ⟨⟨(List.pairwise_singleton _ _).sublist band, apart, ?_⟩, ?_⟩
          · intro upper here under there
            have := lower under there
            rw [first upper here]
            show top + layout.lineHeight - 1 < under.1
            omega
          · intro under member
            rcases List.mem_append.mp member with here | there
            · exact Int.le_of_eq (congrArg Prod.fst (first under here)).symm
            · have := lower under there
              omega

/-! ## Pictures -/

/-- Pictures fit: lines stand one below the other, each drawn for what it is; rectangles lie in the
picture and apart from each other; and texts end before the padding on the right. -/
structure Fits (layout : Layout) (lines : List Line) (selected : Option Int) (picture : Picture) :
    Prop where
  height : picture.height = max 1 lines.length * layout.lineHeight + 2 * layout.padding
  blocks : ∃ blocks : List (List DrawCommand),
    picture.commands = blocks.flatten ∧ blocks.length = lines.length
    ∧ ∀ (i : Nat) line block, lines[i]? = some line → blocks[i]? = some block →
      Shows layout picture.width selected (layout.padding + i * layout.lineHeight) line block
  inside : ∀ left top right bottom color,
    .rectangle left top right bottom color ∈ picture.commands →
    (0 ≤ left ∧ left ≤ right ∧ right < picture.width)
      ∧ 0 ≤ top ∧ top ≤ bottom ∧ bottom < picture.height
  apart : (picture.commands.filterMap DrawCommand.band?).Pairwise
    fun upper lower => upper.2 < lower.1
  within : ∀ x top text color font, .text x top text color font ∈ picture.commands →
    x.value + (layout.ruler.measure text).value ≤ ((picture.width - layout.padding : Int) : Dyadic)

theorem Stacked.exists_line {blocks : List (List DrawCommand)}
    (stacked : Stacked layout width selected top lines blocks) {command : DrawCommand}
    (member : command ∈ blocks.flatten) : ∃ (i : Nat) (line : Line) (block : List DrawCommand),
      lines[i]? = some line ∧ blocks[i]? = some block ∧ command ∈ block := by
  obtain ⟨block, known, inside⟩ := List.mem_flatten.mp member
  obtain ⟨i, bound, rfl⟩ := List.getElem_of_mem known
  have line := List.getElem?_eq_getElem (stacked.length ▸ bound)
  exact ⟨i, _, _, line, List.getElem?_eq_getElem bound, inside⟩

theorem fits_of_render (positive : 1 ≤ layout.lineHeight) (padding : 0 ≤ layout.padding)
    (exact : Exact layout (shown header lines))
    (made : render layout lines selected header = .ok picture) :
    Fits layout (shown header lines) selected picture := by
  obtain ⟨width, blocks, measured, stacked, rfl⟩ := render_eq_ok_iff.mp made
  obtain ⟨least, room⟩ := le_width measured
  have shows : ∀ (i : Nat) line block, (shown header lines)[i]? = some line →
      blocks[i]? = some block →
      Shows layout width selected (layout.padding + i * layout.lineHeight) line block :=
    fun i line block listed drawn =>
      exact.shows (List.mem_of_getElem? listed) (stacked.drawn i line block listed drawn)
  refine ⟨rfl, ⟨blocks, rfl, stacked.length, shows⟩, ?_, (stacked.pairwise_bands positive).1, ?_⟩
  · intro left top right bottom color member
    obtain ⟨i, line, block, listed, drawn, inside⟩ := stacked.exists_line member
    obtain ⟨rfl, rfl, rfl, rfl⟩ := (shows i line block listed drawn).rectangle_eq inside
    have above : 0 ≤ i * layout.lineHeight := Int.mul_nonneg (by omega) (by omega)
    have below : (i + 1) * layout.lineHeight
        ≤ max 1 (shown header lines).length * layout.lineHeight := by
      refine Int.mul_le_mul_of_nonneg_right ?_ (by omega)
      have := (List.getElem?_eq_some_iff.mp listed).1
      omega
    rw [Int.add_mul] at below
    dsimp only [Layout.height]
    omega
  · intro x top text color font member
    obtain ⟨i, line, block, listed, drawn, inside⟩ := stacked.exists_line member
    have known := List.mem_of_getElem? listed
    obtain ⟨n, wide, fits⟩ := room line known
    have ends := exact.end_le known (shows i line block listed drawn) wide inside
    have fits : ((layout.padding + n : Int) : Dyadic) ≤ ((width - layout.padding : Int) : Dyadic) :=
      Binary64.intCast_le_intCast (by omega)
    exact Std.le_trans ends (Std.le_trans (Std.le_of_eq (by grind)) fits)

/-- Where lengths add up, a line is measured if it can be shown. -/
theorem Exact.lineWidth_eq_error_iff (exact : Exact layout lines) {line : Line}
    (member : line ∈ lines) {fault : Fault} :
    layout.lineWidth line = .error fault ↔ Undrawable line fault := by
  have unmeasured : layout.lineLength line = .error fault ↔ Undrawable line fault :=
    lineLength_eq_error_iff
  rw [← unmeasured]
  cases known : layout.lineLength line with
  | error other => simp [Layout.lineWidth, known, bind, Except.bind]
  | ok length =>
      obtain ⟨n, made, _⟩ := exists_lineWidth known (exact.isLength member known)
      rw [made]
      exact iff_of_false (fun refused => by cases refused) (fun refused => by cases refused)

/-- **The layout fits.** Where lengths add up and colours are bytes, the first line that cannot be
shown is refused when it is measured. If there is none, there is a picture, and it fits. -/
theorem fits_render (positive : 1 ≤ layout.lineHeight) (padding : 0 ≤ layout.padding)
    (colors : layout.style.Colored Color.InRange) (exact : Exact layout (shown header lines)) :
    (∃ before line after fault, shown header lines = before ++ line :: after
        ∧ (∀ other ∈ before, ∀ fault, ¬Undrawable other fault) ∧ Undrawable line fault
        ∧ layout.width (shown header lines) = .error fault
        ∧ render layout lines selected header = .error fault)
      ∨ (∀ line ∈ shown header lines, ∀ fault, ¬Undrawable line fault)
        ∧ ∃ picture, render layout lines selected header = .ok picture
          ∧ Fits layout (shown header lines) selected picture := by
  have showable : ∀ line ∈ shown header lines, (∃ n, layout.lineWidth line = .ok n) →
      ∀ fault, ¬Undrawable line fault := by
    rintro line member ⟨n, made⟩ fault undrawable
    rw [(exact.lineWidth_eq_error_iff member).mpr undrawable] at made
    cases made
  cases measured : layout.width (shown header lines) with
  | error fault =>
      obtain ⟨before, line, after, split, done, refused⟩ :=
        exists_first_of_mapM_eq_error (bind_pure_eq_error_iff.mp measured)
      have member : line ∈ shown header lines := by simp [split]
      refine .inl ⟨before, line, after, fault, split, fun other known => ?_,
        (exact.lineWidth_eq_error_iff member).mp refused, rfl,
        bind_eq_error_iff.mpr (.inl measured)⟩
      exact showable other (by simp [split, known]) (done other known)
  | ok width =>
      have none : ∀ line ∈ shown header lines, ∀ fault, ¬Undrawable line fault := by
        intro line member
        obtain ⟨n, made, _⟩ := (le_width measured).2 line member
        exact showable line member ⟨n, made⟩
      have drawable : ∀ line ∈ lines, Drawable layout selected line := by
        intro line member
        have none := none line (List.mem_append_right _ member)
        cases line with
        | row row =>
            refine ⟨?_, ⟨_, exact.left⟩, Style.exists_rowBackground colors _ _⟩
            cases known : row.spans with
            | ok spans => exact ⟨spans, rfl⟩
            | error fault => exact absurd (spans_eq_error_iff.mp known) (none fault)
        | text content => trivial
        | absent => exact none _ .absent
      obtain ⟨picture, made⟩ := exists_render_iff.mpr ⟨⟨width, measured⟩, drawable⟩
      exact .inr ⟨none, picture, made, fits_of_render positive padding exact made⟩

/-- A ruler for a font of which every character is 6.25 wide. -/
def Sample.ruler : Ruler where
  measure text := .finite (.ofIntWithPrec (25 * text.length : Nat) 2)

/-- The usual layout in that font. -/
def Sample.usual : Layout where
  ruler := Sample.ruler

/-- An operation, a text and the end of an instruction. -/
def Sample.listing : List Line :=
  [.row (.op 0 ⟨1, none, [], ⟨0, 0⟩⟩ true [.of .indent "  ", .of .mnemonic "COPY"]), .text "--",
    .row (.fallthrough 1)]

/-- The texts of its rows add up, since there are less than `2 ^ 53` quarters of them. -/
theorem Sample.addsUp {start : Nat} (near : start ≤ 4) {row : Row} {spans : List Span}
    (member : .row row ∈ shown (some "0:3.1") Sample.listing) (known : row.spans = .ok spans) :
    Sample.ruler.AddsUp (start : Int) (spans.map Prod.snd) := by
  have fine : ((2 : Nat) : Int) ≤ -Binary64.leastExponent := by decide
  refine Ruler.addsUp_of_grid rfl (fun _ => rfl) fine ?_
  have few : ((spans.map Prod.snd).map fun text => 25 * text.length).sum ≤ 350 := by
    simp only [shown, Sample.listing, Option.toList_some, List.map_cons, List.map_nil,
      List.cons_append, List.nil_append, List.mem_cons, List.not_mem_nil, reduceCtorEq,
      Line.row.injEq, false_or, or_false] at member
    rcases member with rfl | rfl
    all_goals
      cases known
      decide +kernel
  have start_le : start * 2 ^ 2 ≤ 4 * 2 ^ 2 := Nat.mul_le_mul_right _ near
  exact Nat.lt_of_le_of_lt (Nat.add_le_add start_le few) (by decide)

theorem Sample.exact : Exact Sample.usual (shown (some "0:3.1") Sample.listing) where
  measures text := Binary64.ofIntWithPrec_nonneg _ 2
  left := by decide +kernel
  measured _ _ member known := Sample.addsUp (by decide : 0 ≤ 4) member known
  drawn _ _ member known := Sample.addsUp (by decide : 4 ≤ 4) member known

/-- A picture of these lines below a header. -/
theorem fits_render_listing : 1 ≤ Sample.usual.lineHeight ∧ 0 ≤ Sample.usual.padding
    ∧ Sample.usual.style.Colored Color.InRange
    ∧ Exact Sample.usual (shown (some "0:3.1") Sample.listing)
    ∧ ∃ picture, render Sample.usual Sample.listing (some 0) (some "0:3.1") = .ok picture
      ∧ Fits Sample.usual (shown (some "0:3.1") Sample.listing) (some 0) picture := by
  refine ⟨by decide, by decide, Style.colored_default, Sample.exact, ?_⟩
  rcases fits_render (by decide) (by decide) Style.colored_default Sample.exact with
    ⟨before, line, after, fault, split, _, refused, _⟩ | ⟨_, made⟩
  · have member : line ∈ shown (some "0:3.1") Sample.listing := by simp [split]
    simp only [shown, Sample.listing, Option.toList_some, List.map_cons, List.map_nil,
      List.cons_append, List.nil_append, List.mem_cons, List.not_mem_nil, or_false] at member
    rcases member with rfl | rfl | rfl | rfl <;> cases refused
  · exact made

/-- A branch to a target of too many digits. -/
def Sample.faraway : Line :=
  .row (.branch 0 (some (10 ^ Numeral.digitLimit)))

theorem Sample.undrawable_faraway : Undrawable Sample.faraway .numeralTooLong :=
  .branch 0 _ (by decide +kernel)

/-- Two layouts that do not fit. A branch to a target of too many digits is refused, and not for
being no row. And where the padding is no binary64 number, texts begin beside it. -/
theorem misfit_longTarget_oddPadding :
    (render Sample.usual [Sample.faraway] none none = .error .numeralTooLong
        ∧ Fault.numeralTooLong.kind ≠ .type)
      ∧ ∃ (picture : Picture) (x : Dyadic),
        render { Sample.usual with padding := 9007199254740993 } [.row (.fallthrough 0)] none none
            = .ok picture
        ∧ .text (.measured (.finite x)) 9007199254740993 "(fall-through)" ⟨[0, 0, 0]⟩ "default"
            ∈ picture.commands
        ∧ x = (9007199254740992 : Int) ∧ x ≠ (9007199254740993 : Int) := by
  constructor
  · have unmeasured : Sample.usual.lineLength Sample.faraway = .error .numeralTooLong :=
      lineLength_eq_error_iff.mpr Sample.undrawable_faraway
    refine ⟨?_, by decide⟩
    simp [render, Layout.width, Layout.lineWidth, unmeasured, bind, Except.bind]
  · have made : (render { Sample.usual with padding := 9007199254740993 } [.row (.fallthrough 0)]
        none none).toOption = some ⟨18014398509482074, 18014398509482002, ⟨[255, 255, 255]⟩,
          [.rectangle 0 9007199254740993 18014398509482073 9007199254741008 ⟨[255, 255, 255]⟩,
            .text (.measured (.finite (.ofOdd 1 (-53) rfl))) 9007199254740993 "(fall-through)"
              ⟨[0, 0, 0]⟩ "default"]⟩ := by decide +kernel
    exact ⟨_, .ofOdd 1 (-53) rfl, toOption_eq_some_iff.mp made,
      List.mem_cons_of_mem _ List.mem_cons_self, by decide +kernel, by decide +kernel⟩

end Picture

end PcodePanel
