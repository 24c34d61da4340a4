import PcodePanel.Style

/-!
# Pictures of rows

The layout of rows in a picture: one line for each row or text, each row on a rectangle of its
background.

* `Picture.render` lays lines out. A first pass measures them, so a line that cannot be shown is
  refused before anything is drawn.

A `Ruler` measures texts. Lengths are added in the ruler's arithmetic, which is that of binary64
numbers unless it is said to be exact.
-/

namespace PcodePanel

/-- How texts are measured, and how an exact sum of lengths becomes a length. -/
structure Ruler where
  measure : String → Binary64
  round : Dyadic → Binary64 := Binary64.round

namespace Ruler

/-- The ruler that adds the widths of the characters of a text. -/
def ofWidths (width : Char → Binary64) : Ruler where
  measure text := text.toList.foldl (fun length c => length.add (width c)) (.finite .zero)

/-- The sum of two lengths. -/
def add (ruler : Ruler) : Binary64 → Binary64 → Binary64 :=
  Binary64.addWith ruler.round

/-- The length of texts one after the other. -/
def total (ruler : Ruler) (texts : List String) : Binary64 :=
  texts.foldl (fun length text => ruler.add length (ruler.measure text)) (.finite .zero)

end Ruler

/-- Where a text begins: at an integer, or at the end of other texts. -/
inductive Abscissa
  | whole (n : Int)
  | measured (x : Binary64)
deriving DecidableEq

/-- The position as a number. -/
def Abscissa.number : Abscissa → Except Fault Binary64
  | whole n => Binary64.ofInt n
  | measured x => .ok x

/-- What is drawn. -/
inductive DrawCommand
  /-- A text, from its left end at `x` and with its top at `y`. -/
  | text (x : Abscissa) (y : Int) (text : String) (color : Color) (font : String)
  /-- A filled rectangle, with its corners. -/
  | rectangle (left top right bottom : Int) (color : Color)
deriving DecidableEq

/-- A picture: its size, its background, and what is drawn on it, in order. -/
structure Picture where
  width : Int
  height : Int
  background : Color
  commands : List DrawCommand
deriving DecidableEq

namespace Picture

/-- How rows are laid out. -/
structure Layout where
  style : Style := .default
  lineHeight : Int := 16
  padding : Int := 4
  font : String := "default"
  ruler : Ruler

namespace Layout

/-- The length of a line. -/
def lineLength (layout : Layout) : Line → Except Fault Binary64
  | .text text => .ok (layout.ruler.measure text)
  | line => do return layout.ruler.total ((← line.spans).map Prod.snd)

/-- The width that a line needs between the paddings. -/
def lineWidth (layout : Layout) (line : Line) : Except Fault Int := do
  return (← (← layout.lineLength line).truncate) + 1

/-- The width that lines need, padding included. -/
def width (layout : Layout) (lines : List Line) : Except Fault Int := do
  return (← lines.mapM layout.lineWidth).foldl max 1 + 2 * layout.padding

/-- The height of lines, padding included; no lines take the place of one. -/
def height (layout : Layout) (lines : List Line) : Int :=
  max 1 lines.length * layout.lineHeight + 2 * layout.padding

/-- The left end of rows. -/
def left (layout : Layout) : Except Fault Binary64 :=
  Binary64.ofInt layout.padding

/-- Draws spans from `x` on, each where the one before ends. -/
def drawSpans (layout : Layout) (y : Int) : Binary64 → List Span → List DrawCommand
  | _, [] => []
  | x, (category, text) :: spans =>
    .text (.measured x) y text (layout.style.colorOf category) layout.font
      :: layout.drawSpans y (layout.ruler.add x (layout.ruler.measure text)) spans

/-- Draws a line of a picture of the given width, with its top at `y`. -/
def drawLine (layout : Layout) (width : Int) (selected : Option Int) (y : Int) :
    Line → Except Fault (List DrawCommand)
  | .text text => .ok [.text (.whole layout.padding) y text layout.style.foreground layout.font]
  | line => do
    let row ← line.row?
    let color ← layout.style.rowBackground row.isNext (selected = some row.index)
    let x ← layout.left
    return .rectangle 0 y (width - 1) (y + layout.lineHeight - 1) color
      :: layout.drawSpans y x (← row.spans)

/-- Draws lines one below the other, the first with its top at `y`. -/
def drawLines (layout : Layout) (width : Int) (selected : Option Int) :
    (y : Int) → List Line → Except Fault (List DrawCommand)
  | _, [] => .ok []
  | y, line :: lines => do
    let first ← layout.drawLine width selected y line
    return first ++ (← layout.drawLines width selected (y + layout.lineHeight) lines)

end Layout

/-- The picture of lines, below a header if there is one. The row with the selected position is
highlighted. -/
def render (layout : Layout) (lines : List Line) (selected : Option Int) (header : Option String) :
    Except Fault Picture := do
  let lines := header.toList.map Line.text ++ lines
  let width ← layout.width lines
  return {
    width
    height := layout.height lines
    background := layout.style.background
    commands := ← layout.drawLines width selected layout.padding lines }

end Picture

end PcodePanel
