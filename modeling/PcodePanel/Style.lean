import PcodePanel.Binary64.Basic
import PcodePanel.Display.Row
import PcodePanel.Numeral.Basic

/-!
# Styles

A style says in which colours rows are shown: one for each category of spans that has one, and
those of the row's background.

* `Style.colorOf` is the colour of a category, by default the foreground;
* `Style.withColor` makes a style that differs in one category;
* `Style.css` is the style sheet, with one rule for each category that has a colour.
-/

namespace PcodePanel

/-- A colour, normally of three components from 0 to 255. -/
structure Color where
  components : List Int
deriving DecidableEq, Repr

namespace Color

/-- The component at a position, for writing. -/
def written (color : Color) (position : Nat) : Except Fault String :=
  match color.components[position]? with
  | none => .error (.componentMissing position)
  | some n =>
    .ok ((if 0 ≤ n ∧ n < 16 then "0" else "") ++ Numeral.hex n)

/-- The first three components in hexadecimal, at least two digits each. -/
def hex (color : Color) : Except Fault String :=
  return "#" ++ (← color.written 0) ++ (← color.written 1) ++ (← color.written 2)

/-- The component at a position, for mixing. -/
def component (color : Color) (position : Nat) : Except Fault Binary64 :=
  match color.components[position]? with
  | none => .error .componentsMissing
  | some n => Binary64.ofInt n

/-- The mixture of two colours at one position. -/
def blendAt (a b : Color) (ratio : Binary64) (position : Nat) : Except Fault Int := do
  let first := Binary64.mul (← a.component position) ratio
  let second := Binary64.mul (← b.component position) (Binary64.add .one (.neg ratio))
  (Binary64.add first second).nearest

/-- A mixture of two colours: `ratio` of the first, the rest of the second. -/
def blend (a b : Color) (ratio : Binary64) : Except Fault Color :=
  return ⟨[← blendAt a b ratio 0, ← blendAt a b ratio 1, ← blendAt a b ratio 2]⟩

end Color

/-- The colours that rows are shown in. -/
structure Style where
  /-- The colours of the categories that have one. -/
  colors : Category → Option Color
  /-- The background of the next operation. -/
  counter : Color
  /-- The background of a selected row. -/
  cursor : Color
  background : Color
  foreground : Color

namespace Style

/-- The usual colours of categories. -/
def defaultColors : Category → Option Color
  | .address => some ⟨[0, 0, 128]⟩
  | .register => some ⟨[102, 0, 204]⟩
  | .scalar => some ⟨[0, 128, 0]⟩
  | .unique => some ⟨[153, 51, 0]⟩
  | .mnemonic => some ⟨[0, 0, 128]⟩
  | .unimplemented => some ⟨[128, 0, 0]⟩
  | .separator => some ⟨[0, 0, 128]⟩
  | .lineLabel => some ⟨[0, 0, 255]⟩
  | .space => some ⟨[128, 0, 128]⟩
  | .raw => some ⟨[128, 128, 0]⟩
  | .userop => some ⟨[0, 102, 153]⟩
  | .indent | .text => none

/-- The usual style. -/
def default : Style where
  colors := defaultColors
  counter := ⟨[191, 223, 191]⟩
  cursor := ⟨[232, 242, 254]⟩
  background := ⟨[255, 255, 255]⟩
  foreground := ⟨[0, 0, 0]⟩

instance : Inhabited Style := ⟨default⟩

/-- The colour of a category. -/
def colorOf (style : Style) (category : Category) : Color :=
  (style.colors category).getD style.foreground

/-- The style with another colour for a category, or with none. -/
def withColor (style : Style) (category : Category) (color : Option Color) : Style :=
  { style with colors := fun other => if other = category then color else style.colors other }

/-- The style with other colours for categories, of which a later one counts. -/
def withColors (style : Style) (colors : List (Category × Option Color)) : Style :=
  colors.foldl (fun style (category, color) => style.withColor category color) style

/-- The style with no colour for any category. -/
def uncolored (style : Style) : Style :=
  { style with colors := fun _ => none }

/-- One half. -/
def half : Binary64 :=
  .finite (.ofIntWithPrec 1 1)

/-- The background of a row. The next operation has its own; selecting mixes it with the cursor. -/
def rowBackground (style : Style) (isNext selected : Bool) : Except Fault Color :=
  match isNext, selected with
  | true, true => style.counter.blend style.cursor half
  | true, false => .ok style.counter
  | false, true => .ok style.cursor
  | false, false => .ok style.background

/-- The rule of a category, if it has a colour. -/
def rule? (style : Style) (category : Category) : Except Fault (Option String) :=
  match style.colors category with
  | none => .ok none
  | some color => do
    let hex ← color.hex
    return some (" ." ++ category.styleClass ++ " \x7b color:" ++ hex ++ "; \x7d")

/-- The style sheet. -/
def css (style : Style) : Except Fault String := do
  return String.join ((← Category.all.mapM style.rule?).filterMap id)

end Style

end PcodePanel
