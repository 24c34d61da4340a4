import PcodePanel.Proofs.Binary64.Exact
import PcodePanel.Proofs.Numeral.Reading
import PcodePanel.Style

/-!
# Colours of a style

A colour of three components can be written, and if they are bytes it can be mixed with another, so
that every row has a background. Of the updates of a style, the last one for a category counts.

* `Color.exists_hex` — colours that can be written;
* `Style.exists_rowBackground` — rows have a background;
* `Style.withColors_eq` — what updates of a style come to.
-/

namespace PcodePanel

-- Powers are those of core, whatever else is in scope.
attribute [local instance (10000)] instPowNat

namespace Color

/-- A colour of three components. -/
def IsTriple (color : Color) : Prop :=
  color.components.length = 3

/-- A colour of three components from 0 to 255. -/
structure InRange (color : Color) : Prop where
  triple : color.IsTriple
  bytes : ∀ n ∈ color.components, 0 ≤ n ∧ n ≤ 255

instance (color : Color) : Decidable color.InRange :=
  decidable_of_iff (color.components.length = 3 ∧ ∀ n ∈ color.components, 0 ≤ n ∧ n ≤ 255)
    ⟨fun inRange => ⟨inRange.1, inRange.2⟩, fun inRange => ⟨inRange.triple, inRange.bytes⟩⟩

/-! ## Writing -/

/-- A character that colours are not written with. -/
structure Foreign (c : Char) : Prop where
  mark : c ≠ '#'
  sign : c ≠ '-'
  digit : ∀ d < 16, Nat.digitChar d ≠ c

theorem exists_written {color : Color} (triple : color.IsTriple) {position : Nat}
    (present : position < 3) :
    ∃ text, color.written position = .ok text ∧ ∀ c, Foreign c → c ∉ text.toList := by
  have known : color.components[position]? = some _ :=
    List.getElem?_eq_getElem (triple ▸ present)
  refine ⟨_, by rw [written, known], fun c foreign member => ?_⟩
  rw [String.toList_append, List.mem_append] at member
  rcases member with zero | numeral
  · split at zero
    · exact foreign.digit 0 (by decide) (List.mem_singleton.mp zero).symm
    · cases zero
  · exact Numeral.notMem_written (by decide) (by decide) _ foreign.sign foreign.digit numeral

/-- A colour of three components can be written. -/
theorem exists_hex {color : Color} (triple : color.IsTriple) :
    ∃ text, color.hex = .ok text ∧ ∀ c, Foreign c → c ∉ text.toList := by
  obtain ⟨red, first, plainFirst⟩ := exists_written triple (by decide : 0 < 3)
  obtain ⟨green, second, plainSecond⟩ := exists_written triple (by decide : 1 < 3)
  obtain ⟨blue, third, plainThird⟩ := exists_written triple (by decide : 2 < 3)
  refine ⟨"#" ++ red ++ green ++ blue, by rw [hex, first, second, third]; rfl, ?_⟩
  intro c foreign
  simp only [String.toList_append, List.mem_append, not_or]
  refine ⟨⟨⟨?_, plainFirst c foreign⟩, plainSecond c foreign⟩, plainThird c foreign⟩
  exact fun member => foreign.mark (List.mem_singleton.mp member)

/-! ## Mixing -/

theorem InRange.component {color : Color} (inRange : color.InRange) {position : Nat}
    (present : position < 3) :
    ∃ n : Int, 0 ≤ n ∧ n ≤ 255 ∧ color.component position = .ok (.finite n) := by
  obtain ⟨n, known⟩ : ∃ n, color.components[position]? = some n :=
    ⟨_, List.getElem?_eq_getElem (inRange.triple ▸ present)⟩
  obtain ⟨least, most⟩ := inRange.bytes n (List.mem_of_getElem? known)
  have small : n.natAbs < 2 ^ Binary64.precision := by
    rw [Binary64.precision]
    omega
  exact ⟨n, least, most, by rw [Color.component, known]; exact Binary64.ofInt_of_small small⟩

/-- Half of a byte is exact. -/
theorem mul_half {n : Int} (least : 0 ≤ n) (most : n ≤ 255) :
    Binary64.mul (.finite n) Style.half = .finite (.ofIntWithPrec n 1) := by
  have value : (n : Dyadic) * .ofIntWithPrec 1 1 = .ofIntWithPrec n 1 := by
    rw [← Dyadic.toRat_inj, Dyadic.toRat_mul, Dyadic.toRat_intCast,
      Dyadic.toRat_ofIntWithPrec_eq_mul_two_pow, Dyadic.toRat_ofIntWithPrec_eq_mul_two_pow]
    exact congrArg _ (Rat.one_mul _)
  rw [Style.half, Binary64.mul_finite, value]
  refine Binary64.round_ofIntWithPrec ?_ (by decide)
  rw [Binary64.precision]
  omega

/-- Two colours of bytes can be mixed. -/
theorem exists_blend {a b : Color} (first : a.InRange) (second : b.InRange) :
    ∃ color, a.blend b Style.half = .ok color := by
  have mixed : ∀ position < 3, ∃ n, blendAt a b Style.half position = .ok n := by
    intro position present
    obtain ⟨m, leastM, mostM, here⟩ := first.component present
    obtain ⟨n, leastN, mostN, there⟩ := second.component present
    have rest : Binary64.add .one (.neg Style.half) = Style.half := by decide +kernel
    have sum : Binary64.add (.finite (.ofIntWithPrec m 1)) (.finite (.ofIntWithPrec n 1))
        = .finite (.ofIntWithPrec (m + n) 1) := by
      rw [Binary64.add_finite, Binary64.ofIntWithPrec_add]
      refine Binary64.round_ofIntWithPrec ?_ (by decide)
      rw [Binary64.precision]
      omega
    obtain ⟨result, nearest⟩ := Binary64.exists_nearest (.ofIntWithPrec (m + n) 1)
    refine ⟨result, ?_⟩
    rw [blendAt, here, there, rest]
    simp only [bind, Except.bind, mul_half leastM mostM, mul_half leastN mostN, sum, nearest]
  obtain ⟨red, atFirst⟩ := mixed 0 (by decide)
  obtain ⟨green, atSecond⟩ := mixed 1 (by decide)
  obtain ⟨blue, atThird⟩ := mixed 2 (by decide)
  exact ⟨⟨[red, green, blue]⟩, by rw [blend, atFirst, atSecond, atThird]; rfl⟩

end Color

namespace Style

/-- A property of all colours of a style. -/
structure Colored (colored : Color → Prop) (style : Style) : Prop where
  colors : ∀ category color, style.colors category = some color → colored color
  counter : colored style.counter
  cursor : colored style.cursor
  background : colored style.background
  foreground : colored style.foreground

theorem Colored.imp {colored other : Color → Prop} {style : Style} (all : style.Colored colored)
    (weaker : ∀ color, colored color → other color) : style.Colored other where
  colors category color known := weaker color (all.colors category color known)
  counter := weaker _ all.counter
  cursor := weaker _ all.cursor
  background := weaker _ all.background
  foreground := weaker _ all.foreground

theorem colored_default : Style.default.Colored Color.InRange where
  colors category color known := by
    cases category <;> cases known <;> decide
  counter := by decide
  cursor := by decide
  background := by decide
  foreground := by decide

/-- A row has a background if the colours are bytes. -/
theorem exists_rowBackground {style : Style} (inRange : style.Colored Color.InRange)
    (isNext selected : Bool) : ∃ color, style.rowBackground isNext selected = .ok color := by
  cases isNext <;> cases selected
  case true.true => exact Color.exists_blend inRange.counter inRange.cursor
  all_goals exact ⟨_, rfl⟩

/-! ## Updates -/

/-- An update changes nothing else, so it can be undone. -/
theorem withColor_withColor_self (style : Style) (category : Category) (color : Option Color) :
    (style.withColor category color).withColor category (style.colors category) = style := by
  have same : (fun other => if other = category then style.colors category
      else if other = category then color else style.colors other) = style.colors := by
    funext other
    split
    next here => rw [here]
    next => rfl
  rw [withColor, withColor, same]

theorem colors_withColor {category other : Category} (different : other ≠ category)
    (style : Style) (color : Option Color) :
    (style.withColor category color).colors other = style.colors other :=
  if_neg different

theorem colorOf_withColor {category other : Category} (different : other ≠ category)
    (style : Style) (color : Option Color) :
    (style.withColor category color).colorOf other = style.colorOf other := by
  rw [colorOf, colors_withColor different]
  rfl

/-- The last update of a category. -/
def lastUpdate? (category : Category) : List (Category × Option Color) → Option (Option Color)
  | [] => none
  | (other, color) :: updates =>
    (lastUpdate? category updates).or (if category = other then some color else none)

/-- The last update of a category gives its colour, or takes it away. Nothing else changes. -/
theorem withColors_eq (style : Style) (updates : List (Category × Option Color)) :
    style.withColors updates = { style with
      colors := fun category => (lastUpdate? category updates).getD (style.colors category) } := by
  induction updates generalizing style with
  | nil => rfl
  | cons update updates ih =>
      obtain ⟨other, color⟩ := update
      refine (ih (style.withColor other color)).trans ?_
      have same : ∀ category,
          (lastUpdate? category updates).getD ((style.withColor other color).colors category)
            = (lastUpdate? category ((other, color) :: updates)).getD (style.colors category) := by
        intro category
        rw [lastUpdate?]
        cases lastUpdate? category updates with
        | some last => rfl
        | none =>
            simp only [withColor, Option.none_or, Option.getD_none]
            split <;> rfl
      simp only [same]
      rfl

theorem mem_of_lastUpdate? {category : Category} {updates : List (Category × Option Color)}
    {color : Option Color} (last : lastUpdate? category updates = some color) :
    (category, color) ∈ updates := by
  induction updates with
  | nil => cases last
  | cons update updates ih =>
      obtain ⟨other, changed⟩ := update
      rw [lastUpdate?] at last
      cases later : lastUpdate? category updates with
      | some found =>
          rw [later, Option.some_or] at last
          exact List.mem_cons_of_mem _ (ih (later.trans last))
      | none =>
          rw [later, Option.none_or] at last
          split at last
          next same =>
            obtain rfl := Option.some.inj last
            exact same ▸ List.mem_cons_self
          next => cases last

/-- Updates with colours of a kind keep a style to it. -/
theorem Colored.withColors {colored : Color → Prop} {style : Style} (all : style.Colored colored)
    {updates : List (Category × Option Color)}
    (changed : ∀ category color, (category, some color) ∈ updates → colored color) :
    (style.withColors updates).Colored colored := by
  rw [withColors_eq]
  refine ⟨fun category color => ?_, all.counter, all.cursor, all.background, all.foreground⟩
  show (lastUpdate? category updates).getD (style.colors category) = some color → colored color
  cases last : lastUpdate? category updates with
  | none => exact all.colors category color
  | some update =>
      rintro rfl
      exact changed category color (mem_of_lastUpdate? last)

theorem Colored.withColor {colored : Color → Prop} {style : Style} (all : style.Colored colored)
    {category : Category} {color : Option Color}
    (changed : ∀ other, color = some other → colored other) :
    (style.withColor category color).Colored colored := by
  show (style.withColors [(category, color)]).Colored colored
  refine all.withColors fun _ other member => ?_
  obtain ⟨_, rfl⟩ := Prod.mk.inj (List.mem_singleton.mp member)
  exact changed other rfl

end Style

end PcodePanel
