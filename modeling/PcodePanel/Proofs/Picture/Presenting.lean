import PcodePanel.Proofs.Picture.Drawing
import PcodePanel.Proofs.Style.Sheet

/-!
# The presentations of a row agree

A row is shown as a text, as a document and in a picture. Each goes through the spans of the row on
its own, and the colours are told twice: by the rules of the style sheet and by the fills of the
picture.

* `Row.text_eq` — the text of a row is that of its spans;
* `Picture.Follows`, `Picture.Presents` — a picture with the colours of a style sheet;
* `Picture.presentations_agree` — all three show the same texts in the same colours, after whatever
  updates of the style.
-/

namespace PcodePanel

-- Powers are those of core, whatever else is in scope.
attribute [local instance (10000)] instPowNat

/-- The text of a row is that of its spans. -/
theorem Row.text_eq (row : Row) :
    row.text = do return String.join ((← row.spans).map Prod.snd) := by
  cases row with
  | op index op isNext tokens =>
      simp only [Row.text, Row.spans, Token.textOf, bind, Except.bind, List.map_map]
      rfl
  | label index tokens =>
      simp only [Row.text, Row.spans, Token.textOf, bind, Except.bind, List.map_map]
      rfl
  | _ => rfl

/-- A drawn text with its colour. -/
def DrawCommand.label? : DrawCommand → Option (String × Color)
  | text _ _ content color _ => some (content, color)
  | rectangle .. => none

namespace Picture

variable {layout : Layout} {width top : Int} {selected : Option Int} {lines : List Line}
  {picture : Picture} {header : Option String} {style : Style} {rules : List Html.Rule}

/-! ## Colours -/

/-- The colour of a category is the one that rules tell, or else the foreground. -/
structure Follows (rules : List Html.Rule) (foreground : Color) (category : Category)
    (color : Color) : Prop where
  told : ∀ text, (category, text) ∈ rules → color.hex = .ok text
  untold : (∀ text, (category, text) ∉ rules) → color = foreground

theorem follows_colorOf (triples : style.Colored Color.IsTriple) (tells : Html.Tells style rules)
    (category : Category) : Follows rules style.foreground category (style.colorOf category) := by
  cases known : style.colors category with
  | none =>
      have plain : style.colorOf category = style.foreground := by
        rw [Style.colorOf, known, Option.getD_none]
      refine ⟨fun text member => ?_, fun _ => plain⟩
      obtain ⟨color, given, _⟩ := (tells.mem_iff category text).mp member
      rw [known] at given
      cases given
  | some color =>
      have own : style.colorOf category = color := by
        rw [Style.colorOf, known, Option.getD_some]
      refine ⟨fun text member => ?_, fun untold => ?_⟩
      · obtain ⟨_, given, written⟩ := (tells.mem_iff category text).mp member
        rw [known] at given
        obtain rfl := Option.some.inj given
        rw [own, written]
      · obtain ⟨text, written, _⟩ := Color.exists_hex (triples.colors category color known)
        exact absurd ((tells.mem_iff category text).mpr ⟨color, known, written⟩) (untold text)

/-! ## Pictures -/

theorem labels_drawSpans (x : Binary64) (spans : List Span) :
    (layout.drawSpans top x spans).filterMap DrawCommand.label?
      = spans.map fun span => (span.2, layout.style.colorOf span.1) := by
  induction spans generalizing x with
  | nil => rfl
  | cons span spans ih => exact congrArg _ (ih _)

/-- What is drawn for a line shows its texts in order, in the colours of rules. -/
inductive Presents (rules : List Html.Rule) (foreground : Color) :
    Line → List DrawCommand → Prop
  | row {row : Row} {spans : List Span} {block : List DrawCommand} (known : row.spans = .ok spans)
      (labels : List.Forall₂
        (fun span label => label.1 = span.2 ∧ Follows rules foreground span.1 label.2)
        spans (block.filterMap DrawCommand.label?)) :
      Presents rules foreground (.row row) block
  | text {content : String} {block : List DrawCommand}
      (label : block.filterMap DrawCommand.label? = [(content, foreground)]) :
      Presents rules foreground (.text content) block

theorem presents_of_drawLine
    (follows : ∀ category,
      Follows rules layout.style.foreground category (layout.style.colorOf category))
    {line : Line} {block : List DrawCommand}
    (made : layout.drawLine width selected top line = .ok block) :
    Presents rules layout.style.foreground line block := by
  cases line with
  | row row =>
      obtain ⟨color, x, spans, _, _, known, rfl⟩ := drawLine_row_eq_ok_iff.mp made
      refine .row known ?_
      show List.Forall₂ _ spans ((layout.drawSpans top x spans).filterMap DrawCommand.label?)
      rw [labels_drawSpans, List.forall₂_map_right_iff]
      exact List.forall₂_same.mpr fun span _ => ⟨rfl, follows span.1⟩
  | text content =>
      obtain rfl := Except.ok.inj made
      exact .text rfl
  | absent => cases made

theorem presents_of_render
    (follows : ∀ category,
      Follows rules layout.style.foreground category (layout.style.colorOf category))
    (made : render layout lines selected header = .ok picture) :
    ∃ blocks, picture.commands = blocks.flatten
      ∧ List.Forall₂ (Presents rules layout.style.foreground) (shown header lines) blocks := by
  obtain ⟨width, blocks, _, stacked, rfl⟩ := render_eq_ok_iff.mp made
  refine ⟨blocks, rfl, List.forall₂_iff_get.mpr ⟨stacked.length.symm, fun i here there => ?_⟩⟩
  exact presents_of_drawLine follows
    (stacked.drawn i _ _ (List.getElem?_eq_getElem here) (List.getElem?_eq_getElem there))

/-! ## All presentations -/

/-- The presentations in a style agree. Its sheet tells rules, at most one for a category; a
document tells the same rules and the spans of its row; and a picture shows the same texts in the
colours of these rules. A row that has no spans is refused everywhere, and a picture is made unless
a length, the padding or a background is none. -/
structure Agrees (style : Style) (rules : List Html.Rule) : Prop where
  sheet : ∃ sheet, style.css = .ok sheet ∧ Html.readSheet? sheet.toList = some rules
  single : (rules.map Prod.fst).Nodup
  page : ∀ row : Row, (Html.page (.row row) style).map Html.readPage?
    = row.spans.map fun spans => some (rules, spans)
  picture : ∀ layout lines selected header picture, layout.style = style →
    render layout lines selected header = .ok picture → ∃ blocks, picture.commands = blocks.flatten
      ∧ List.Forall₂ (Presents rules style.foreground) (shown header lines) blocks
  made : ∀ layout lines selected header, layout.style = style →
    ((∃ picture, render layout lines selected header = .ok picture)
      ↔ (∀ line ∈ shown header lines, ∃ n, layout.lineWidth line = .ok n)
        ∧ ∀ line ∈ lines, Drawable layout selected line)

theorem agrees (triples : style.Colored Color.IsTriple) : Agrees style (Html.rules style) where
  sheet := ⟨_, Html.css_eq triples, by
    rw [String.toList_ofList]
    exact Html.readSheet?_rules triples⟩
  single := (Html.tells_rules style).nodup
  page row := by
    cases known : row.spans with
    | error fault =>
        show (row.spans >>= _).map _ = _
        rw [known]
        rfl
    | ok spans =>
        have shown : (Line.row row).spans = .ok spans := known
        obtain ⟨document, made, read⟩ := Html.readPage?_page triples shown
        rw [made]
        exact congrArg Except.ok read
  picture layout lines selected header picture same made := by
    subst same
    exact presents_of_render (follows_colorOf triples (Html.tells_rules _)) made
  made layout lines selected header _ := by
    rw [exists_render_iff, exists_width_iff]

/-- **The presentations agree.** The text of a row is that of its spans. In a style of colours with
three components, after any updates with such colours, documents and pictures show the spans of rows
in the colours that the style sheet tells. The style comes from the last update of each category,
and one more update changes the rule and the colour of its own category only. -/
theorem presentations_agree {base : Style} (triples : base.Colored Color.IsTriple)
    {updates : List (Category × Option Color)}
    (changed : ∀ category color, (category, some color) ∈ updates → color.IsTriple) :
    (∀ row : Row, row.text = do return String.join ((← row.spans).map Prod.snd))
      ∧ ∃ rules, Agrees (base.withColors updates) rules
        ∧ (∀ others,
          (∀ category, Style.lastUpdate? category others = Style.lastUpdate? category updates) →
            base.withColors others = base.withColors updates)
        ∧ ∀ category color, (∀ triple, color = some triple → triple.IsTriple) →
          let next := (base.withColors updates).withColor category color
          (∃ rules', Agrees next rules'
              ∧ rules'.filter (·.1 ≠ category) = rules.filter (·.1 ≠ category))
            ∧ (∀ other, other ≠ category →
              next.colorOf other = (base.withColors updates).colorOf other)
            ∧ next.withColor category ((base.withColors updates).colors category)
              = base.withColors updates := by
  have colored := triples.withColors changed
  refine ⟨Row.text_eq, _, agrees colored, fun others same => ?_, fun category color triple => ?_⟩
  · simp only [Style.withColors_eq, same]
  · refine ⟨⟨_, agrees (colored.withColor triple), Html.rules_withColor _ _ _⟩, ?_,
      Style.withColor_withColor_self _ _ _⟩
    exact fun other different => Style.colorOf_withColor different _ _

/-- Updates of two categories, in turns. -/
def Sample.updates : List (Category × Option Color) :=
  [(.register, some ⟨[255, 0, 0]⟩), (.indent, some ⟨[1, 2, 3]⟩), (.register, none)]

theorem Sample.colored_updates (category : Category) (color : Color)
    (member : (category, some color) ∈ Sample.updates) : color.IsTriple := by
  simp only [Sample.updates, List.mem_cons, Prod.mk.injEq, List.not_mem_nil, or_false,
    reduceCtorEq, and_false, Option.some.injEq] at member
  rcases member with ⟨_, rfl⟩ | ⟨_, rfl⟩ <;> rfl

/-- The usual style after these updates. -/
theorem presentations_agree_updated : Style.default.Colored Color.IsTriple
    ∧ (∀ category color, (category, some color) ∈ Sample.updates → color.IsTriple)
    ∧ ∃ rules, Agrees (Style.default.withColors Sample.updates) rules
      ∧ Style.default.withColors
          [(.register, none), (.indent, none), (.indent, some ⟨[1, 2, 3]⟩)]
        = Style.default.withColors Sample.updates := by
  have triples := Style.colored_default.imp fun _ inRange => inRange.triple
  obtain ⟨_, rules, agree, last, _⟩ := presentations_agree triples Sample.colored_updates
  refine ⟨triples, Sample.colored_updates, rules, agree, last _ fun category => ?_⟩
  cases category <;> decide

/-- A style with a counter that no binary64 number is near to. -/
def Sample.blinding : Style :=
  { Style.default with counter := ⟨[2 ^ (1024 : Nat), 0, 0]⟩ }

/-- The next operation. -/
def Sample.operation : Row :=
  .op 0 ⟨1, none, [], ⟨0, 0⟩⟩ true [.of .mnemonic "COPY"]

/-- In that style the next operation has a text and a document. But when it is selected, its
background cannot be mixed, and there is no picture of it. -/
theorem disagree_blinding : Sample.blinding.Colored Color.IsTriple
    ∧ Sample.operation.text = .ok "COPY"
    ∧ (Html.page (.row Sample.operation) Sample.blinding).isOk = true
    ∧ render { style := Sample.blinding, ruler := .ofWidths fun _ => .one } [.row Sample.operation]
        (some 0) none = .error .integerTooLarge := by
  have triples := Style.colored_default.imp fun _ inRange => inRange.triple
  refine ⟨⟨triples.colors, rfl, rfl, rfl, rfl⟩, by decide +kernel, by decide +kernel, ?_⟩
  decide +kernel

end Picture

end PcodePanel
