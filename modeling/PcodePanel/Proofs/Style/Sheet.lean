import Mathlib.Data.List.Nodup
import PcodePanel.Proofs.Style.Colors
import PcodePanel.Proofs.Style.Markup

/-!
# Style sheets and documents can be read back

A style sheet is a list of rules, one for each category that has a colour. What a rule is written
with has no blank in it, so that the blanks part it again. A document is a style sheet and the
markup of a row, parted by the angle brackets.

* `Html.readSheet?` — a reader of style sheets; `Html.Tells` — rules that tell a style's colours;
* `Html.css_eq`, `Html.readSheet?_rules` — a style sheet is written with such rules and read back as
  them;
* `Html.rules_withColor` — an update changes one rule at most;
* `Html.readPage?`, `Html.readPage?_page` — a document is read back as rules and spans.
-/

namespace PcodePanel.Html

/-! ## Style sheets -/

/-- A rule of a style sheet: a category and the colour that is written for it. -/
abbrev Rule := Category × String

/-- The parts of a rule, between blanks. -/
def parts (rule : Rule) : List (List Char) :=
  ['.' :: rule.1.styleClass.toList, ['\x7b'], "color:".toList ++ rule.2.toList ++ [';'], ['\x7d']]

/-- A style sheet between its blanks, read back as rules: a class behind a point, and a colour
between a colon and a semicolon. -/
def readRules? : List (List Char) → Option (List Rule)
  | name :: _ :: color :: _ :: rest => do
    let category ← Category.ofStyleClass? (String.ofList name.tail)
    return (category, String.ofList (color.drop 6).dropLast) :: (← readRules? rest)
  | [] => some []
  | _ => none

/-- A style sheet read back. A blank stands in front of each rule. -/
def readSheet? (sheet : List Char) : Option (List Rule) :=
  readRules? (sheet.splitOn ' ').tail

/-- What is written for a rule. -/
def ruleText (rule : Rule) : List Char :=
  (parts rule).flatMap fun part => ' ' :: part

/-- Rules tell the colours of a style: there is one for each category that has a colour, and none
else. -/
structure Tells (style : Style) (rules : List Rule) : Prop where
  nodup : (rules.map Prod.fst).Nodup
  mem_iff : ∀ category text, (category, text) ∈ rules ↔
    ∃ color, style.colors category = some color ∧ color.hex = .ok text

/-! ### What is read -/

/-- Separators part what stands between them. -/
theorem splitOn_flatMap {mark : Char} {texts : List (List Char)}
    (plain : ∀ text ∈ texts, mark ∉ text) {before : List Char} (none : mark ∉ before) :
    (before ++ texts.flatMap fun text => mark :: text).splitOn mark = before :: texts := by
  induction texts generalizing before with
  | nil => simpa using List.splitOn_eq_singleton none
  | cons text texts ih =>
      obtain ⟨first, rest⟩ := List.forall_mem_cons.mp plain
      rw [List.flatMap_cons, List.cons_append, List.splitOn_append_cons_self_of_not_mem none,
        ih rest first]

theorem blank_notMem_styleClass (category : Category) : ' ' ∉ category.styleClass.toList := by
  cases category <;> decide

theorem blank_notMem_parts {rule : Rule} (plain : ' ' ∉ rule.2.toList) :
    ∀ part ∈ parts rule, ' ' ∉ part := by
  simp [parts, blank_notMem_styleClass, plain]

theorem readRules?_flatMap (rules : List Rule) : readRules? (rules.flatMap parts) = some rules := by
  induction rules with
  | nil => rfl
  | cons rule rules ih =>
      obtain ⟨category, text⟩ := rule
      rw [List.flatMap_cons, parts, List.cons_append, List.cons_append, List.cons_append,
        List.cons_append, List.nil_append, readRules?, ih]
      simp [Category.ofStyleClass?_styleClass]

theorem readSheet?_flatMap {rules : List Rule} (plain : ∀ rule ∈ rules, ' ' ∉ rule.2.toList) :
    readSheet? (rules.flatMap ruleText) = some rules := by
  have unblanked : ∀ part ∈ rules.flatMap parts, ' ' ∉ part := by
    intro part member
    obtain ⟨rule, known, member⟩ := List.mem_flatMap.mp member
    exact blank_notMem_parts (plain rule known) part member
  have joined : rules.flatMap ruleText = [] ++ (rules.flatMap parts).flatMap (' ' :: ·) := by
    rw [List.nil_append, List.flatMap_assoc]
    rfl
  rw [readSheet?, joined, splitOn_flatMap unblanked List.not_mem_nil, List.tail_cons,
    readRules?_flatMap]

/-! ### What is written -/

/-- The rule for a category, if it has a colour. -/
def ruleOf? (style : Style) (category : Category) : Option Rule := do
  let color ← style.colors category
  return (category, ← color.hex.toOption)

/-- The rules for the categories that have a colour. -/
def rules (style : Style) : List Rule :=
  Category.all.filterMap (ruleOf? style)

variable {style : Style}

theorem ruleOf?_eq_some_iff {category : Category} {rule : Rule} :
    ruleOf? style category = some rule ↔ rule.1 = category
      ∧ ∃ color, style.colors category = some color ∧ color.hex = .ok rule.2 := by
  obtain ⟨name, text⟩ := rule
  simp only [ruleOf?, Option.bind_eq_bind, Option.bind_eq_some_iff, Option.pure_def,
    Option.some.injEq, Prod.mk.injEq, toOption_eq_some_iff]
  constructor
  · rintro ⟨color, known, _, written, rfl, rfl⟩
    exact ⟨rfl, color, known, written⟩
  · rintro ⟨rfl, color, known, written⟩
    exact ⟨color, known, text, written, rfl, rfl⟩

theorem tells_rules (style : Style) : Tells style (rules style) where
  nodup := by
    rw [rules, List.map_filterMap]
    refine List.Nodup.filterMap ?_ (by decide)
    intro first second category here there
    simp only [Option.mem_def, Option.map_eq_some_iff, ruleOf?_eq_some_iff] at here there
    obtain ⟨_, ⟨rfl, _⟩, rfl⟩ := here
    obtain ⟨_, ⟨rfl, _⟩, same⟩ := there
    exact same.symm
  mem_iff category text := by
    rw [rules, List.mem_filterMap]
    simp only [ruleOf?_eq_some_iff]
    constructor
    · rintro ⟨_, _, rfl, told⟩
      exact told
    · exact fun told => ⟨category, category.mem_all, rfl, told⟩

/-- An update changes the rule of no other category. -/
theorem rules_withColor (style : Style) (category : Category) (color : Option Color) :
    (rules (style.withColor category color)).filter (·.1 ≠ category)
      = (rules style).filter (·.1 ≠ category) := by
  rw [rules, rules, List.filter_filterMap, List.filter_filterMap]
  refine List.filterMap_congr fun other _ => ?_
  by_cases same : other = category
  · have left : ∀ style, (ruleOf? style other).filter (·.1 ≠ category) = none := by
      intro style
      simp only [Option.filter_eq_none_iff, ruleOf?_eq_some_iff]
      rintro _ ⟨rfl, _⟩
      simp [same]
    rw [left, left]
  · rw [ruleOf?, ruleOf?, Style.colors_withColor same]

/-- Colours of three components are written without characters that are foreign to them. -/
theorem notMem_rules (triples : style.Colored Color.IsTriple) {rule : Rule}
    (member : rule ∈ rules style) {c : Char} (foreign : Color.Foreign c) : c ∉ rule.2.toList := by
  obtain ⟨color, known, written⟩ := ((tells_rules style).mem_iff rule.1 rule.2).mp member
  obtain ⟨text, same, plain⟩ := Color.exists_hex (triples.colors _ _ known)
  rw [written] at same
  obtain rfl := Except.ok.inj same
  exact plain c foreign

theorem rule?_eq (triples : style.Colored Color.IsTriple) (category : Category) :
    style.rule? category
      = .ok ((ruleOf? style category).map fun rule => String.ofList (ruleText rule)) := by
  rw [Style.rule?]
  cases known : style.colors category with
  | none => simp [ruleOf?, known]
  | some color =>
      obtain ⟨text, written, _⟩ := Color.exists_hex (triples.colors _ _ known)
      have told : ruleOf? style category = some (category, text) :=
        ruleOf?_eq_some_iff.mpr ⟨rfl, color, known, written⟩
      have same : " ." ++ category.styleClass ++ " \x7b color:" ++ text ++ "; \x7d"
          = String.ofList (ruleText (category, text)) := by
        rw [← String.toList_inj]
        simp [ruleText, parts]
      rw [told, Option.map_some, ← same]
      simp only [written]
      rfl

/-- A style of colours with three components has a style sheet, which is read back as its rules. -/
theorem css_eq (triples : style.Colored Color.IsTriple) :
    style.css = .ok (String.ofList ((rules style).flatMap ruleText)) := by
  have each : style.rule? = fun category =>
      pure ((ruleOf? style category).map fun rule => String.ofList (ruleText rule)) :=
    funext (rule?_eq triples)
  have written : (rules style).flatMap ruleText
      = (String.join ((rules style).map fun rule => String.ofList (ruleText rule))).toList := by
    simp [String.toList_join, List.flatMap_map]
  rw [Style.css, each, List.mapM_pure, written, String.ofList_toList, rules, List.map_filterMap]
  simp only [pure_bind, List.filterMap_map]
  rfl

theorem readSheet?_rules (triples : style.Colored Color.IsTriple) :
    readSheet? ((rules style).flatMap ruleText) = some (rules style) :=
  readSheet?_flatMap fun _ member => notMem_rules triples member ⟨by decide, by decide, by decide⟩

/-! ## Documents -/

/-- A document read back. The sheet is in its third tag, the markup of the row between its fifth and
its last. -/
def readPage? (document : String) : Option (List Rule × List Span) :=
  match document.toList.splitOn '<' with
  | _ :: _ :: _ :: sheet :: _ :: _ :: tags =>
    return (← readSheet? (sheet.drop 6), ← readTags? tags.dropLast)
  | _ => none

theorem less_notMem_sheet (triples : style.Colored Color.IsTriple) :
    '<' ∉ (rules style).flatMap ruleText := by
  simp only [List.mem_flatMap, not_exists, not_and]
  intro rule member
  have plain : '<' ∉ rule.2.toList :=
    notMem_rules triples member ⟨by decide, by decide, by decide⟩
  simp [ruleText, parts, notMem_styleClass, plain]

/-- What stands behind the angle brackets of a document. -/
def tags (style : Style) (spans : List Span) : List (List Char) :=
  "html>".toList :: "head>".toList :: ("style>".toList ++ (rules style).flatMap ruleText)
    :: "/style>".toList :: "/head>".toList
    :: (spans.flatMap (fun span => [opening span, closing]) ++ ["/html>".toList])

theorem less_notMem_tags (triples : style.Colored Color.IsTriple) (spans : List Span) :
    ∀ tag ∈ tags style spans, '<' ∉ tag := by
  have spanned : ∀ tag ∈ spans.flatMap fun span => [opening span, closing], '<' ∉ tag := by
    intro tag member
    obtain ⟨span, _, member⟩ := List.mem_flatMap.mp member
    rcases List.mem_pair.mp member with rfl | rfl
    · exact notMem_opening span
    · decide
  have sheet : '<' ∉ "style>".toList ++ (rules style).flatMap ruleText := by
    simp [less_notMem_sheet triples]
  simp only [tags, List.forall_mem_cons, List.forall_mem_append]
  exact ⟨by decide, by decide, sheet, by decide, by decide, spanned, by decide, by simp⟩

theorem toList_document (style : Style) (spans : List Span) :
    ("<html><head><style>" ++ String.ofList ((rules style).flatMap ruleText)
        ++ "</style></head>" ++ body spans ++ "</html>").toList
      = (tags style spans).flatMap fun tag => '<' :: tag := by
  have elements : spans.flatMap element = spans.flatMap fun span =>
      '<' :: (opening span ++ '<' :: closing) :=
    List.flatMap_congr fun _ _ => rfl
  simp [tags, toList_body, elements, List.flatMap_assoc]

/-- **Reading a document.** The document of a row is read back as the rules of its style and the
spans that the row shows. -/
theorem readPage?_page (triples : style.Colored Color.IsTriple) {line : Line} {spans : List Span}
    (shown : line.spans = .ok spans) :
    ∃ document, page line style = .ok document
      ∧ readPage? document = some (rules style, spans) := by
  refine ⟨_, by rw [page, shown, css_eq triples]; rfl, ?_⟩
  have parted := splitOn_flatMap (less_notMem_tags triples spans) List.not_mem_nil
  rw [List.nil_append, ← toList_document] at parted
  rw [readPage?, parted, tags]
  simp [readSheet?_rules triples, readTags?_flatMap]

end PcodePanel.Html
