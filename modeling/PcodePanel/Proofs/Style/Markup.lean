import PcodePanel.Proofs.Result
import PcodePanel.Style.Html

/-!
# Markup can be read back

Names in a row are arbitrary text and may look like tags or entities. But an escaped text has none
of the characters that mark tags and quotes, and an ampersand in it only begins an entity. So the
markup of a row comes apart again: at the angle brackets, then at the quotes, then entity by entity.

* `Html.Written` — the ways in which a character is written;
* `Html.flatMap_spanChar` — escaping character by character is replacing one special character after
  the other, the ampersand first;
* `Html.read?` — a reader of markup; `Html.read?_body` — it gives back the spans that were shown;
* `Html.markup_faithful` — no text injects markup, and rows with different spans have different
  documents.
-/

namespace PcodePanel.Html

/-! ## Characters -/

/-- The characters that a text is not written with. -/
def marks : List Char :=
  ['<', '>', '"', '\'']

/-- The entities that a text of a category is written with. -/
def entities (category : Category) : List String :=
  ["&amp;", "&lt;", "&gt;", "&quot;", "&#x27;"] ++ if category = .indent then ["&nbsp;"] else []

/-- How a character is written in a span of a category: special characters by an entity each, and so
are the blanks of an indentation. -/
inductive Written (category : Category) : Char → List Char → Prop
  | ampersand : Written category '&' "&amp;".toList
  | less : Written category '<' "&lt;".toList
  | greater : Written category '>' "&gt;".toList
  | quote : Written category '"' "&quot;".toList
  | apostrophe : Written category '\'' "&#x27;".toList
  | blank (indent : category = .indent) : Written category ' ' "&nbsp;".toList
  | plain {c : Char} (ampersand : c ≠ '&') (unmarked : c ∉ marks)
      (blank : category = .indent → c ≠ ' ') : Written category c [c]

variable {category : Category}

theorem written_spanChar (category : Category) (c : Char) :
    Written category c (spanChar category c) := by
  unfold spanChar
  split
  next indented =>
    obtain ⟨indent, rfl⟩ := indented
    exact .blank indent
  next other =>
    unfold escapeChar
    split
    next same => exact same ▸ .ampersand
    split
    next same => exact same ▸ .less
    split
    next same => exact same ▸ .greater
    split
    next same => exact same ▸ .quote
    split
    next same => exact same ▸ .apostrophe
    next ampersand less greater quote apostrophe =>
      exact .plain ampersand (by simp [marks, less, greater, quote, apostrophe])
        fun indent blank => other ⟨indent, blank⟩

/-! ## Escaping, one special character after the other -/

/-- A text with a character replaced wherever it occurs. -/
def replaceAll (special : Char) (entity : String) (text : List Char) : List Char :=
  text.flatMap fun c => if c = special then entity.toList else [c]

theorem replaceAll_of_ne {special c : Char} (other : c ≠ special) (entity : String) :
    replaceAll special entity [c] = [c] := by
  rw [replaceAll, List.flatMap_singleton, if_neg other]

/-- A text with the special characters replaced. The ampersand comes first, since the entities of
the others begin with it. -/
def escapeAll (text : List Char) : List Char :=
  replaceAll '\'' "&#x27;" <| replaceAll '"' "&quot;" <| replaceAll '>' "&gt;" <|
    replaceAll '<' "&lt;" <| replaceAll '&' "&amp;" text

/-- A text with the special characters replaced, and in an indentation then the blanks. -/
def escapeIn (category : Category) (text : List Char) : List Char :=
  if category = .indent then replaceAll ' ' "&nbsp;" (escapeAll text) else escapeAll text

theorem escapeIn_eq_flatMap (category : Category) (text : List Char) :
    escapeIn category text = text.flatMap fun c => escapeIn category [c] := by
  unfold escapeIn
  split <;> simp only [escapeAll, replaceAll, List.flatMap_assoc, List.flatMap_singleton]

theorem Written.eq_escapeIn {c : Char} {written : List Char} (h : Written category c written) :
    written = escapeIn category [c] := by
  unfold escapeIn
  cases h with
  | plain ampersand unmarked blank =>
      simp only [marks, List.mem_cons, List.not_mem_nil, or_false, not_or] at unmarked
      obtain ⟨less, greater, quote, apostrophe⟩ := unmarked
      have kept : escapeAll [c] = [c] := by
        rw [escapeAll, replaceAll_of_ne ampersand, replaceAll_of_ne less, replaceAll_of_ne greater,
          replaceAll_of_ne quote, replaceAll_of_ne apostrophe]
      split
      next indent => rw [kept, replaceAll_of_ne (blank indent)]
      next => exact kept.symm
  | blank indent =>
      rw [if_pos indent]
      decide
  | _ => split <;> decide

/-- Escaping character by character is replacing one special character after the other, the
ampersand first and the blanks of an indentation last. -/
theorem flatMap_spanChar (category : Category) (text : List Char) :
    text.flatMap (spanChar category) = escapeIn category text := by
  rw [escapeIn_eq_flatMap]
  exact List.flatMap_congr fun c _ => (written_spanChar category c).eq_escapeIn

/-! ## What an escaped text holds -/

/-- A text that injects nothing: none of the marks is in it, and an ampersand begins an entity. -/
structure Harmless (category : Category) (text : List Char) : Prop where
  unmarked : ∀ c ∈ text, c ∉ marks
  entity : ∀ before after, text = before ++ '&' :: after →
    ∃ entity ∈ entities category, entity.toList <+: '&' :: after

theorem Written.unmarked {c : Char} {written : List Char} (h : Written category c written) :
    ∀ d ∈ written, d ∉ marks := by
  cases h with
  | plain _ unmarked _ => simpa using unmarked
  | _ => simp [marks]

/-- Only the ampersand that begins an entity is in it. -/
theorem eq_nil_of_split {name before after : List Char} (once : '&' ∉ name)
    (split : '&' :: name = before ++ '&' :: after) : before = [] := by
  cases before with
  | nil => rfl
  | cons c before =>
      injection split with _ split
      exact absurd (by simp [split]) once

/-- Where a character is written with an ampersand, it is written as an entity, which begins with
it. -/
theorem Written.entity {c : Char} {written before after : List Char}
    (h : Written category c written) (split : written = before ++ '&' :: after) :
    before = [] ∧ ∃ entity ∈ entities category, entity.toList = written := by
  cases h with
  | plain ampersand =>
      have member : '&' ∈ [c] := by simp [split]
      exact absurd (List.mem_singleton.mp member).symm ampersand
  | blank indent =>
      exact ⟨eq_nil_of_split (by decide) split, "&nbsp;", by simp [entities, indent], rfl⟩
  | ampersand => exact ⟨eq_nil_of_split (by decide) split, "&amp;", by simp [entities], rfl⟩
  | less => exact ⟨eq_nil_of_split (by decide) split, "&lt;", by simp [entities], rfl⟩
  | greater => exact ⟨eq_nil_of_split (by decide) split, "&gt;", by simp [entities], rfl⟩
  | quote => exact ⟨eq_nil_of_split (by decide) split, "&quot;", by simp [entities], rfl⟩
  | apostrophe => exact ⟨eq_nil_of_split (by decide) split, "&#x27;", by simp [entities], rfl⟩

/-- **Escaped texts.** Whatever a text holds, nothing of it is a mark once it is escaped, and every
ampersand begins an entity. -/
theorem harmless_escapeIn (category : Category) (text : List Char) :
    Harmless category (escapeIn category text) := by
  rw [← flatMap_spanChar]
  constructor
  · intro c member
    obtain ⟨d, _, member⟩ := List.mem_flatMap.mp member
    exact (written_spanChar category d).unmarked c member
  · induction text with
    | nil =>
        intro before after split
        simp at split
    | cons c text ih =>
        intro before after split
        rw [List.flatMap_cons] at split
        -- The ampersand is among the characters of the first one, or further back.
        rcases List.append_eq_append_iff.mp split with ⟨further, _, later⟩ | ⟨rest, here, there⟩
        · exact ih further after later
        · cases rest with
          | nil => exact ih [] after there.symm
          | cons d rest =>
              injection there with same there
              subst same
              obtain ⟨rfl, entity, known, same⟩ := (written_spanChar category c).entity here
              refine ⟨entity, known, ?_⟩
              rw [same, here, there]
              exact ⟨_, rfl⟩

/-! ## Reading markup -/

/-- An escaped text read back: each entity is the character that it stands for. -/
def unescape : List Char → List Char
  | '&' :: 'a' :: 'm' :: 'p' :: ';' :: rest => '&' :: unescape rest
  | '&' :: 'l' :: 't' :: ';' :: rest => '<' :: unescape rest
  | '&' :: 'g' :: 't' :: ';' :: rest => '>' :: unescape rest
  | '&' :: 'q' :: 'u' :: 'o' :: 't' :: ';' :: rest => '"' :: unescape rest
  | '&' :: '#' :: 'x' :: '2' :: '7' :: ';' :: rest => '\'' :: unescape rest
  | '&' :: 'n' :: 'b' :: 's' :: 'p' :: ';' :: rest => ' ' :: unescape rest
  | c :: rest => c :: unescape rest
  | [] => []

theorem unescape_cons {c : Char} (ampersand : c ≠ '&') (rest : List Char) :
    unescape (c :: rest) = c :: unescape rest := by
  rw [unescape] <;> simp [ampersand]

theorem Written.unescape {c : Char} {written : List Char} (h : Written category c written)
    (rest : List Char) : unescape (written ++ rest) = c :: Html.unescape rest := by
  cases h with
  | plain ampersand => exact unescape_cons ampersand rest
  | _ => rfl

theorem unescape_escapeIn (category : Category) (text : List Char) :
    unescape (escapeIn category text) = text := by
  rw [← flatMap_spanChar]
  induction text with
  | nil => rfl
  | cons c text ih => rw [List.flatMap_cons, (written_spanChar category c).unescape, ih]

/-- An opening tag with the text after it, read back. It has three parts, with quotes between them:
the category's class is the second, and the text follows a bracket in the third. -/
def readSpan? (opening : List Char) : Option Span :=
  match opening.splitOn '"' with
  | [_, name, text] =>
    (Category.ofStyleClass? (String.ofList name)).map (·, String.ofList (unescape text.tail))
  | _ => none

/-- Opening and closing tags in turn, read back. -/
def readTags? : List (List Char) → Option (List Span)
  | opening :: _ :: tags => return (← readSpan? opening) :: (← readTags? tags)
  | [] => some []
  | [_] => none

/-- Markup read back. Each angle bracket that opens begins a tag. -/
def read? (markup : String) : Option (List Span) :=
  readTags? (markup.toList.splitOn '<').tail

/-! ### What is read -/

theorem splitOn_append_cons {mark : Char} {before : List Char} (none : mark ∉ before)
    (after : List Char) :
    (before ++ mark :: after).splitOn mark = before :: after.splitOn mark := by
  refine List.splitOnP_append_cons_of_forall_mem (p := (· == mark)) ?_ mark (beq_self_eq_true mark)
    after
  intro c member
  exact beq_false_of_ne fun same => none (same ▸ member)

/-- What an opening tag begins with. -/
def start : List Char :=
  ['s', 'p', 'a', 'n', ' ', 'c', 'l', 'a', 's', 's', '=']

/-- What stands between the angle brackets of a span's two tags. -/
def opening (span : Span) : List Char :=
  start ++ '"' :: (span.1.styleClass.toList
    ++ '"' :: '>' :: escapeIn span.1 span.2.toList)

/-- What stands behind the angle bracket of a closing tag. -/
def closing : List Char :=
  ['/', 's', 'p', 'a', 'n', '>']

/-- What is written for a span. -/
def element (span : Span) : List Char :=
  '<' :: opening span ++ '<' :: closing

theorem toList_escapeSpan (category : Category) (text : String) :
    (escapeSpan category text).toList = escapeIn category text.toList := by
  rw [escapeSpan, String.toList_ofList, flatMap_spanChar]

theorem toList_span (category : Category) (text : String) :
    (span category text).toList = element (category, text) := by
  rw [element, opening, ← toList_escapeSpan]
  unfold span
  generalize escapeSpan category text = inner
  simp only [String.toList_append]
  show '<' :: start ++ ['"'] ++ category.styleClass.toList ++ ['"', '>'] ++ inner.toList
    ++ '<' :: closing = _
  simp only [List.append_assoc, List.cons_append, List.nil_append]

theorem toList_body (spans : List Span) : (body spans).toList = spans.flatMap element := by
  simp only [body, String.toList_join, List.flatMap_map, toList_span]

theorem notMem_styleClass (category : Category) :
    '<' ∉ category.styleClass.toList ∧ '"' ∉ category.styleClass.toList := by
  cases category <;> decide

theorem readSpan?_opening (span : Span) : readSpan? (opening span) = some span := by
  obtain ⟨category, text⟩ := span
  have unmarked := (harmless_escapeIn category text.toList).unmarked
  have noQuote : '"' ∉ '>' :: escapeIn category text.toList := by
    rw [List.mem_cons, not_or]
    exact ⟨by decide, fun member => unmarked _ member (by decide)⟩
  have parts : (opening (category, text)).splitOn '"'
      = [start, category.styleClass.toList,
        '>' :: escapeIn category text.toList] := by
    rw [opening, splitOn_append_cons (by decide),
      splitOn_append_cons (notMem_styleClass category).2, List.splitOn_eq_singleton noQuote]
  rw [readSpan?, parts]
  simp [Category.ofStyleClass?_styleClass, unescape_escapeIn]

theorem notMem_opening (span : Span) : '<' ∉ opening span := by
  have unmarked := (harmless_escapeIn span.1 span.2.toList).unmarked '<'
  have none := (notMem_styleClass span.1).1
  simp only [opening, List.mem_append, List.mem_cons, not_or]
  refine ⟨by decide, by decide, none, by decide, by decide, fun member => ?_⟩
  exact unmarked member (by decide)

/-- The angle brackets of a row's markup part its tags. -/
theorem splitOn_body (spans : List Span) {before : List Char} (none : '<' ∉ before) :
    (before ++ (body spans).toList).splitOn '<'
      = before :: spans.flatMap fun span => [opening span, closing] := by
  rw [toList_body]
  -- The induction is on the spans. What stands before them is a closing tag from the second one on.
  induction spans generalizing before with
  | nil => simpa using List.splitOn_eq_singleton none
  | cons span spans ih =>
      have tags : before ++ (span :: spans).flatMap element
          = before ++ '<' :: (opening span ++ '<' :: (closing ++ spans.flatMap element)) := by
        simp [element]
      rw [tags, splitOn_append_cons none, splitOn_append_cons (notMem_opening span),
        ih (by decide : '<' ∉ closing)]
      simp

theorem readTags?_flatMap (spans : List Span) :
    readTags? (spans.flatMap fun span => [opening span, closing]) = some spans := by
  induction spans with
  | nil => rfl
  | cons span spans ih => simp [readTags?, readSpan?_opening, ih]

/-- **Reading back.** The markup of a row is read back as the spans that it shows, whatever their
texts look like. -/
theorem read?_body (spans : List Span) : read? (body spans) = some spans := by
  rw [read?, ← List.nil_append (body spans).toList, splitOn_body spans List.not_mem_nil,
    List.tail_cons, readTags?_flatMap]

/-! ## Documents -/

theorem page_eq_ok {line : Line} {style : Style} {document : String}
    (made : page line style = .ok document) :
    ∃ spans css, line.spans = .ok spans ∧ style.css = .ok css ∧ document =
      "<html><head><style>" ++ css ++ "</style></head>" ++ body spans ++ "</html>" := by
  obtain ⟨spans, shown, made⟩ := bind_eq_ok_iff.mp made
  obtain ⟨css, written, made⟩ := bind_eq_ok_iff.mp made
  injection made with made
  exact ⟨spans, css, shown, written, made.symm⟩

/-- Documents in one style are the same only if the rows have the same spans. -/
theorem spans_of_page {style : Style} {line other : Line} {document : String}
    (first : page line style = .ok document) (second : page other style = .ok document) :
    line.spans = other.spans := by
  obtain ⟨spans, css, shown, written, rfl⟩ := page_eq_ok first
  obtain ⟨spans', css', shown', written', same⟩ := page_eq_ok second
  rw [written] at written'
  injection written' with written'
  subst written'
  have bodies : body spans = body spans' := by
    have same := congrArg String.toList same
    simp only [String.toList_append] at same
    exact String.toList_inj.mp (List.append_cancel_left (List.append_cancel_right same))
  have read := congrArg read? bodies
  rw [read?_body, read?_body] at read
  injection read with read
  rw [shown, shown', read]

/-- **Markup injects nothing and loses nothing.** The element of a span is its two tags around the
text with the special characters replaced, which holds no mark and no ampersand but those of
entities. So different spans have different elements, a row's markup is read back as its spans, and
rows that have one document in one style have the same spans. -/
theorem markup_faithful :
    (∀ category text, ∃ inner,
        span category text = "<span class=\"" ++ category.styleClass ++ "\">" ++ inner ++ "</span>"
          ∧ inner.toList = escapeIn category text.toList ∧ Harmless category inner.toList)
      ∧ Function.Injective (fun shown : Span => span shown.1 shown.2)
      ∧ (∀ spans, read? (body spans) = some spans)
      ∧ ∀ style line other document, page line style = .ok document →
        page other style = .ok document → line.spans = other.spans := by
  refine ⟨?_, ?_, read?_body, fun _ _ _ _ => spans_of_page⟩
  · intro category text
    have inner := toList_escapeSpan category text
    exact ⟨_, rfl, inner, inner ▸ harmless_escapeIn category text.toList⟩
  · intro shown other same
    have read : read? (body [shown]) = read? (body [other]) :=
      congrArg (fun written => read? (String.join [written])) same
    rw [read?_body, read?_body] at read
    injection read with read
    injection read

example : span .indent " &nbsp;" = "<span class=\"indent\">&nbsp;&amp;nbsp;</span>" := by
  decide +kernel

/-- Tokens that look like a tag, like an entity and like nothing. -/
def Sample.tokens : List Token :=
  [.of .indent "  ", .of .register "</span><b>", .of .separator "", .of .raw "&nbsp;'\""]

/-- A row of an operation and one of a label have one document if they have the same tokens. -/
theorem markup_faithful_sameTokens :
    let operation : Line := .row (.op 0 ⟨1, none, [], ⟨0, 0⟩⟩ true Sample.tokens)
    let label : Line := .row (.label 3 Sample.tokens)
    operation ≠ label ∧ ∃ document, page operation .default = .ok document
      ∧ page label .default = .ok document ∧ operation.spans = label.spans := by
  intro operation label
  have same : page operation .default = page label .default := rfl
  have succeeds : (page operation .default).isOk = true := by decide +kernel
  refine ⟨by decide, ?_⟩
  cases made : page operation .default with
  | error fault =>
      rw [made] at succeeds
      cases succeeds
  | ok document =>
      rw [made] at same
      exact ⟨document, rfl, same.symm,
        markup_faithful.2.2.2 .default operation label document made same.symm⟩

end PcodePanel.Html
