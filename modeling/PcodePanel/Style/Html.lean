import PcodePanel.Style

/-!
# Rows as HTML

* `Html.span` is the element of a span: its text is escaped, and the blanks of an indentation do
  not break;
* `Html.page` is the document that shows one row.
-/

namespace PcodePanel.Html

/-- How a character is written in a text. -/
def escapeChar (c : Char) : List Char :=
  if c = '&' then "&amp;".toList
  else if c = '<' then "&lt;".toList
  else if c = '>' then "&gt;".toList
  else if c = '"' then "&quot;".toList
  else if c = '\'' then "&#x27;".toList
  else [c]

/-- How a character is written in a span of a category. -/
def spanChar (category : Category) (c : Char) : List Char :=
  if category = .indent ∧ c = ' ' then "&nbsp;".toList else escapeChar c

/-- The text of a span, escaped. -/
def escapeSpan (category : Category) (text : String) : String :=
  String.ofList (text.toList.flatMap (spanChar category))

/-- The element of a span. -/
def span (category : Category) (text : String) : String :=
  "<span class=\"" ++ category.styleClass ++ "\">" ++ escapeSpan category text ++ "</span>"

/-- The elements of the spans of a row, one after the other. -/
def body (spans : List Span) : String :=
  String.join (spans.map fun (category, text) => span category text)

/-- The document that shows a row. -/
def page (line : Line) (style : Style) : Except Fault String := do
  let spans ← line.spans
  let css ← style.css
  return "<html><head><style>" ++ css ++ "</style></head>" ++ body spans ++ "</html>"

end PcodePanel.Html
