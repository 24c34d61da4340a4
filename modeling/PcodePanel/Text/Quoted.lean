import PcodePanel.Text.Printable

/-!
# Quoted texts

How a text is quoted in a message. The quote is `'`, or `"` for a text that holds `'` and no `"`.
Inside, the quote and the backslash are written after a backslash, three controls have letters,
and what is not printable is written by its code point with two, four or eight hexadecimal digits.
-/

namespace PcodePanel.Text

-- Powers are those of core, whatever else is in scope.
attribute [local instance (10000)] instPowNat

/-- The last `width` hexadecimal digits of a code point, in lower case. -/
def hexDigits (width code : Nat) : List Char :=
  (List.range width).reverse.map fun place => Nat.digitChar (code / 16 ^ place % 16)

/-- How a character is written between quotes of the given kind. -/
def quotedChar (quote c : Char) : List Char :=
  if c = quote ∨ c = '\\' then ['\\', c]
  else if c = '\n' then ['\\', 'n']
  else if c = '\r' then ['\\', 'r']
  else if c = '\t' then ['\\', 't']
  else if isPrintable c then [c]
  else if c.toNat < 0x100 then '\\' :: 'x' :: hexDigits 2 c.toNat
  else if c.toNat < 0x10000 then '\\' :: 'u' :: hexDigits 4 c.toNat
  else '\\' :: 'U' :: hexDigits 8 c.toNat

/-- The quote that a text is written in: double only if that saves escapes. -/
def quoteMark (cs : List Char) : Char :=
  if '\'' ∈ cs ∧ '"' ∉ cs then '"' else '\''

/-- A text in quotes. -/
def quoted (text : String) : String :=
  let cs := text.toList
  let mark := quoteMark cs
  String.ofList (mark :: cs.flatMap (quotedChar mark) ++ [mark])

end PcodePanel.Text
