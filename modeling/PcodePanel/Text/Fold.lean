/-!
# Case folding into ASCII

Flags are compared without regard to case. Only comparisons with ASCII words are made, so folding
need only be right where a character folds to ASCII letters: the capital letters, and the few
letters and ligatures beyond ASCII that Unicode folds to ASCII. Any other character stays as it
is, and like its full folding it then equals no ASCII letter.
-/

namespace PcodePanel.Text

/-- The characters beyond ASCII that fold to ASCII letters, with their foldings. -/
def asciiFoldings : List (Char × String) :=
  [('ß', "ss"), ('ſ', "s"), ('ẞ', "ss"), ('\u212a', "k"), ('\ufb00', "ff"), ('\ufb01', "fi"),
   ('\ufb02', "fl"), ('\ufb03', "ffi"), ('\ufb04', "ffl"), ('\ufb05', "st"), ('\ufb06', "st")]

/-- The folding of one character. -/
def foldChar (c : Char) : List Char :=
  match asciiFoldings.lookup c with
  | some folded => folded.toList
  | none => [c.toLower]

/-- The folding of a text, for comparison with ASCII words. -/
def fold (cs : List Char) : List Char :=
  cs.flatMap foldChar

end PcodePanel.Text
