/-!
# Blank characters

A text field is read without the blanks around it. The blanks are the white space of Unicode 14
together with the four information separators U+001C to U+001F; zero-width characters are not
blank.

* `Text.trim` drops the blanks at both ends, and none inside.
-/

namespace PcodePanel.Text

/-- Whether a code point lies in one of the closed ranges of a table. -/
def inRanges (ranges : List (Nat × Nat)) (code : Nat) : Bool :=
  ranges.any fun range => range.1 ≤ code && code ≤ range.2

/-- The blank code points, as ascending closed ranges. -/
def blankRanges : List (Nat × Nat) :=
  [(0x09, 0x0D), (0x1C, 0x20), (0x85, 0x85), (0xA0, 0xA0), (0x1680, 0x1680), (0x2000, 0x200A),
   (0x2028, 0x2029), (0x202F, 0x202F), (0x205F, 0x205F), (0x3000, 0x3000)]

/-- A character that does not count at the ends of a text field. -/
def isBlank (c : Char) : Bool :=
  inRanges blankRanges c.toNat

/-- Drops the characters with property `p` at both ends. -/
def trimWhere (p : Char → Bool) (cs : List Char) : List Char :=
  ((cs.dropWhile p).reverse.dropWhile p).reverse

/-- Drops the blanks at both ends. -/
def trim (cs : List Char) : List Char :=
  trimWhere isBlank cs

/-- Every character that the core library calls white space is blank. -/
theorem isBlank_of_isWhitespace {c : Char} (h : c.isWhitespace = true) : isBlank c = true := by
  simp [Char.isWhitespace] at h
  rcases h with ((h | h) | h) | h <;> subst h <;> decide

/-- What stands around a text that neither begins nor ends with a character of the class is dropped,
if it is all of the class. -/
theorem trimWhere_append {p : Char → Bool} {before cs after : List Char}
    (blankBefore : ∀ c ∈ before, p c = true) (blankAfter : ∀ c ∈ after, p c = true)
    (first : ∀ c ∈ cs.head?, p c = false) (last : ∀ c ∈ cs.getLast?, p c = false) :
    trimWhere p (before ++ cs ++ after) = cs := by
  have drop : ∀ front ds : List Char, (∀ c ∈ front, p c = true) → (∀ c ∈ ds.head?, p c = false) →
      (front ++ ds).dropWhile p = ds := by
    intro front ds blank here
    rw [List.dropWhile_append_of_pos blank]
    cases ds with
    | nil => rfl
    | cons d ds => simp [here d (by simp)]
  rw [trimWhere, List.append_assoc, List.dropWhile_append_of_pos blankBefore]
  cases cs with
  | nil =>
      have none := drop after [] blankAfter (by simp)
      rw [List.append_nil] at none
      rw [List.nil_append, none]
      rfl
  | cons c cs =>
      have ahead := drop [] (c :: cs ++ after) (by simp) first
      have behind := drop after.reverse (c :: cs).reverse (by simpa using blankAfter)
        (List.head?_reverse ▸ last)
      rw [List.nil_append] at ahead
      rw [ahead, List.reverse_append, behind, List.reverse_reverse]

/-- A text without characters of the class is left alone. -/
theorem trimWhere_eq_self {p : Char → Bool} {cs : List Char} (outside : ∀ c ∈ cs, p c = false) :
    trimWhere p cs = cs := by
  have bare : ∀ c ∈ ([] : List Char), p c = true := by simp
  have trimmed := trimWhere_append bare bare
    (fun c first => outside c (List.mem_of_mem_head? first))
    fun c last => outside c (List.mem_of_mem_getLast? last)
  simpa using trimmed

end PcodePanel.Text
