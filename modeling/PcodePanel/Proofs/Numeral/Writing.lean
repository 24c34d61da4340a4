import PcodePanel.Proofs.Numeral.Reading

/-!
# Numerals that are written

A decimal numeral is a sign and the digits of the magnitude, without zeros in front. It is written
if it has few enough digits, and what is written is read back.

* `Numeral.IsDecimal`, `Numeral.isDecimal_decimal` — what a decimal numeral is;
* `Numeral.writes_write` — what is written, and what is refused.
-/

namespace PcodePanel.Numeral

/-- A text is the decimal numeral of an integer with some digits, the most significant first. They
denote the magnitude, and none but a single digit begins with a zero. A sign stands in front if the
integer is negative. -/
structure IsDecimal (n : Int) (ds : List Nat) (text : String) : Prop where
  text : text.toList = (if n < 0 then ['-'] else []) ++ ds.map Nat.digitChar
  nonempty : ds ≠ []
  below : ∀ d ∈ ds, d < 10
  leading : ds.head? = some 0 → ds = [0]
  denotes : ofDigits 10 ds = n.natAbs

variable {base : Nat}

/-- No numeral of a number above zero begins with a zero. -/
theorem head?_toDigits (large : 1 < base) (shown : base ≤ 16) {n : Nat} (positive : n ≠ 0) :
    (Nat.toDigits base n).head? ≠ some '0' := by
  -- The induction takes off the last digit, which leaves the first alone.
  induction n using Nat.strongRecOn with
  | ind n ih =>
      rw [Nat.toDigits_eq_if large]
      split
      · next small =>
        intro zero
        exact positive (digitChar_inj n (by omega) 0 (by decide) (Option.some.inj zero))
      · next notSmall =>
        have rest : n / base ≠ 0 := Nat.div_ne_zero_iff.mpr ⟨by omega, by omega⟩
        rw [List.head?_append_of_ne_nil _ Nat.toDigits_ne_nil]
        exact ih (n / base) (Nat.div_lt_self (by omega) large) rest

theorem isDecimal_decimal (n : Int) :
    ∃ ds, IsDecimal n ds (decimal n) ∧ (Nat.toDigits 10 n.natAbs).length = ds.length := by
  obtain ⟨ds, nonempty, below, shown, denotes⟩ := exists_digits 10 (by decide) n.natAbs
  refine ⟨ds, ⟨?_, nonempty, below, ?_, denotes⟩, by rw [shown, List.length_map]⟩
  · rw [← shown, ← written_eq]
    rfl
  · intro zero
    by_cases none : n.natAbs = 0
    · rw [none] at shown
      cases ds with
      | nil => cases zero
      | cons d ds =>
          cases zero
          have rest : ds.map Nat.digitChar = [] := (List.cons.inj shown).2.symm
          rw [List.map_eq_nil_iff.mp rest]
    · have first : (ds.map Nat.digitChar).head? = some '0' := by
        rw [List.head?_map, zero]
        rfl
      rw [← shown] at first
      exact absurd first (head?_toDigits (by decide) (by decide) none)

/-- What comes of writing an integer: its decimal numeral, which is read back, or a fault if it has
too many digits. -/
structure Writes (n : Int) (result : Except Fault String) : Prop where
  numeral : ∃ ds text, IsDecimal n ds text
    ∧ (ds.length ≤ digitLimit → result = .ok text)
    ∧ (digitLimit < ds.length → result = .error .numeralTooLong)
  readBack : ∀ text, result = .ok text → read? text.toList = some n

theorem writes_write (n : Int) : Writes n (write n) := by
  obtain ⟨ds, decimal, length⟩ := isDecimal_decimal n
  have short : Short n ↔ ds.length ≤ digitLimit := by
    rw [short_iff_length, length]
  refine ⟨⟨ds, _, decimal, fun few => write_of_short (short.mpr few), fun many => ?_⟩, ?_⟩
  · exact write_eq_error_iff.mpr ⟨mt short.mp (Nat.not_le.mpr many), rfl⟩
  · intro text written
    obtain ⟨few, rfl⟩ := write_eq_ok_iff.mp written
    exact read?_decimal few

end PcodePanel.Numeral
