import PcodePanel.Fault

/-!
# Writing integers

Hexadecimal numerals are written at any length. A decimal numeral is written only up to
`Numeral.digitLimit` digits, so every text that shows an integer in decimal may be refused.
-/

namespace PcodePanel.Numeral

/-- The decimal numeral of an integer, if it is short enough. -/
def write (n : Int) : Except Fault String :=
  if Short n then .ok (decimal n) else .error .numeralTooLong

theorem write_of_short {n : Int} (h : Short n) : write n = .ok (decimal n) :=
  if_pos h

theorem write_eq_ok_iff {n : Int} {text : String} :
    write n = .ok text ↔ Short n ∧ text = decimal n := by
  unfold write
  split <;> simp_all [eq_comm]

theorem write_eq_error_iff {n : Int} {fault : Fault} :
    write n = .error fault ↔ ¬ Short n ∧ fault = .numeralTooLong := by
  unfold write
  split <;> simp_all [eq_comm]

end PcodePanel.Numeral
