import Mathlib.Data.List.Basic
import Mathlib.Data.List.Induction
import PcodePanel.Numeral.Read
import PcodePanel.Numeral.Write
import PcodePanel.Proofs.Result

/-!
# Numerals are read back

A numeral is a sign and digits. It belongs to one integer, and reading it gives that integer back.

* `Numeral.written_inj` — a numeral belongs to one integer;
* `Numeral.readDigits_map` — digits are read as the number that they denote;
* `Numeral.read?_decimal`, `Numeral.readLiteral_hex` — decimal and hexadecimal numerals are read
  back;
* `Numeral.short_of_read?` — what is read in decimal can be written.
-/

namespace PcodePanel

-- Powers are those of core, whatever else is in scope.
attribute [local instance (10000)] instPowNat

namespace Numeral

/-! ## Numerals -/

theorem digitChar_inj : ∀ d < 16, ∀ e < 16, Nat.digitChar d = Nat.digitChar e → d = e := by
  decide

variable {base : Nat}

theorem mem_toDigits (large : 1 < base) {n : Nat} {c : Char} (member : c ∈ Nat.toDigits base n) :
    ∃ d < base, c = Nat.digitChar d := by
  induction n using Nat.strongRecOn with
  | ind n ih =>
      rw [Nat.toDigits_eq_if large] at member
      split at member
      · next small => exact ⟨n, small, List.mem_singleton.mp member⟩
      · next notSmall =>
        rcases List.mem_append.mp member with higher | lowest
        · exact ih (n / base) (Nat.div_lt_self (by omega) large) higher
        · exact ⟨n % base, Nat.mod_lt n (by omega), List.mem_singleton.mp lowest⟩

/-- A natural number is known by its digits. -/
theorem toDigits_inj (large : 1 < base) (shown : base ≤ 16) {m n : Nat}
    (same : Nat.toDigits base m = Nat.toDigits base n) : m = n := by
  -- The induction takes off the last digit of both. A number with one digit has no others.
  induction m using Nat.strongRecOn generalizing n with
  | ind m ih =>
      have more : ∀ {k : Nat} {c d : Char}, [c] ≠ Nat.toDigits base k ++ [d] := by
        intro k c d equal
        have length := congrArg List.length equal
        simp [Nat.toDigits_ne_nil] at length
      rw [@Nat.toDigits_eq_if base m large, @Nat.toDigits_eq_if base n large] at same
      by_cases smallM : m < base <;> by_cases smallN : n < base <;>
        simp only [smallM, smallN, if_true, if_false] at same
      · exact digitChar_inj m (by omega) n (by omega) (List.singleton_inj.mp same)
      · exact absurd same more
      · exact absurd same.symm more
      · obtain ⟨higher, lowest⟩ := List.append_inj' same rfl
        have higher := ih (m / base) (Nat.div_lt_self (by omega) large) higher
        have lowest := digitChar_inj _ (Nat.lt_of_lt_of_le (Nat.mod_lt m (by omega)) shown)
          _ (Nat.lt_of_lt_of_le (Nat.mod_lt n (by omega)) shown) (List.singleton_inj.mp lowest)
        rw [← Nat.div_add_mod m base, ← Nat.div_add_mod n base, higher, lowest]

/-- The characters of a numeral. -/
def written (base : Nat) (n : Int) : List Char :=
  (sign n ++ digits base n.natAbs).toList

theorem written_eq (base : Nat) (n : Int) :
    written base n = (if n < 0 then ['-'] else []) ++ Nat.toDigits base n.natAbs := by
  unfold written sign digits
  split <;> simp [String.toList_append, String.toList_ofList]

/-- A numeral has no character but digits and a sign in front. -/
theorem mem_written (large : 1 < base) (shown : base ≤ 16) {n : Int} {c : Char}
    (member : c ∈ written base n) : c = '-' ∨ ∃ d < 16, c = Nat.digitChar d := by
  rw [written_eq] at member
  rcases List.mem_append.mp member with signed | digit
  · split at signed
    · exact .inl (List.mem_singleton.mp signed)
    · cases signed
  · obtain ⟨d, below, same⟩ := mem_toDigits large digit
    exact .inr ⟨d, Nat.lt_of_lt_of_le below shown, same⟩

/-- What is neither a sign nor a digit is not in a numeral. -/
theorem notMem_written (large : 1 < base) (shown : base ≤ 16) (n : Int) {c : Char}
    (unsigned : c ≠ '-') (noDigit : ∀ d < 16, Nat.digitChar d ≠ c) : c ∉ written base n := by
  intro member
  rcases mem_written large shown member with signed | ⟨d, below, same⟩
  · exact unsigned signed
  · exact noDigit d below same.symm

theorem colon_notMem_written (large : 1 < base) (shown : base ≤ 16) (n : Int) :
    ':' ∉ written base n :=
  notMem_written large shown n (by decide) (by decide)

theorem digitChar_ne_minus : ∀ d < 16, Nat.digitChar d ≠ '-' := by
  decide

/-- A numeral belongs to one integer. -/
theorem written_inj (large : 1 < base) (shown : base ≤ 16) {m n : Int}
    (same : written base m = written base n) : m = n := by
  have unsigned : ∀ {k : Nat} {rest : List Char}, '-' :: rest ≠ Nat.toDigits base k := by
    intro k rest equal
    obtain ⟨d, below, digit⟩ := mem_toDigits large (equal ▸ List.mem_cons_self : '-' ∈ _)
    exact digitChar_ne_minus d (by omega) digit.symm
  rw [written_eq, written_eq] at same
  by_cases negativeM : m < 0 <;> by_cases negativeN : n < 0 <;>
    simp only [negativeM, negativeN, if_true, if_false, List.nil_append, List.cons_append] at same
  · have magnitudes := toDigits_inj large shown (List.cons.inj same).2
    omega
  · exact absurd same unsigned
  · exact absurd same.symm unsigned
  · have magnitudes := toDigits_inj large shown same
    omega

/-! ## Reading -/

theorem digitIn?_digitChar : ∀ base ≤ 16, ∀ d < base, digitIn? base (Nat.digitChar d) = some d := by
  decide +kernel

/-- Characters of digits are taken as these digits, to the last. -/
theorem takeDigits_map (shown : base ≤ 16) {ds : List Nat} (below : ∀ d ∈ ds, d < base)
    {expectDigit : Bool} (nonempty : expectDigit = true → ds ≠ []) :
    takeDigits base expectDigit (ds.map Nat.digitChar) = some (ds, []) := by
  induction ds generalizing expectDigit with
  | nil =>
      cases expectDigit with
      | false => rfl
      | true => exact absurd rfl (nonempty rfl)
  | cons d ds ih =>
      obtain ⟨first, rest⟩ := List.forall_mem_cons.mp below
      rw [List.map_cons, takeDigits, digitIn?_digitChar base shown d first,
        ih rest (by simp)]
      rfl

/-- Digits are read as the number that they denote. -/
theorem readDigits_map (shown : base ≤ 16) {ds : List Nat} (nonempty : ds ≠ [])
    (below : ∀ d ∈ ds, d < base) {limited : Bool}
    (short : limited = true → ds.length ≤ digitLimit) :
    readDigits base limited (ds.map Nat.digitChar) = .ok (ofDigits base ds) := by
  have within : (limited && decide (digitLimit < ds.length)) = false := by
    cases limited with
    | false => rfl
    | true => simpa using short rfl
  rw [readDigits, takeDigits_map shown below fun _ => nonempty]
  simp only [within]
  rfl

/-- The digits of a number denote it. -/
theorem exists_digits (base : Nat) (large : 1 < base) (n : Nat) :
    ∃ ds, ds ≠ [] ∧ (∀ d ∈ ds, d < base) ∧ Nat.toDigits base n = ds.map Nat.digitChar
      ∧ ofDigits base ds = n := by
  -- The induction takes off the last digit.
  induction n using Nat.strongRecOn with
  | ind n ih =>
      rw [Nat.toDigits_eq_if large]
      by_cases small : n < base
      · exact ⟨[n], by simp, by simpa using small, by simp [small], by simp [ofDigits]⟩
      · obtain ⟨ds, _, below, shown, denotes⟩ :=
          ih (n / base) (Nat.div_lt_self (by omega) large)
        have last : n % base < base := Nat.mod_lt n (by omega)
        refine ⟨ds ++ [n % base], by simp, ?_, by simp [small, shown], ?_⟩
        · simpa [or_imp, forall_and] using ⟨below, last⟩
        · rw [ofDigits, List.foldl_concat]
          show base * ofDigits base ds + n % base = n
          rw [denotes, Nat.div_add_mod]

/-- No digit is a blank or a sign. -/
theorem isMargin_digitChar : ∀ d < 16, isMargin (Nat.digitChar d) = false
    ∧ Nat.digitChar d ≠ '-' ∧ Nat.digitChar d ≠ '+' ∧ Nat.digitChar d ≠ '_' := by
  decide +kernel

theorem isMargin_of_mem {ds : List Nat} (below : ∀ d ∈ ds, d < 16) {c : Char}
    (member : c ∈ ds.map Nat.digitChar) : isMargin c = false := by
  obtain ⟨d, inside, rfl⟩ := List.mem_map.mp member
  exact (isMargin_digitChar d (below d inside)).1

theorem takeSign_map {ds : List Nat} (below : ∀ d ∈ ds, d < 16) :
    takeSign (ds.map Nat.digitChar) = (false, ds.map Nat.digitChar) := by
  cases ds with
  | nil => rfl
  | cons d ds =>
      obtain ⟨_, noMinus, noPlus, _⟩ := isMargin_digitChar d (below d List.mem_cons_self)
      rw [List.map_cons]
      unfold takeSign
      split
      · next same => exact absurd (List.cons.inj same).1 noMinus
      · next same => exact absurd (List.cons.inj same).1 noPlus
      · rfl

/-- A decimal numeral is read back. -/
theorem read?_decimal {n : Int} (short : Short n) : read? (decimal n).toList = some n := by
  obtain ⟨ds, nonempty, below, shown, denotes⟩ := exists_digits 10 (by decide) n.natAbs
  have numeral : (decimal n).toList = (if n < 0 then ['-'] else []) ++ ds.map Nat.digitChar := by
    rw [← shown, ← written_eq]
    rfl
  have below16 : ∀ d ∈ ds, d < 16 := fun d member => Nat.lt_of_lt_of_le (below d member) (by decide)
  have length : ds.length ≤ digitLimit := by
    simpa [shown] using short_iff_length.mp short
  have digits : readDigits 10 true (ds.map Nat.digitChar) = .ok n.natAbs := by
    rw [readDigits_map (by decide) nonempty below fun _ => length, denotes]
  have inside : ∀ c ∈ (decimal n).toList, isMargin c = false := by
    intro c member
    rw [numeral] at member
    rcases List.mem_append.mp member with sign | digit
    · split at sign
      · rw [List.mem_singleton.mp sign]
        decide
      · cases sign
    · exact isMargin_of_mem below16 digit
  rw [read?, Text.trimWhere_eq_self inside, numeral]
  by_cases negative : n < 0
  · simp only [negative, if_true, List.cons_append, List.nil_append, takeSign, digits, signed]
    congr 1
    omega
  · simp only [negative, if_false, List.nil_append, takeSign_map below16, digits, signed]
    simp
    omega

theorem takeDigits_lt {expectDigit : Bool} {cs rest : List Char} {ds : List Nat}
    (taken : takeDigits base expectDigit cs = some (ds, rest)) : ∀ d ∈ ds, d < base := by
  induction cs generalizing expectDigit ds with
  | nil =>
      unfold takeDigits at taken
      split at taken
      · cases taken
      · cases taken
        exact List.forall_mem_nil _
  | cons c cs ih =>
      unfold takeDigits at taken
      split at taken
      · next d digit =>
        obtain ⟨⟨others, rest⟩, tail, same⟩ := Option.map_eq_some_iff.mp taken
        cases same
        have below : d < base := by
          unfold digitIn? at digit
          exact of_decide_eq_true (Option.filter_eq_some_iff.mp digit).2
        exact List.forall_mem_cons.mpr ⟨below, ih tail⟩
      · split at taken
        · cases taken
        · split at taken
          · exact ih taken
          · cases taken
            exact List.forall_mem_nil _

theorem ofDigits_lt {ds : List Nat} (below : ∀ d ∈ ds, d < base) :
    ofDigits base ds < base ^ ds.length := by
  -- The induction takes off the last digit.
  induction ds using List.reverseRecOn with
  | nil => exact Nat.one_pos
  | append_singleton ds d ih =>
      obtain ⟨others, last⟩ := List.forall_mem_append.mp below
      have last : d < base := last d List.mem_cons_self
      have room := Nat.mul_le_mul_left base (ih others)
      rw [ofDigits, List.foldl_concat, List.length_append, List.length_singleton, Nat.pow_succ']
      show base * ofDigits base ds + d < base * base ^ ds.length
      rw [Nat.mul_succ] at room
      omega

theorem readDigits_lt (positive : 0 < base) {cs : List Char} {n : Nat}
    (read : readDigits base true cs = .ok n) : n < base ^ digitLimit := by
  unfold readDigits at read
  split at read
  · cases read
  · next ds rest taken =>
    split at read
    · cases read
    · next few =>
      have few : ds.length ≤ digitLimit := by simpa using few
      split at read
      · cases read
        exact Nat.lt_of_lt_of_le (ofDigits_lt (takeDigits_lt taken))
          (Nat.pow_le_pow_right positive few)
      · cases read

theorem natAbs_signed (negative : Bool) (magnitude : Nat) :
    (signed negative magnitude).natAbs = magnitude := by
  unfold signed
  split <;> simp

/-- What is read in decimal has few enough digits to be written. -/
theorem short_of_read? {cs : List Char} {n : Int} (read : read? cs = some n) : Short n := by
  unfold read? at read
  dsimp only at read
  split at read
  · next magnitude digits =>
    cases read
    rw [Short, natAbs_signed]
    exact readDigits_lt (by decide) digits
  · cases read

/-- Hexadecimal digits after the prefix are read as the number that they denote. -/
theorem readLiteral_hexDigits {ds : List Nat} (nonempty : ds ≠ []) (below : ∀ d ∈ ds, d < 16) :
    readLiteral ("0x" ++ String.ofList (ds.map Nat.digitChar)) = .ok (ofDigits 16 ds) := by
  have characters : ("0x" ++ String.ofList (ds.map Nat.digitChar)).toList
      = '0' :: 'x' :: ds.map Nat.digitChar := by
    simp [String.toList_append, String.toList_ofList]
  have inside : ∀ c ∈ '0' :: 'x' :: ds.map Nat.digitChar, isMargin c = false := by
    simp only [List.forall_mem_cons]
    exact ⟨by decide, by decide, fun c => isMargin_of_mem below⟩
  have unsigned : takeSign ('0' :: 'x' :: ds.map Nat.digitChar)
      = (false, '0' :: 'x' :: ds.map Nat.digitChar) := rfl
  have magnitude : readMagnitude ('0' :: 'x' :: ds.map Nat.digitChar) = .ok (ofDigits 16 ds) := by
    have zero : Text.digitValue? '0' = some 0 := by decide
    have letter : ('x' :: ds.map Nat.digitChar).head?.bind baseLetter? = some 16 := by
      rw [List.head?_cons]
      decide
    have digits : readDigits 16 false (ds.map Nat.digitChar) = .ok (ofDigits 16 ds) :=
      readDigits_map (by decide) nonempty below (by simp)
    rw [readMagnitude, if_pos zero, letter]
    cases ds with
    | nil => exact absurd rfl nonempty
    | cons d ds =>
        have noUnderscore := (isMargin_digitChar d (below d List.mem_cons_self)).2.2.2
        simp only [List.tail_cons, List.map_cons]
        split
        · next same => exact absurd (List.cons.inj same).1 noUnderscore
        · exact digits
  rw [readLiteral, characters, Text.trimWhere_eq_self inside, unsigned]
  dsimp only
  rw [magnitude]
  rfl

/-- A hexadecimal numeral with its prefix is read back. -/
theorem readLiteral_hex (n : Nat) : readLiteral ("0x" ++ hex n) = .ok n := by
  obtain ⟨ds, nonempty, below, shown, denotes⟩ := exists_digits 16 (by decide) n
  have numeral : hex n = String.ofList (ds.map Nat.digitChar) := by
    rw [hex, digits, Int.natAbs_natCast, shown, sign, if_neg (by omega), String.empty_append]
  rw [numeral, readLiteral_hexDigits nonempty below, denotes]

/-- The two digits of a byte are read back. -/
theorem readLiteral_hexByte (b : UInt8) : readLiteral ("0x" ++ hexByte b) = .ok b.toNat := by
  have small : b.toNat < 256 := b.toNat_lt
  have below : ∀ d ∈ [b.toNat / 16, b.toNat % 16], d < 16 := by
    simp only [List.forall_mem_cons]
    exact ⟨by omega, by omega, List.forall_mem_nil _⟩
  have read := readLiteral_hexDigits (by simp) below
  have denotes : ofDigits 16 [b.toNat / 16, b.toNat % 16] = b.toNat := by
    simp only [ofDigits, List.foldl_cons, List.foldl_nil]
    omega
  rw [denotes] at read
  exact read

end Numeral

end PcodePanel
