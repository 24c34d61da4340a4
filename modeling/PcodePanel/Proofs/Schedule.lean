import PcodePanel.Proofs.Numeral.Reading
import PcodePanel.Schedule

/-!
# Schedules are read back

The text of a schedule leaves out parts that are zero at its end, and a part that is left out is
read as zero. No numeral holds a character that separates parts, so the parts are found again.

* `Schedule.text_eq_ok_iff` — which schedules can be written, and as what;
* `Schedule.parse?_blanks` — a text is read back, with blanks around it;
* `Schedule.short_of_parse?` — what is read can be written;
* `Schedule.reads_back` — both: what is written is read back, and what is read is written.
-/

namespace PcodePanel

-- Powers are those of core, whatever else is in scope.
attribute [local instance (10000)] instPowNat

/-! ## Numerals inside of a text -/

namespace Numeral

theorem dot_notMem_written (n : Int) : '.' ∉ written 10 n :=
  notMem_written (by decide) (by decide) n (by decide) (by decide)

theorem written_ne_nil (base : Nat) (n : Int) : written base n ≠ [] := by
  rw [written_eq]
  exact List.append_ne_nil_of_right_ne_nil _ Nat.toDigits_ne_nil

theorem isBlank_of_mem_written {n : Int} {c : Char} (member : c ∈ written 10 n) :
    Text.isBlank c = false := by
  rcases mem_written (by decide) (by decide) member with rfl | ⟨d, below, rfl⟩
  · decide
  · have digits : ∀ d < 16, Text.isBlank (Nat.digitChar d) = false := by decide
    exact digits d below

end Numeral

namespace Schedule

open Numeral (Short written digitLimit)

variable {time : Schedule} {text : String}

/-! ## Writing -/

/-- The parts of a schedule that are written. -/
def shown (time : Schedule) : List Int :=
  if time.pticks ≠ 0 then [time.snap, time.ticks, time.pticks]
  else if time.ticks ≠ 0 then [time.snap, time.ticks]
  else [time.snap]

/-- The characters of a schedule's text. -/
def spelled (time : Schedule) : List Char :=
  if time.pticks ≠ 0 then
    written 10 time.snap ++ ':' :: (written 10 time.ticks ++ '.' :: written 10 time.pticks)
  else if time.ticks ≠ 0 then written 10 time.snap ++ ':' :: written 10 time.ticks
  else written 10 time.snap

/-- A schedule is written if all parts that are to be written can be. -/
theorem text_eq_ok_iff :
    time.text = .ok text ↔ (∀ n ∈ time.shown, Short n) ∧ text.toList = time.spelled := by
  have written_eq : ∀ n, written 10 n = (Numeral.decimal n).toList := fun _ => rfl
  have returned : ∀ {a : String}, (pure a : Except Fault String) = .ok text
      ↔ text.toList = a.toList := by
    intro a
    rw [String.toList_inj]
    exact ⟨fun same => (Except.ok.inj same).symm, fun same => congrArg Except.ok same.symm⟩
  unfold Schedule.text shown spelled
  split
  · simp [-bind_pure_comp, bind_eq_ok_iff, Numeral.write_eq_ok_iff, returned, written_eq,
      String.toList_append, and_assoc]
  · split
    · simp [-bind_pure_comp, bind_eq_ok_iff, Numeral.write_eq_ok_iff, returned, written_eq,
        String.toList_append, and_assoc]
    · simp [Numeral.write_eq_ok_iff, written_eq, String.toList_inj]

theorem text_of_short (short : ∀ n ∈ time.shown, Short n) :
    time.text = .ok (String.ofList time.spelled) :=
  text_eq_ok_iff.mpr ⟨short, String.toList_ofList⟩

/-- A schedule is refused just if a part that is to be written has too many digits. -/
theorem refused_iff : (∃ fault, time.text = .error fault)
    ↔ ∃ n ∈ time.shown, digitLimit < (Nat.toDigits 10 n.natAbs).length := by
  constructor
  · rintro ⟨fault, refused⟩
    by_contra few
    have short : ∀ n ∈ time.shown, Short n := by
      intro n member
      exact Numeral.short_iff_length.mpr (Nat.not_lt.mp fun long => few ⟨n, member, long⟩)
    rw [text_of_short short] at refused
    cases refused
  · rintro ⟨n, member, long⟩
    cases printed : time.text with
    | error fault => exact ⟨fault, rfl⟩
    | ok text =>
        have short := (text_eq_ok_iff.mp printed).1 n member
        exact absurd (Numeral.short_iff_length.mp short) (Nat.not_le.mpr long)

/-! ## Reading -/

theorem read?_written {n : Int} (short : Short n) : Numeral.read? (written 10 n) = some n :=
  Numeral.read?_decimal short

theorem readPart?_nil : readPart? [] = some 0 := rfl

theorem readPart?_written {n : Int} (short : Short n) : readPart? (written 10 n) = some n := by
  rw [readPart?, if_neg (by simpa using Numeral.written_ne_nil 10 n), read?_written short]

theorem isBlank_of_mem_spelled {c : Char} (member : c ∈ time.spelled) :
    Text.isBlank c = false := by
  have colon : Text.isBlank ':' = false := by decide
  have dot : Text.isBlank '.' = false := by decide
  unfold spelled at member
  split at member
  · simp only [List.mem_append, List.mem_cons] at member
    rcases member with snap | rfl | ticks | rfl | pticks
    · exact Numeral.isBlank_of_mem_written snap
    · exact colon
    · exact Numeral.isBlank_of_mem_written ticks
    · exact dot
    · exact Numeral.isBlank_of_mem_written pticks
  · split at member
    · simp only [List.mem_append, List.mem_cons] at member
      rcases member with snap | rfl | ticks
      · exact Numeral.isBlank_of_mem_written snap
      · exact colon
      · exact Numeral.isBlank_of_mem_written ticks
    · exact Numeral.isBlank_of_mem_written member

/-- A schedule's text is read as the schedule. -/
theorem parse?_of_trim (short : ∀ n ∈ time.shown, Short n)
    (trimmed : Text.trim text.toList = time.spelled) : parse? text = some time := by
  have noColon : ∀ n, ':' ∉ written 10 n :=
    Numeral.colon_notMem_written (by decide) (by decide)
  obtain ⟨snap, ticks, pticks⟩ := time
  rw [parse?, trimmed]
  unfold spelled
  unfold shown at short
  split at short
  · next shows =>
    obtain ⟨first, second, third⟩ : Short snap ∧ Short ticks ∧ Short pticks := by simpa using short
    rw [if_pos shows, splitAtFirst_append (noColon snap)]
    dsimp only
    rw [splitAtFirst_append (Numeral.dot_notMem_written ticks)]
    simp [read?_written first, readPart?_written second, readPart?_written third]
  · next hides =>
    split at short
    · next shows =>
      obtain ⟨first, second⟩ : Short snap ∧ Short ticks := by simpa using short
      obtain rfl : pticks = 0 := not_not.mp hides
      rw [if_neg hides, if_pos shows, splitAtFirst_append (noColon snap)]
      dsimp only
      rw [splitAtFirst_of_notMem (Numeral.dot_notMem_written ticks)]
      simp [read?_written first, readPart?_written second, readPart?_nil]
    · next hidesTicks =>
      have first : Short snap := by simpa using short
      obtain rfl : pticks = 0 := not_not.mp hides
      obtain rfl : ticks = 0 := not_not.mp hidesTicks
      rw [if_neg hides, if_neg hidesTicks, splitAtFirst_of_notMem (noColon snap)]
      simp [read?_written first, readPart?_nil, splitAtFirst]

/-- A schedule's text is read back, with blanks around it. -/
theorem parse?_blanks (printed : time.text = .ok text) {before after : String}
    (blankBefore : ∀ c ∈ before.toList, Text.isBlank c = true)
    (blankAfter : ∀ c ∈ after.toList, Text.isBlank c = true) :
    parse? (before ++ text ++ after) = some time := by
  obtain ⟨short, spells⟩ := text_eq_ok_iff.mp printed
  refine parse?_of_trim short ?_
  rw [String.toList_append, String.toList_append, spells]
  exact Text.trimWhere_append blankBefore blankAfter
    (fun c first => isBlank_of_mem_spelled (List.mem_of_mem_head? first))
    fun c last => isBlank_of_mem_spelled (List.mem_of_mem_getLast? last)

theorem parse?_of_text (printed : time.text = .ok text) : parse? text = some time := by
  have bare : ∀ c ∈ "".toList, Text.isBlank c = true := by simp
  simpa using parse?_blanks printed bare bare

theorem short_of_readPart? {cs : List Char} {n : Int} (read : readPart? cs = some n) :
    Short n := by
  unfold readPart? at read
  split at read
  · cases read
    exact Numeral.short_iff_length.mpr (by decide)
  · exact Numeral.short_of_read? read

/-- What is read can be written. -/
theorem short_of_parse? (read : parse? text = some time) : ∀ n ∈ time.shown, Short n := by
  simp only [parse?, Option.bind_eq_bind, Option.bind_eq_some_iff] at read
  obtain ⟨snap, first, ticks, second, pticks, third, same⟩ := read
  cases same
  have first := Numeral.short_of_read? first
  have second := short_of_readPart? second
  have third := short_of_readPart? third
  unfold shown
  split
  · simpa using ⟨first, second, third⟩
  · split
    · simpa using ⟨first, second⟩
    · simpa using first

theorem parse_eq_ok_iff : parse text = .ok time ↔ parse? text = some time := by
  unfold parse
  split
  · next read => simp [read]
  · next unread => simp [unread]

/-- Schedules are read back. -/
theorem reads_back :
    (∀ (time : Schedule) (text : String), time.text = .ok text → ∀ before after : String,
      (∀ c ∈ before.toList, Text.isBlank c = true) → (∀ c ∈ after.toList, Text.isBlank c = true) →
        parse (before ++ text ++ after) = .ok time)
    ∧ (∀ (a b : Schedule) (text : String), a.text = .ok text → b.text = .ok text → a = b)
    ∧ (∀ time : Schedule, (∃ fault, time.text = .error fault)
      ↔ ∃ n ∈ time.shown, digitLimit < (Nat.toDigits 10 n.natAbs).length)
    ∧ ∀ text : String, (∃ fault, parse text = .error fault ∧ fault.kind = .value)
      ∨ ∃ time printed, parse text = .ok time ∧ time.text = .ok printed
        ∧ parse printed = .ok time := by
  refine ⟨?_, ?_, fun time => refused_iff, ?_⟩
  · intro time text printed before after blankBefore blankAfter
    exact parse_eq_ok_iff.mpr (parse?_blanks printed blankBefore blankAfter)
  · intro a b text ofA ofB
    exact Option.some.inj ((parse?_of_text ofA).symm.trans (parse?_of_text ofB))
  · intro text
    cases read : parse? text with
    | none => exact .inl ⟨.badSchedule text, by rw [parse, read], rfl⟩
    | some time =>
        have printed := text_of_short (short_of_parse? read)
        exact .inr ⟨time, _, parse_eq_ok_iff.mpr read, printed,
          parse_eq_ok_iff.mpr (parse?_of_text printed)⟩

/-- A schedule with a snapshot of more digits than can be written. -/
def Sample.endless : Schedule where
  snap := 10 ^ digitLimit

/-- Signs and zeros inside are kept, blanks around are dropped; and where a schedule is refused, a
part is too long. -/
theorem reads_back_negative :
    (⟨-1, 0, -5⟩ : Schedule).text = .ok "-1:0.-5"
      ∧ parse ("\t" ++ "-1:0.-5" ++ " \n") = .ok ⟨-1, 0, -5⟩
      ∧ (∀ other : Schedule, other.text = .ok "-1:0.-5" → other = ⟨-1, 0, -5⟩)
      ∧ (∃ fault, Sample.endless.text = .error fault)
      ∧ ∃ n ∈ Sample.endless.shown, digitLimit < (Nat.toDigits 10 n.natAbs).length := by
  have printed : (⟨-1, 0, -5⟩ : Schedule).text = .ok "-1:0.-5" := by decide +kernel
  have blankBefore : ∀ c ∈ "\t".toList, Text.isBlank c = true :=
    List.all_eq_true.mp (by decide +kernel)
  have blankAfter : ∀ c ∈ " \n".toList, Text.isBlank c = true :=
    List.all_eq_true.mp (by decide +kernel)
  have refused : Sample.endless.text = .error .numeralTooLong := by
    have long : ¬ Short Sample.endless.snap := by decide +kernel
    unfold Schedule.text
    rw [Numeral.write_eq_error_iff.mpr ⟨long, rfl⟩]
    rfl
  obtain ⟨blanks, inj, long_of_refused, _⟩ := reads_back
  exact ⟨printed, blanks _ _ printed _ _ blankBefore blankAfter,
    fun other same => inj _ _ _ same printed, ⟨_, refused⟩, (long_of_refused _).mp ⟨_, refused⟩⟩

end Schedule
end PcodePanel
