import PcodePanel.Numeral.Read
import PcodePanel.Numeral.Write

/-!
# Schedules

A schedule is a position in a trace: a snapshot, instructions stepped from it, and operations
stepped into the instruction after those. No operations stepped means that this instruction is not
decoded yet.

* `Schedule.text` writes a schedule, without parts that are zero at its end;
* `Schedule.parse` reads one. Missing parts count as zero; the snapshot cannot be missing.
-/

namespace PcodePanel

/-- A position in a trace. -/
structure Schedule where
  snap : Int := 0
  ticks : Int := 0
  pticks : Int := 0
deriving DecidableEq, Repr

namespace Schedule

/-- The text of a schedule. -/
def text (time : Schedule) : Except Fault String := do
  let snap ← Numeral.write time.snap
  if time.pticks ≠ 0 then
    return snap ++ ":" ++ (← Numeral.write time.ticks) ++ "." ++ (← Numeral.write time.pticks)
  else if time.ticks ≠ 0 then
    return snap ++ ":" ++ (← Numeral.write time.ticks)
  else return snap

/-- Splits a text at the first occurrence of a character, which is dropped. -/
def splitAtFirst (mark : Char) (cs : List Char) : List Char × List Char :=
  (cs.takeWhile (· ≠ mark), (cs.dropWhile (· ≠ mark)).tail)

/-- The first occurrence splits a text; what follows it is not looked at. -/
theorem splitAtFirst_append {mark : Char} {front : List Char} (absent : mark ∉ front)
    (back : List Char) : splitAtFirst mark (front ++ mark :: back) = (front, back) := by
  induction front with
  | nil => simp [splitAtFirst]
  | cons c cs ih =>
    obtain ⟨here, later⟩ := not_or.1 (mt List.mem_cons.2 absent)
    have rest := ih later
    simp_all [splitAtFirst, Ne.symm here]

/-- A text without the mark is all front. -/
theorem splitAtFirst_of_notMem {mark : Char} {cs : List Char} (absent : mark ∉ cs) :
    splitAtFirst mark cs = (cs, []) := by
  induction cs with
  | nil => rfl
  | cons c cs ih =>
    obtain ⟨here, later⟩ := not_or.1 (mt List.mem_cons.2 absent)
    have rest := ih later
    simp_all [splitAtFirst, Ne.symm here]

/-- Reads a part that may be missing. -/
def readPart? (cs : List Char) : Option Int :=
  if cs.isEmpty then some 0 else Numeral.read? cs

/-- The schedule that a text denotes. -/
def parse? (text : String) : Option Schedule := do
  let (snap, steps) := splitAtFirst ':' (Text.trim text.toList)
  let (ticks, pticks) := splitAtFirst '.' steps
  return { snap := ← Numeral.read? snap, ticks := ← readPart? ticks, pticks := ← readPart? pticks }

/-- Reads a schedule. -/
def parse (text : String) : Except Fault Schedule :=
  match parse? text with
  | some time => .ok time
  | none => .error (.badSchedule text)

/-- The schedule `count` operations later. -/
def forward (time : Schedule) (count : Int) : Schedule :=
  { time with pticks := time.pticks + count }

/-- The schedule `count` operations earlier in the same instruction, if there are so many. -/
def backward? (time : Schedule) (count : Int) : Option Schedule :=
  if time.pticks < count then none else some { time with pticks := time.pticks - count }

end Schedule

end PcodePanel
