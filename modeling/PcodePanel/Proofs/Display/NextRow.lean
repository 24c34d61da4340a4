import PcodePanel.Display.Listing
import PcodePanel.Proofs.Result

/-!
# The row of the next operation

A listing numbers its rows and says which one shows the next operation.

* `MarksNext` — the position that is said to be next is that of the one row that is marked;
* `Listing.marksNext_ofFrame`, `Listing.numbered_ofFrame` — in every listing of a frame it is, and
  each row has its position.
-/

namespace PcodePanel

/-- Each row has its position. -/
def Numbered (rows : List Row) : Prop :=
  ∀ (i : Nat) row, rows[i]? = some row → row.index = i

/-- The next row is the one that is marked as it; there is none exactly if no row is marked, and two
are never marked. -/
def MarksNext (rows : List Row) (nextRow : Option Nat) : Prop :=
  ∀ i, nextRow = some i ↔ ∃ row, rows[i]? = some row ∧ row.isNext = true

namespace Listing

/-- What the rows of a walk are like that starts at a position, when a row may have been marked
before: they are numbered from there, and one of them is marked at most if none was before. -/
structure Walked (position : Nat) (before : Option Nat) (listing : Listing) : Prop where
  numbered : ∀ (i : Nat) row, listing.rows[i]? = some row → row.index = (position + i : Nat)
  marked : ∀ k, listing.nextRow = some k ↔ before = some k
    ∨ ∃ i row, k = position + i ∧ listing.rows[i]? = some row ∧ row.isNext = true
  settled : before ≠ none → ∀ row ∈ listing.rows, row.isNext = false

theorem walked_done (position : Nat) (before : Option Nat) :
    Walked position before (done before) := by
  refine ⟨?_, ?_, ?_⟩
  · intro i row found
    simp [done] at found
  · intro k
    constructor
    · intro next
      exact .inl next
    · rintro (next | ⟨i, row, _, found, _⟩)
      · exact next
      · simp [done] at found
  · intro _ row member
    exact absurd member List.not_mem_nil

/-- A row in front of a walk that knows of it. -/
theorem Walked.cons {position : Nat} {before after : Option Nat} {row : Row} {rest : Listing}
    (h : Walked (position + 1) after rest) (index : row.index = position)
    (next : row.isNext = true → before = none)
    (marks : after = if row.isNext then some position else before) :
    Walked position before (cons row rest) := by
  obtain ⟨numbered, marked, settled⟩ := h
  subst marks
  refine ⟨?_, ?_, ?_⟩
  · intro i other found
    cases i with
    | zero =>
        injection found with found
        rw [← found]
        exact index
    | succ i =>
        rw [numbered i other found]
        congr 1
        omega
  · intro k
    show rest.nextRow = some k ↔ _
    rw [marked]
    constructor
    · rintro (here | ⟨i, other, rfl, found, isNext⟩)
      · split at here
        · next isNext =>
          injection here with here
          exact .inr ⟨0, row, here.symm, rfl, isNext⟩
        · exact .inl here
      · exact .inr ⟨i + 1, other, by omega, found, isNext⟩
    · rintro (here | ⟨i, other, rfl, found, isNext⟩)
      · by_cases isNext : row.isNext = true
        · -- A row that is marked is the first one.
          rw [next isNext] at here
          cases here
        · rw [if_neg isNext]
          exact .inl here
      · cases i with
        | zero =>
            injection found with found
            subst found
            rw [if_pos isNext]
            exact .inl rfl
        | succ i => exact .inr ⟨i, other, by omega, found, isNext⟩
  · intro earlier other member
    have unmarked : row.isNext = false := by
      cases isNext : row.isNext with
      | false => rfl
      | true => exact absurd (next isNext) earlier
    rcases List.mem_cons.mp member with rfl | member
    · exact unmarked
    · refine settled ?_ other member
      rw [unmarked]
      exact earlier

/-- What holds of the walk that is done, and of every walk that a row is put in front of or that
skips a template, holds of all walks. A row is marked only if none was before. -/
theorem walk_induction {legend : Legend} {current : Int}
    {motive : Nat → Option Nat → Listing → Prop}
    (done : ∀ position before, motive position before (done before))
    (skip : ∀ position before rest, motive position before rest →
      motive position before { rest with skipped := rest.skipped + 1 })
    (label : ∀ position before tokens rest, motive (position + 1) before rest →
      motive position before (cons (.label position tokens) rest))
    (op : ∀ position before op isNext tokens rest, (isNext = true → before = none) →
      motive (position + 1) (if isNext = true then some position else before) rest →
      motive position before (cons (.op position op isNext tokens) rest))
    {templates : List Template} :
    ∀ {code : List MicroOp} {position : Nat} {before : Option Nat} {listing : Listing},
      walk legend current templates code position before = .ok listing →
      motive position before listing := by
  -- The induction is on the templates. Code, position and mark change from one to the next.
  induction templates with
  | nil =>
      intro code position before listing walked
      injection walked with walked
      rw [← walked]
      exact done position before
  | cons template templates ih =>
      intro code position before listing walked
      cases template with
      | label number =>
          obtain ⟨tokens, _, walked⟩ := bind_eq_ok_iff.mp walked
          obtain ⟨rest, walkedRest, walked⟩ := bind_eq_ok_iff.mp walked
          injection walked with walked
          rw [← walked]
          exact label position before tokens rest (ih walkedRest)
      | op template =>
          cases code with
          | nil =>
              -- A template that finds no operation is skipped and adds no row.
              obtain ⟨rest, walkedRest, walked⟩ := bind_eq_ok_iff.mp walked
              injection walked with walked
              rw [← walked]
              exact skip position before rest (ih walkedRest)
          | cons first code =>
              obtain ⟨tokens, _, walked⟩ := bind_eq_ok_iff.mp walked
              obtain ⟨rest, walkedRest, walked⟩ := bind_eq_ok_iff.mp walked
              injection walked with walked
              rw [← walked]
              refine op position before first _ tokens rest ?_ (ih walkedRest)
              intro isNext
              have unmarked := (Bool.and_eq_true_iff.mp isNext).1
              simpa using unmarked

theorem walked_of_walk {legend : Legend} {current : Int} {templates : List Template}
    {code : List MicroOp} {position : Nat} {before : Option Nat} {listing : Listing}
    (walked : walk legend current templates code position before = .ok listing) :
    Walked position before listing := by
  refine walk_induction walked_done ?_ ?_ ?_ walked
  · rintro position before rest ⟨numbered, marked, settled⟩
    exact ⟨numbered, marked, settled⟩
  · intro position before tokens rest h
    exact h.cons rfl nofun rfl
  · intro position before op isNext tokens rest next h
    exact h.cons rfl next rfl

/-- A closing row has its position and is not marked. -/
theorem closing_cases {frame : Frame} {position : Nat} {i : Nat} {row : Row}
    (found : (closing frame position)[i]? = some row) :
    i = 0 ∧ row.index = position ∧ row.isNext = false := by
  have only : ∀ closingRow : Row, [closingRow][i]? = some row → i = 0 ∧ row = closingRow := by
    intro closingRow found
    cases i with
    | zero =>
        injection found with found
        exact ⟨rfl, found.symm⟩
    | succ i => simp at found
  unfold closing at found
  split at found
  · obtain ⟨rfl, rfl⟩ := only _ found
    exact ⟨rfl, rfl, rfl⟩
  · split at found
    · obtain ⟨rfl, rfl⟩ := only _ found
      exact ⟨rfl, rfl, rfl⟩
    · simp at found

variable {language : Language} {frame : Frame} {templates : List Template} {indent : Option Bool}
  {listing : Listing}

theorem ofTemplates_eq_ok (listed : ofTemplates language frame templates indent = .ok listing) :
    ∃ walked, Walked 0 none walked
      ∧ listing.rows = walked.rows ++ closing frame walked.rows.length
      ∧ listing.nextRow = walked.nextRow := by
  obtain ⟨walked, ok, listed⟩ := bind_eq_ok_iff.mp listed
  injection listed with listed
  rw [← listed]
  exact ⟨walked, walked_of_walk ok, rfl, rfl⟩

/-- A row of a listing is one of its walk or the closing one. -/
theorem row_cases {walked : Listing} {i : Nat} {row : Row}
    (found : (walked.rows ++ closing frame walked.rows.length)[i]? = some row) :
    walked.rows[i]? = some row ∨ row.index = i ∧ row.isNext = false := by
  rcases Nat.lt_or_ge i walked.rows.length with inside | beyond
  · rw [List.getElem?_append_left inside] at found
    exact .inl found
  · rw [List.getElem?_append_right beyond] at found
    obtain ⟨last, index, unmarked⟩ := closing_cases found
    refine .inr ⟨?_, unmarked⟩
    rw [index]
    congr 1
    omega

theorem numbered_ofTemplates (listed : ofTemplates language frame templates indent = .ok listing) :
    Numbered listing.rows := by
  obtain ⟨walked, ⟨numbered, _⟩, rows, _⟩ := ofTemplates_eq_ok listed
  intro i row found
  rw [rows] at found
  rcases row_cases found with found | ⟨index, _⟩
  · rw [numbered i row found, Nat.zero_add]
  · exact index

theorem marksNext_ofTemplates
    (listed : ofTemplates language frame templates indent = .ok listing) :
    MarksNext listing.rows listing.nextRow := by
  obtain ⟨walked, ⟨_, marked, _⟩, rows, next⟩ := ofTemplates_eq_ok listed
  intro k
  rw [next, rows, marked]
  constructor
  · rintro (earlier | ⟨i, row, rfl, found, isNext⟩)
    · cases earlier
    · refine ⟨row, ?_, isNext⟩
      rw [Nat.zero_add, List.getElem?_append_left (List.getElem?_eq_some_iff.mp found).1, found]
  · rintro ⟨row, found, isNext⟩
    -- The closing row is never marked.
    rcases row_cases found with found | ⟨_, unmarked⟩
    · exact .inr ⟨k, row, (Nat.zero_add k).symm, found, isNext⟩
    · rw [unmarked] at isNext
      cases isNext

/-- In every listing of a frame each row has its position. -/
theorem numbered_ofFrame (listed : ofFrame language frame indent = .ok listing) :
    Numbered listing.rows := by
  obtain ⟨templates, _, listed⟩ := bind_eq_ok_iff.mp listed
  exact numbered_ofTemplates listed

/-- **The next row.** Every listing of a frame says where the row of the next operation is: exactly
one row is marked as it, or none is and the listing says so. -/
theorem marksNext_ofFrame (listed : ofFrame language frame indent = .ok listing) :
    MarksNext listing.rows listing.nextRow := by
  obtain ⟨templates, _, listed⟩ := bind_eq_ok_iff.mp listed
  exact marksNext_ofTemplates listed

end Listing

end PcodePanel
