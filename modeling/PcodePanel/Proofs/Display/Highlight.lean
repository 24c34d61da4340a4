import PcodePanel.Proofs.Display.Formatting
import PcodePanel.Unique.Collect

/-!
# Stepping moves the highlight

The step that a frame is at, and how it ended, decide which row is marked as the next and what the
closing row says. Nothing else depends on them: two frames with the same code have the same rows,
but for the marks.

* `Frame.SameCode` — two frames of one instruction, at any steps;
* `Listing.outline_walk` — two walks over one code make the same rows without marks, or are refused
  for the same reason;
* `Listing.countP_isNext_le_one` — no walk marks more than one row;
* `Formatter.highlight_moves` — the marks are all that differs, in two rows at most.
-/

namespace PcodePanel

/-! ## What may differ -/

/-- Two frames have one code, in which user operations have the same names. The step that each is at
and the way in which it ended may differ. -/
structure Frame.SameCode (frame other : Frame) : Prop where
  code : frame.code = other.code
  userops : ∀ number, valueOf? frame.userops number = valueOf? other.userops number

/-- Two legends name everything alike. -/
structure Legend.Alike (legend other : Legend) : Prop where
  language : legend.language = other.language
  indent : legend.indent = other.indent
  userops : ∀ number, valueOf? legend.userops number = valueOf? other.userops number

theorem Frame.SameCode.alike {frame other : Frame} (same : frame.SameCode other)
    (language : Language) (indent : Bool) :
    (Legend.ofFrame language frame indent).Alike (.ofFrame language other indent) :=
  ⟨rfl, rfl, same.userops⟩

namespace Legend.Alike

variable {legend other : Legend} (alike : legend.Alike other)
include alike

theorem token? (piece : Piece) : piece.token? legend = piece.token? other := by
  cases piece with
  | spaceNumber number => simp only [Piece.token?, Legend.spaceText, alike.language]
  | userop number =>
      simp only [Piece.token?, Legend.useropText, alike.language, alike.userops]
  | indent => simp only [Piece.token?, alike.indent]
  | _ => rfl

theorem tokens (pieces : List Piece) : Piece.tokens legend pieces = Piece.tokens other pieces := by
  have same : Piece.token? legend = Piece.token? other := funext alike.token?
  rw [Piece.tokens, Piece.tokens, same]

end Legend.Alike

/-- A row without its mark. -/
def Row.unmarked : Row → Row
  | op index operation _ tokens => .op index operation false tokens
  | row => row

/-- Rows that differ only in their marks are the same if they are marked alike. -/
theorem Row.eq_of_unmarked {row other : Row} (same : row.unmarked = other.unmarked)
    (marks : row.isNext = other.isNext) : row = other := by
  cases row <;> cases other <;> simp_all [unmarked, isNext]

/-! ## Two walks over one code -/

namespace Listing

/-- The rows of a listing without marks. -/
def outline (listing : Listing) : List Row :=
  listing.rows.map Row.unmarked

theorem outline_cons (row : Row) (walked : Except Fault Listing) :
    (do return cons row (← walked) : Except Fault Listing).map outline
      = (walked.map outline).map (row.unmarked :: ·) := by
  cases walked <;> rfl

theorem outline_skip (walked : Except Fault Listing) :
    (do
      let rest ← walked
      return { rest with skipped := rest.skipped + 1 } : Except Fault Listing).map outline
      = walked.map outline := by
  cases walked <;> rfl

/-- **Two walks.** However far the steps are apart that two walks are at, they make the same rows
without marks, or both are refused for the same reason. -/
theorem outline_walk {legend other : Legend} (alike : legend.Alike other) (current current' : Int)
    (templates : List Template) :
    ∀ (code : List MicroOp) (position : Nat) (before before' : Option Nat),
      (walk legend current templates code position before).map outline
        = (walk other current' templates code position before').map outline := by
  -- The induction is on the templates. The two walks may have come to different marks.
  induction templates with
  | nil =>
      intro code position before before'
      rfl
  | cons template templates ih =>
      intro code position before before'
      cases template with
      | label number =>
          rw [walk, walk, alike.tokens]
          cases Piece.tokens other [.lineLabel number] with
          | error fault => rfl
          | ok tokens =>
              refine (outline_cons _ _).trans (Eq.trans ?_ (outline_cons _ _).symm)
              rw [ih code (position + 1) before before']
      | op template =>
          cases code with
          | nil =>
              rw [walk, walk]
              refine (outline_skip _).trans (Eq.trans ?_ (outline_skip _).symm)
              exact ih [] position before before'
          | cons op code =>
              rw [walk, walk, alike.tokens, alike.language]
              cases Piece.tokens other (template.pieces other.language) with
              | error fault => rfl
              | ok tokens =>
                  refine (outline_cons _ _).trans (Eq.trans ?_ (outline_cons _ _).symm)
                  rw [ih code (position + 1)]
                  rfl

/-- No walk marks more than one row, and none if a row was marked before. -/
theorem countP_isNext_le_one {legend : Legend} {current : Int} {templates : List Template}
    {code : List MicroOp} {position : Nat} {before : Option Nat} {listing : Listing}
    (walked : walk legend current templates code position before = .ok listing) :
    listing.rows.countP Row.isNext + before.isSome.toNat ≤ 1 := by
  refine walk_induction (motive := fun _ before listing =>
    listing.rows.countP Row.isNext + before.isSome.toNat ≤ 1) ?_ ?_ ?_ ?_ walked
  · intro position before
    cases before <;> simp [done]
  · intro position before rest h
    exact h
  · intro position before tokens rest h
    simpa [cons, Row.isNext] using h
  · intro position before op isNext tokens rest first h
    cases isNext with
    | false => simpa [cons, Row.isNext] using h
    | true =>
        rw [first rfl]
        show (Row.op position op true tokens :: rest.rows).countP Row.isNext ≤ 1
        rw [List.countP_cons_of_pos rfl]
        exact h

end Listing

/-- Rows that are marked differently are marked in one list or in the other. -/
theorem countP_marks_le (rows others : List Row) :
    (rows.zip others).countP (fun pair => pair.1.isNext != pair.2.isNext)
      ≤ rows.countP Row.isNext + others.countP Row.isNext := by
  induction rows generalizing others with
  | nil => simp
  | cons row rows ih =>
      cases others with
      | nil => simp
      | cons other others =>
          have later := ih others
          rw [List.zip_cons_cons, List.countP_cons, List.countP_cons, List.countP_cons]
          cases row.isNext <;> cases other.isNext <;> simp <;> omega

/-! ## Formatted frames -/

/-- What is formatted of a frame and of another is the same but for the highlight and the closing
row. -/
structure MovesHighlight (frame other : Frame) (formatted formatted' : Formatted)
    (body body' : List Row) : Prop where
  rows : formatted.rows = body ++ Listing.closing frame body.length
  rows' : formatted'.rows = body' ++ Listing.closing other body'.length
  length : body.length = body'.length
  /-- Row by row, all but the marks is the same. -/
  unmarked : body.map Row.unmarked = body'.map Row.unmarked
  /-- Only the rows that are said to be next differ. -/
  next : ∀ i : Nat, body[i]? ≠ body'[i]? →
    formatted.nextRow = some i ∨ formatted'.nextRow = some i
  /-- Two rows differ at most. -/
  marks : (body.zip body').countP (fun pair => pair.1.isNext != pair.2.isNext) ≤ 2

namespace Listing

variable {language : Language} {frame other : Frame} {templates : List Template}
  {indent : Option Bool}

/-- A row that another one stands in the place of is the same unless one of them is next. -/
theorem next_of_ne {listing listing' : Listing} {body body' : List Row} {frame other : Frame}
    (marks : MarksNext listing.rows listing.nextRow)
    (marks' : MarksNext listing'.rows listing'.nextRow)
    (rows : listing.rows = body ++ closing frame body.length)
    (rows' : listing'.rows = body' ++ closing other body'.length)
    (same : body.map Row.unmarked = body'.map Row.unmarked) {i : Nat}
    (differ : body[i]? ≠ body'[i]?) :
    listing.nextRow = some i ∨ listing'.nextRow = some i := by
  have unmarked : (body[i]?).map Row.unmarked = (body'[i]?).map Row.unmarked := by
    rw [← List.getElem?_map, ← List.getElem?_map, same]
  cases here : body[i]? with
  | none =>
      rw [here] at unmarked differ
      exact absurd (Option.map_eq_none_iff.mp unmarked.symm).symm differ
  | some row =>
      rw [here, Option.map_some] at unmarked
      obtain ⟨row', here', unmarked⟩ := Option.map_eq_some_iff.mp unmarked.symm
      have found : listing.rows[i]? = some row := by
        rw [rows, List.getElem?_append_left (List.getElem?_eq_some_iff.mp here).1, here]
      have found' : listing'.rows[i]? = some row' := by
        rw [rows', List.getElem?_append_left (List.getElem?_eq_some_iff.mp here').1, here']
      rw [here, here'] at differ
      cases isNext : row.isNext with
      | true => exact .inl ((marks i).mpr ⟨row, found, isNext⟩)
      | false =>
          refine .inr ((marks' i).mpr ⟨row', found', ?_⟩)
          by_contra notNext
          rw [Bool.not_eq_true] at notNext
          have same := Row.eq_of_unmarked unmarked.symm (isNext.trans notNext.symm)
          exact differ (congrArg some same)

theorem movesHighlight_ofTemplates (same : frame.SameCode other) {listing : Listing}
    (listed : ofTemplates language frame templates indent = .ok listing) :
    ∃ listing' body body', ofTemplates language other templates indent = .ok listing'
      ∧ MovesHighlight frame other listing.formatted listing'.formatted body body' := by
  obtain ⟨walked, ok, made⟩ := bind_eq_ok_iff.mp listed
  injection made with made
  have outlines := outline_walk
    (same.alike language (indent.getD (templates.any Template.isLabel))) frame.index other.index
    templates frame.code 0 none none
  rw [ok, same.code] at outlines
  cases ok' : walk (.ofFrame language other (indent.getD (templates.any Template.isLabel)))
      other.index templates other.code 0 none with
  | error fault =>
      rw [ok'] at outlines
      cases outlines
  | ok walked' =>
      rw [ok'] at outlines
      injection outlines with unmarked
      have listed' : ofTemplates language other templates indent = .ok
          { walked' with rows := walked'.rows ++ closing other walked'.rows.length } :=
        bind_eq_ok_iff.mpr ⟨walked', ok', rfl⟩
      have length : walked.rows.length = walked'.rows.length := by
        have lengths := congrArg List.length unmarked
        rwa [outline, outline, List.length_map, List.length_map] at lengths
      have rows : listing.rows = walked.rows ++ closing frame walked.rows.length := by
        rw [← made]
      have next := fun i => next_of_ne (i := i) (marksNext_ofTemplates listed)
        (marksNext_ofTemplates listed') rows rfl unmarked
      refine ⟨_, walked.rows, walked'.rows, listed', rows, rfl, length, unmarked, next, ?_⟩
      have first := countP_isNext_le_one ok
      have second := countP_isNext_le_one ok'
      have both := countP_marks_le walked.rows walked'.rows
      omega

end Listing

/-- **Stepping moves the highlight.** Let two frames have the same code. If the one is formatted, by
any templates or by those of the code, then so is the other, and their rows differ only in the marks
of those that are next, and in the closing row. Their temporaries have the same entries. -/
theorem Formatter.highlight_moves {frame other : Frame} (same : frame.SameCode other)
    (language : Language) (indent : Option Bool) :
    (∀ templates formatted, (ofTemplates language frame templates indent).format.2 = .ok formatted →
        ∃ formatted' body body',
          (ofTemplates language other templates indent).format.2 = .ok formatted'
            ∧ MovesHighlight frame other formatted formatted' body body')
      ∧ (∀ formatted, Formatted.ofFrame language frame indent = .ok formatted →
        ∃ formatted' body body', Formatted.ofFrame language other indent = .ok formatted'
          ∧ MovesHighlight frame other formatted formatted' body body')
      ∧ Unique.collect frame = Unique.collect other := by
  have moves : ∀ templates formatted,
      (ofTemplates language frame templates indent).format.2 = .ok formatted →
      ∃ formatted' body body',
        (ofTemplates language other templates indent).format.2 = .ok formatted'
          ∧ MovesHighlight frame other formatted formatted' body body' := by
    intro templates formatted made
    rw [format_ofTemplates] at made
    cases listed : Listing.ofTemplates language frame templates indent with
    | error fault =>
        rw [listed] at made
        cases made
    | ok listing =>
        rw [listed] at made
        injection made with made
        subst made
        obtain ⟨listing', body, body', listed', moves⟩ :=
          Listing.movesHighlight_ofTemplates same listed
        refine ⟨listing'.formatted, body, body', ?_, moves⟩
        rw [format_ofTemplates, listed']
        rfl
  refine ⟨moves, ?_, ?_⟩
  · intro formatted made
    obtain ⟨formatter, ready, made⟩ := bind_eq_ok_iff.mp made
    obtain ⟨templates, derived, ready⟩ := bind_eq_ok_iff.mp ready
    injection ready with ready
    subst ready
    obtain ⟨formatted', body, body', made', moves⟩ := moves templates formatted made
    refine ⟨formatted', body, body', bind_eq_ok_iff.mpr ⟨_, ?_, made'⟩, moves⟩
    exact bind_eq_ok_iff.mpr ⟨templates, same.code ▸ derived, rfl⟩
  · rw [Unique.collect, Unique.collect, same.code]

/-- A language without names. -/
def Sample.unnamed : Language :=
  ⟨"unnamed", false, [], [], []⟩

/-- A loop, at its first step. -/
def Sample.entered : Frame where
  code := Template.Sample.jumps
  userops := [(7, "pause"), (7, "halt")]

/-- The same loop, left by a branch. -/
def Sample.left : Frame where
  code := Template.Sample.jumps
  index := 6
  isBranch := true
  branched := some 0x401000
  userops := [(7, "halt")]

theorem Sample.sameCode_loop : Sample.entered.SameCode Sample.left := by
  refine ⟨rfl, fun number => ?_⟩
  simp only [entered, left, valueOf?, List.reverse_cons, List.reverse_nil, List.nil_append,
    List.cons_append, List.lookup_cons, List.lookup_nil]
  cases number == 7 <;> rfl

/-- The highlight is on the first operation, behind its label, and then nowhere. -/
theorem Formatter.highlight_moves_loop :
    Sample.entered.SameCode Sample.left
      ∧ ∃ formatted formatted' body body',
        Formatted.ofFrame Sample.unnamed Sample.entered none = .ok formatted
          ∧ Formatted.ofFrame Sample.unnamed Sample.left none = .ok formatted'
          ∧ MovesHighlight Sample.entered Sample.left formatted formatted' body body'
          ∧ formatted.nextRow = some 1 := by
  have same := Sample.sameCode_loop
  have next : (Formatted.ofFrame Sample.unnamed Sample.entered none).map
      Formatted.nextRow = .ok (some 1) := by
    decide +kernel
  cases made : Formatted.ofFrame Sample.unnamed Sample.entered none with
  | error fault =>
      rw [made] at next
      cases next
  | ok formatted =>
      rw [made] at next
      injection next with next
      obtain ⟨formatted', body, body', made', moves⟩ :=
        (highlight_moves same Sample.unnamed none).2.1 formatted made
      exact ⟨same, formatted, formatted', body, body', rfl, made', moves, next⟩

end PcodePanel
