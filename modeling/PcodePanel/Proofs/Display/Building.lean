import Mathlib.Data.List.DropRight
import PcodePanel.Display.RowBuilder
import PcodePanel.Proofs.Display.NextRow

/-!
# Rows that are built call by call

A row builder may be called in any order. A row may be started twice, or closed without having been
started, and pieces may be appended where no row is open. What the builder holds is a matter of the
calls so far: the pieces since the latest start or closing, and the latest start since the latest
closing.

* `RowBuilder.gathered`, `RowBuilder.started?` — what calls say of the row that is not closed yet;
* `RowBuilder.Holds` — a builder holds what calls say, which each call preserves;
* `RowBuilder.Separated` — each closing makes one row, of what was said since the rows before it;
* `RowBuilder.separated_run` — the rows of a new builder are separated, whatever the calls.
-/

namespace PcodePanel

/-! ## Pieces and tokens -/

namespace Piece

variable {legend : Legend} {piece : Piece} {token : Option Token}

/-- A piece has one token, but for an indentation where there is none. -/
theorem length_of_token? (shown : piece.token? legend = .ok token) :
    token.toList.length = if piece = .indent ∧ legend.indent = false then 0 else 1 := by
  cases piece
  case indent =>
    injection shown with shown
    subst shown
    cases legend.indent <;> rfl
  case unique | raw | lineLabel | mnemonic | spaceNumber | userop =>
    obtain ⟨text, _, shown⟩ := bind_eq_ok_iff.mp shown
    cases shown
    rfl
  case address | register | scalar | space | separator =>
    cases shown
    rfl

/-- The token of a last piece comes last. -/
theorem tokens_concat {pieces : List Piece} {tokens : List Token}
    (rendered : Piece.tokens legend pieces = .ok tokens) (shown : piece.token? legend = .ok token) :
    Piece.tokens legend (pieces ++ [piece]) = .ok (tokens ++ token.toList) := by
  obtain ⟨found, each, rendered⟩ := bind_eq_ok_iff.mp rendered
  injection rendered with rendered
  have all : (pieces ++ [piece]).mapM (token? legend) = .ok (found ++ [token]) := by
    rw [List.mapM_append, List.mapM_cons, each, shown]
    rfl
  rw [Piece.tokens, all, ← rendered]
  cases token <;> simp [bind, Except.bind, pure, Except.pure]

end Piece

/-- A row comes last with the position after all others. -/
theorem Numbered.concat {rows : List Row} {row : Row} (numbered : Numbered rows)
    (index : row.index = rows.length) : Numbered (rows ++ [row]) := by
  intro i other found
  rcases Nat.lt_or_ge i rows.length with inside | beyond
  · rw [List.getElem?_append_left inside] at found
    exact numbered i other found
  · rw [List.getElem?_append_right beyond] at found
    obtain ⟨here, same⟩ := List.getElem?_eq_some_iff.mp found
    rw [List.length_singleton] at here
    obtain rfl : i = rows.length := by omega
    rw [List.getElem_singleton] at same
    rw [← same, index]

namespace RowBuilder

/-! ## What calls say -/

/-- The piece that a call appends. -/
def Call.piece? : Call → Option Piece
  | append piece => some piece
  | start .. | close => none

/-- What a call starts a row for: an operation, if it has one, and whether that is the next. -/
def Call.start? : Call → Option (Option MicroOp × Bool)
  | start op isNext => some (op, isNext)
  | append _ | close => none

/-- The pieces that have been appended since a row was last started or closed. -/
def gathered (calls : List Call) : List Piece :=
  (calls.rtakeWhile fun call => call.piece?.isSome).filterMap Call.piece?

/-- The latest start since a row was last closed. -/
def started? (calls : List Call) : Option (Option MicroOp × Bool) :=
  ((calls.rtakeWhile fun call => call ≠ .close).filterMap Call.start?).getLast?

/-- The row of some tokens that is closed after calls. It shows the operation of the latest start
since the latest closing, and is a label if there is no such start or operation. -/
def rowAfter (calls : List Call) (tokens : List Token) : Row :=
  match started? calls with
  | some (some op, isNext) => .op (calls.count .close) op isNext tokens
  | some (none, _) | none => .label (calls.count .close) tokens

section Calls

variable (calls : List Call) (op : Option MicroOp) (isNext : Bool) (piece : Piece)

@[simp] theorem gathered_start : gathered (calls ++ [.start op isNext]) = [] := by
  simp [gathered, Call.piece?]

@[simp] theorem gathered_close : gathered (calls ++ [.close]) = [] := by
  simp [gathered, Call.piece?]

@[simp] theorem gathered_append :
    gathered (calls ++ [.append piece]) = gathered calls ++ [piece] := by
  simp [gathered, Call.piece?]

@[simp] theorem started?_start :
    started? (calls ++ [.start op isNext]) = some (op, isNext) := by
  simp [started?, Call.start?]

@[simp] theorem started?_close : started? (calls ++ [.close]) = none := by
  simp [started?]

@[simp] theorem started?_append : started? (calls ++ [.append piece]) = started? calls := by
  simp [started?, Call.start?]

@[simp] theorem index_rowAfter (tokens : List Token) :
    (rowAfter calls tokens).index = calls.count .close := by
  unfold rowAfter
  split <;> rfl

end Calls

/-! ## What a builder holds -/

variable {legend : Legend} {calls : List Call} {builder : RowBuilder}

/-- A builder holds what calls say: a row for each closing, the tokens of the pieces that have been
gathered, and the latest start. -/
structure Holds (legend : Legend) (calls : List Call) (builder : RowBuilder) : Prop where
  legend_eq : builder.legend = legend
  length_eq : builder.rows.length = calls.count .close
  numbered : Numbered builder.rows
  rendered : Piece.tokens legend (gathered calls) = .ok builder.tokens
  started : (builder.op, builder.isNext) = (started? calls).getD (none, false)

theorem holds_nil (legend : Legend) : Holds legend [] { legend } where
  legend_eq := rfl
  length_eq := rfl
  numbered := fun _ _ found => by simp at found
  rendered := rfl
  started := rfl

namespace Holds

variable (holds : Holds legend calls builder)
include holds

/-- Closing makes the row that the calls say. -/
theorem openRow_eq : builder.openRow = rowAfter calls builder.tokens := by
  have started := holds.started
  unfold openRow rowAfter
  rw [holds.length_eq]
  rcases latest : started? calls with _ | ⟨_ | op, isNext⟩ <;> rw [latest] at started
  · obtain ⟨op, _⟩ := Prod.mk.inj started
    rw [op]
  · obtain ⟨op, _⟩ := Prod.mk.inj started
    rw [op]
  · obtain ⟨op, isNext⟩ := Prod.mk.inj started
    rw [op, isNext]

/-- A call leaves a builder that holds what the calls and it say. -/
theorem step {call : Call} {after : RowBuilder} (done : builder.step call = .ok after) :
    Holds legend (calls ++ [call]) after := by
  have openRow := holds.openRow_eq
  obtain ⟨legend_eq, length_eq, numbered, rendered, started⟩ := holds
  cases call with
  | start op isNext =>
      injection done with done
      subst done
      refine ⟨legend_eq, ?_, numbered, ?_, ?_⟩
      · rw [List.count_append]
        exact length_eq
      · rw [gathered_start]
        rfl
      · rw [started?_start]
        rfl
  | close =>
      injection done with done
      subst done
      refine ⟨legend_eq, ?_, ?_, ?_, ?_⟩
      · rw [List.length_append, length_eq, List.count_append]
        rfl
      · refine numbered.concat ?_
        rw [openRow, index_rowAfter, length_eq]
      · rw [gathered_close]
        rfl
      · rw [started?_close]
        rfl
  | append piece =>
      obtain ⟨token, shown, done⟩ := bind_eq_ok_iff.mp done
      injection done with done
      subst done
      rw [legend_eq] at shown
      refine ⟨legend_eq, ?_, numbered, ?_, ?_⟩
      · rw [List.count_append]
        exact length_eq
      · rw [gathered_append]
        exact Piece.tokens_concat rendered shown
      · rw [started?_append]
        exact started

end Holds

/-! ## Runs -/

section Runs

variable {before later : List Call} {after : RowBuilder}

theorem run_append_eq_ok_iff : run builder (before ++ later) = .ok after
    ↔ ∃ middle, run builder before = .ok middle ∧ run middle later = .ok after := by
  rw [run, List.foldlM_append]
  exact bind_eq_ok_iff

theorem run_singleton (call : Call) : run builder [call] = builder.step call := by
  rw [run, List.foldlM_cons]
  exact bind_pure _

theorem holds_run (done : run { legend } calls = .ok after) : Holds legend calls after := by
  -- The induction is on the last call: what a builder holds is said of all calls before it.
  induction calls using List.reverseRecOn generalizing after with
  | nil =>
      injection done with done
      exact done ▸ holds_nil legend
  | append_singleton calls call ih =>
      obtain ⟨middle, earlier, last⟩ := run_append_eq_ok_iff.mp done
      exact (ih earlier).step (run_singleton call ▸ last)

/-- A call only adds to the rows, and leaves the legend. -/
theorem keeps_step {call : Call} (done : builder.step call = .ok after) :
    builder.rows <+: after.rows ∧ after.legend = builder.legend := by
  cases call with
  | start op isNext =>
      injection done with done
      subst done
      exact ⟨List.prefix_refl _, rfl⟩
  | close =>
      injection done with done
      subst done
      exact ⟨List.prefix_append .., rfl⟩
  | append piece =>
      obtain ⟨token, _, done⟩ := bind_eq_ok_iff.mp done
      injection done with done
      subst done
      exact ⟨List.prefix_refl _, rfl⟩

theorem rows_run (done : run builder calls = .ok after) : builder.rows <+: after.rows := by
  induction calls generalizing builder with
  | nil =>
      injection done with done
      exact done ▸ List.prefix_refl _
  | cons call calls ih =>
      obtain ⟨middle, first, rest⟩ := bind_eq_ok_iff.mp done
      exact (keeps_step first).1.trans (ih rest)

/-- A run comes to its end if each piece that it appends has a text. -/
theorem exists_run
    (written : ∀ piece, .append piece ∈ calls → ∃ token, piece.token? builder.legend = .ok token) :
    ∃ after, run builder calls = .ok after := by
  induction calls generalizing builder with
  | nil => exact ⟨builder, rfl⟩
  | cons call calls ih =>
      have first : ∃ middle, builder.step call = .ok middle := by
        cases call with
        | start | close => exact ⟨_, rfl⟩
        | append piece =>
            obtain ⟨token, shown⟩ := written piece List.mem_cons_self
            exact ⟨_, bind_eq_ok_iff.mpr ⟨token, shown, rfl⟩⟩
      obtain ⟨middle, first⟩ := first
      have legend := (keeps_step first).2
      obtain ⟨after, rest⟩ := ih fun piece member =>
        legend ▸ written piece (List.mem_cons_of_mem _ member)
      exact ⟨after, bind_eq_ok_iff.mpr ⟨middle, first, rest⟩⟩

end Runs

/-! ## Separated rows -/

/-- The rows of calls are separate: each closing makes a row of its own, and nothing else has a part
in the rows. -/
structure Separated (legend : Legend) (calls : List Call) (rows : List Row) : Prop where
  /-- There is one row for each closing. -/
  length_eq : rows.length = calls.count .close
  numbered : Numbered rows
  /-- A row has the tokens that were appended since the latest start or closing before it, and shows
  the operation of the latest start since the previous row. -/
  closed : ∀ before later, calls = before ++ .close :: later →
    ∃ tokens, Piece.tokens legend (gathered before) = .ok tokens
      ∧ rows[before.count .close]? = some (rowAfter before tokens)
  /-- The rows that were closed earlier stay. -/
  kept : ∀ before later, calls = before ++ later →
    ∃ middle, run { legend } before = .ok middle ∧ middle.rows <+: rows
  /-- A piece adds its token to those of the open row, and does nothing else. Only an indentation
  may have none. -/
  added : ∀ before piece later, calls = before ++ .append piece :: later →
    ∃ middle token, run { legend } before = .ok middle ∧ piece.token? legend = .ok token
      ∧ run { legend } (before ++ [.append piece])
        = .ok { middle with tokens := middle.tokens ++ token.toList }
      ∧ token.toList.length = if piece = .indent ∧ legend.indent = false then 0 else 1

/-- **Separate rows.** If each piece that is appended has a text, then a new builder performs all
calls, in whatever order, and its rows are separate. -/
theorem separated_run {legend : Legend} {calls : List Call}
    (written : ∀ piece, .append piece ∈ calls → ∃ token, piece.token? legend = .ok token) :
    ∃ builder, run { legend } calls = .ok builder ∧ Separated legend calls builder.rows := by
  obtain ⟨builder, done⟩ : ∃ builder, run { legend } calls = .ok builder := exists_run written
  have holds := holds_run done
  refine ⟨builder, done, ?_⟩
  constructor
  case length_eq => exact holds.length_eq
  case numbered => exact holds.numbered
  case closed =>
    rintro before later rfl
    obtain ⟨middle, earlier, rest⟩ := run_append_eq_ok_iff.mp done
    have known := holds_run earlier
    obtain ⟨_, made, rest⟩ := bind_eq_ok_iff.mp rest
    injection made with made
    refine ⟨middle.tokens, known.rendered, ?_⟩
    obtain ⟨others, rows⟩ := rows_run rest
    rw [← rows, ← made, ← known.openRow_eq, ← known.length_eq, List.append_assoc,
      List.getElem?_append_right (Nat.le_refl _), Nat.sub_self]
    rfl
  case kept =>
    rintro before later rfl
    obtain ⟨middle, earlier, rest⟩ := run_append_eq_ok_iff.mp done
    exact ⟨middle, earlier, rows_run rest⟩
  case added =>
    rintro before piece later rfl
    obtain ⟨middle, earlier, rest⟩ := run_append_eq_ok_iff.mp done
    obtain ⟨appended, made, _⟩ := bind_eq_ok_iff.mp rest
    obtain ⟨token, shown, same⟩ := bind_eq_ok_iff.mp made
    injection same with same
    have legend := (holds_run earlier).legend_eq
    rw [legend] at shown
    refine ⟨middle, token, earlier, shown, ?_, Piece.length_of_token? shown⟩
    rw [same]
    exact run_append_eq_ok_iff.mpr ⟨middle, earlier, (run_singleton _).trans made⟩

/-- An operation to show. -/
def Sample.copy : MicroOp :=
  ⟨1, none, [], ⟨0, 0⟩⟩

/-- Pieces before the first row and between rows, a row that is started again as a label, and one
that is not closed. -/
def Sample.untidy : List Call :=
  [.append (.register "lost"), .start (some copy) true, .append .indent, .append (.register "kept"),
   .append (.separator "="), .close, .append (.register "stray"), .close, .start (some copy) true,
   .append (.scalar 1), .start none true, .append (.lineLabel 3), .close, .start (some copy) true,
   .append (.scalar 2)]

/-- A legend without indentation. -/
def Sample.flush : Legend :=
  ⟨⟨"x", false, [], [], []⟩, [], false⟩

/-- What becomes of the untidy calls: what was lost is in no row, and what was stray is in a row of
its own. -/
def Sample.tidy : List Row :=
  [.op 0 Sample.copy true [.of .register "kept", .of .separator " = "],
   .label 1 [.of .register "stray"], .label 2 [.of .lineLabel "<3>"]]

theorem separated_run_untidy :
    (∀ piece, .append piece ∈ Sample.untidy →
        ∃ token, piece.token? Sample.flush = .ok token)
      ∧ ∃ builder, run { legend := Sample.flush } Sample.untidy = .ok builder
        ∧ Separated Sample.flush Sample.untidy builder.rows ∧ builder.rows = Sample.tidy := by
  have texts : ∀ piece ∈ Sample.untidy.filterMap Call.piece?,
      (piece.token? Sample.flush).isOk = true := by
    decide +kernel
  have written : ∀ piece, .append piece ∈ Sample.untidy →
      ∃ token, piece.token? Sample.flush = .ok token := by
    intro piece member
    have text := texts piece (List.mem_filterMap.mpr ⟨_, member, rfl⟩)
    cases shown : piece.token? Sample.flush with
    | ok token => exact ⟨token, rfl⟩
    | error fault =>
        rw [shown] at text
        cases text
  obtain ⟨builder, done, separated⟩ := separated_run written
  refine ⟨written, builder, done, separated, ?_⟩
  have rows : (run { legend := Sample.flush } Sample.untidy).map RowBuilder.rows
      = .ok Sample.tidy := by
    decide +kernel
  rw [done] at rows
  injection rows

end RowBuilder

end PcodePanel
