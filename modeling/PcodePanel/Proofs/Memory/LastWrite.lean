import PcodePanel.Memory
import PcodePanel.Proofs.Bytes

/-!
# The last write counts

A memory is written by calls that name a varnode and give it bytes or a number. Calls may overlap,
and a call may be refused. What is read back is decided byte by byte, by the last call that was
accepted and covers the byte.

* `Memory.Call.Accepted`, `Memory.Call.Covers`, `Memory.Call.Puts` — which calls are accepted, and
  which byte a call puts where;
* `Memory.byte?_after_of_covers`, `Memory.byte?_after_of_not` — what one call does to a cell;
* `Memory.byte?_afterAll` — what a list of calls does to a cell;
* `Memory.lastWins_read?` — what is read after any list of calls.
-/

namespace PcodePanel

-- Powers are those of core, whatever else is in scope.
attribute [local instance (10000)] instPowNat

/-! ## Reading -/

namespace Memory

variable {memory other : Memory} {v : Varnode} {bytes : List UInt8}

theorem bytesFrom?_eq_some_iff {count start : Nat} :
    memory.bytesFrom? v count start = some bytes
      ↔ bytes.length = count ∧ ∀ i < count, memory.byte? (v.cell (start + i)) = bytes[i]? := by
  induction count generalizing start bytes with
  | zero => simp [bytesFrom?, eq_comm]
  | succ count ih =>
      rw [bytesFrom?]
      cases first : memory.byte? (v.cell start) with
      | none =>
          simp only [reduceCtorEq, false_iff, not_and]
          intro length each
          have here := each 0 (by omega)
          rw [Nat.add_zero, first] at here
          have := List.getElem?_eq_none_iff.mp here.symm
          omega
      | some b =>
          simp only [Option.map_eq_some_iff, ih]
          constructor
          · rintro ⟨rest, ⟨length, each⟩, rfl⟩
            refine ⟨by simp [length], ?_⟩
            intro i below
            cases i with
            | zero => simpa using first
            | succ i => simpa [Nat.add_assoc, Nat.add_comm 1] using each i (by omega)
          · rintro ⟨length, each⟩
            cases bytes with
            | nil => simp at length
            | cons c rest =>
                have here := each 0 (by omega)
                rw [Nat.add_zero, first] at here
                obtain rfl : b = c := by simpa using here
                refine ⟨rest, ⟨by simpa using length, ?_⟩, rfl⟩
                intro i below
                have there := each (i + 1) (by omega)
                simpa [Nat.add_assoc, Nat.add_comm 1] using there

/-- A varnode reads as bytes if these are what its cells hold. -/
theorem read?_eq_some_iff :
    memory.read? v = some bytes
      ↔ bytes.length = v.size.toNat
        ∧ ∀ i : Nat, (i : Int) < v.size → memory.byte? (v.cell i) = bytes[i]? := by
  rw [read?, bytesFrom?_eq_some_iff]
  simp only [Nat.zero_add]
  constructor <;> rintro ⟨length, each⟩ <;> exact ⟨length, fun i below => each i (by omega)⟩

/-- A varnode does not read if one of its cells holds nothing. -/
theorem read?_eq_none_iff :
    memory.read? v = none ↔ ∃ i : Nat, (i : Int) < v.size ∧ memory.byte? (v.cell i) = none := by
  constructor
  · intro unread
    by_contra known
    push Not at known
    -- Otherwise the bytes in its cells would be read.
    let bytes := (List.range v.size.toNat).map fun i => (memory.byte? (v.cell i)).getD 0
    have read : memory.read? v = some bytes := by
      refine read?_eq_some_iff.mpr ⟨by simp [bytes], ?_⟩
      intro i below
      obtain ⟨byte, held⟩ := Option.ne_none_iff_exists'.mp (known i below)
      have inside : i < v.size.toNat := by omega
      simp [bytes, held, inside]
    rw [unread] at read
    cases read
  · rintro ⟨i, below, empty⟩
    by_contra read
    obtain ⟨bytes, read⟩ := Option.ne_none_iff_exists'.mp read
    obtain ⟨length, each⟩ := read?_eq_some_iff.mp read
    have there := each i below
    rw [empty] at there
    have := List.getElem?_eq_none_iff.mp there.symm
    omega

/-- What is read of a varnode depends on its cells alone. -/
theorem read?_congr
    (same : ∀ i : Nat, (i : Int) < v.size → memory.byte? (v.cell i) = other.byte? (v.cell i)) :
    memory.read? v = other.read? v := by
  cases read : other.read? v with
  | none =>
      obtain ⟨i, below, empty⟩ := read?_eq_none_iff.mp read
      exact read?_eq_none_iff.mpr ⟨i, below, (same i below).trans empty⟩
  | some bytes =>
      obtain ⟨length, each⟩ := read?_eq_some_iff.mp read
      exact read?_eq_some_iff.mpr ⟨length, fun i below => (same i below).trans (each i below)⟩

/-! ## Writes -/

/-- Some write put a byte into the cell. -/
def Written (memory : Memory) (cell : Cell) : Prop :=
  ∃ write ∈ memory.history, cell.space = write.first.space ∧ cell.name = write.first.name
    ∧ write.first.offset ≤ cell.offset ∧ cell.offset < write.first.offset + write.data.size

/-- A cell is empty if it was never written. -/
theorem byte?_eq_none_iff {cell : Cell} : memory.byte? cell = none ↔ ¬ memory.Written cell := by
  have each : ∀ write : Write, write.byte? cell = none
      ↔ ¬ (cell.space = write.first.space ∧ cell.name = write.first.name
        ∧ write.first.offset ≤ cell.offset
        ∧ cell.offset < write.first.offset + write.data.size) := by
    intro write
    simp only [Write.byte?, ite_eq_right_iff, Array.getElem?_eq_none_iff]
    constructor
    · rintro outside ⟨space, name, after, before⟩
      have := outside ⟨by omega, space, name⟩
      omega
    · rintro outside ⟨after, space, name⟩
      by_contra before
      exact outside ⟨space, name, by omega, by omega⟩
  simp only [byte?, List.findSome?_eq_none_iff, each, Written, not_exists, not_and]

/-! ## Calls -/

/-- A call that writes to a memory. -/
structure Call where
  target : Varnode
  content : Content
deriving DecidableEq, Repr

namespace Call

/-- The call is not refused: bytes fill the varnode, and a number has a width that numbers can
have. -/
def Accepted : Call → Prop
  | ⟨target, .bytes data⟩ => (data.length : Int) = target.size
  | ⟨target, .value _ _⟩ => Width.Fits target.size

instance : (call : Call) → Decidable call.Accepted
  | ⟨_, .bytes _⟩ => inferInstanceAs (Decidable (_ = _))
  | ⟨target, .value _ _⟩ => inferInstanceAs (Decidable (Width.Fits target.size))

/-- The cell belongs to the varnode that the call writes to. -/
def Covers (call : Call) (cell : Cell) : Prop :=
  cell.space = call.target.space ∧ cell.name = call.target.name
    ∧ call.target.offset ≤ cell.offset ∧ cell.offset < call.target.offset + call.target.size

instance (call : Call) (cell : Cell) : Decidable (call.Covers cell) :=
  inferInstanceAs (Decidable (_ ∧ _))

/-- The call writes to a byte of a varnode. -/
def Touches (call : Call) (v : Varnode) : Prop :=
  ∃ i : Nat, (i : Int) < v.size ∧ call.Covers (v.cell i)

/-- How many bytes of the call come before the cell. -/
def position (call : Call) (cell : Cell) : Nat :=
  (cell.offset - call.target.offset).toNat

/-- The byte that the call has for a cell: one of the bytes that are given, or a digit of the number
to base 256. The digits of a negative number are those of its residue. -/
def Puts (call : Call) (cell : Cell) (byte : UInt8) : Prop :=
  let position := call.position cell
  match call.content with
  | .bytes data => data[position]? = some byte
  | .value value bigEndian =>
    let place := if bigEndian then call.target.size.toNat - 1 - position else position
    (byte.toNat : Int) = value / 256 ^ place % 256

/-- The bytes of the call, if it is accepted. -/
def data (call : Call) : List UInt8 :=
  match call.content with
  | .bytes data => data
  | .value value bigEndian =>
    Bytes.ofNat bigEndian call.target.size.toNat (value % 256 ^ call.target.size.toNat).toNat

variable {call : Call} {cell : Cell}

theorem length_data (accepted : call.Accepted) : (call.data.length : Int) = call.target.size := by
  obtain ⟨target, content⟩ := call
  cases content with
  | bytes data => exact accepted
  | value value bigEndian =>
      obtain ⟨nonneg, _⟩ : Width.Fits target.size := accepted
      simp only [data, Bytes.length_ofNat]
      omega

end Call

variable {call : Call} {cell : Cell}

theorem store_of_accepted (memory : Memory) (accepted : call.Accepted) :
    memory.store call.target call.content = .ok (memory.put call.target call.data) := by
  have length := Call.length_data accepted
  obtain ⟨target, content⟩ := call
  cases content with
  | bytes data => exact if_pos length
  | value value bigEndian =>
      have low : Width.low (8 * target.size.toNat) value = value % 256 ^ target.size.toNat := by
        rw [Width.low_eq, Int.pow_mul]
        rfl
      rw [store, writeValue, Width.bits?_of_fits accepted]
      show memory.write target (Bytes.ofNat _ _ (Width.low _ value).toNat) = _
      rw [low]
      exact if_pos length

theorem store_of_refused (memory : Memory) (refused : ¬ call.Accepted) :
    ∃ fault, memory.store call.target call.content = .error fault := by
  obtain ⟨target, content⟩ := call
  cases content with
  | bytes data => exact ⟨.partialWrite, if_neg refused⟩
  | value value bigEndian =>
      have unfit : ¬ Width.Fits target.size := refused
      obtain ⟨fault, bits⟩ := Width.bits?_of_not_fits unfit
      refine ⟨fault, ?_⟩
      rw [store, writeValue, bits]
      rfl

/-- A call is accepted or refused whatever the memory. -/
theorem accepted_iff (memory : Memory) :
    call.Accepted ↔ ∃ written, memory.store call.target call.content = .ok written := by
  constructor
  · intro accepted
    exact ⟨_, store_of_accepted memory accepted⟩
  · rintro ⟨written, stored⟩
    by_contra refused
    obtain ⟨fault, refused⟩ := store_of_refused memory refused
    rw [refused] at stored
    cases stored

/-- The memory after a call. A call that is refused leaves it as it was. -/
def after (memory : Memory) (call : Call) : Memory :=
  match memory.store call.target call.content with
  | .ok written => written
  | .error _ => memory

/-- The memory after calls, one after the other. -/
def afterAll (memory : Memory) (calls : List Call) : Memory :=
  calls.foldl after memory

theorem after_of_accepted (accepted : call.Accepted) :
    memory.after call = memory.put call.target call.data := by
  rw [after, store_of_accepted memory accepted]

theorem after_of_refused (refused : ¬ call.Accepted) : memory.after call = memory := by
  obtain ⟨fault, stored⟩ := store_of_refused memory refused
  rw [after, stored]

/-! ## One call -/

/-- An accepted call has a byte for each cell that it covers. -/
theorem puts_of_covers (accepted : call.Accepted) (covers : call.Covers cell) :
    ∃ byte, call.data[call.position cell]? = some byte ∧ call.Puts cell byte := by
  have length := Call.length_data accepted
  obtain ⟨_, _, after, before⟩ := covers
  have inside : call.position cell < call.data.length := by
    unfold Call.position
    omega
  obtain ⟨target, content⟩ := call
  cases content with
  | bytes data =>
      have there := List.getElem?_eq_getElem inside
      exact ⟨_, there, there⟩
  | value value bigEndian =>
      have inside : Call.position ⟨target, .value value bigEndian⟩ cell < target.size.toNat := by
        simpa [Call.data] using inside
      refine ⟨_, Bytes.getElem?_ofNat bigEndian inside, ?_⟩
      rw [Call.Puts, UInt8.toNat_ofNat']
      exact Bytes.digit_emod value _ (by split <;> omega)

/-- What an accepted call leaves in a cell: its own byte if it covers the cell, else the byte from
before. -/
theorem byte?_after (memory : Memory) (cell : Cell) (accepted : call.Accepted) :
    (memory.after call).byte? cell
      = if call.Covers cell then call.data[call.position cell]? else memory.byte? cell := by
  have length := Call.length_data accepted
  rw [after_of_accepted accepted, byte?_put]
  by_cases covers : call.Covers cell
  · obtain ⟨byte, there, _⟩ := puts_of_covers accepted covers
    have written : Write.byte? ⟨call.target.cell 0, call.data.toArray⟩ cell = some byte := by
      obtain ⟨space, name, after, _⟩ := covers
      simpa [Write.byte?, Varnode.cell, space, name, after, Call.position] using there
    rw [if_pos covers, written, there]
    rfl
  · have missed : Write.byte? ⟨call.target.cell 0, call.data.toArray⟩ cell = none := by
      by_contra written
      obtain ⟨byte, written⟩ := Option.ne_none_iff_exists'.mp written
      simp only [Write.byte?, Varnode.cell, Option.ite_none_right_eq_some,
        List.getElem?_toArray, List.getElem?_eq_some_iff] at written
      obtain ⟨⟨after, space, name⟩, inside, _⟩ := written
      exact covers ⟨space, name, by omega, by omega⟩
    rw [if_neg covers, missed]
    rfl

theorem byte?_after_of_covers (memory : Memory) (accepted : call.Accepted)
    (covers : call.Covers cell) :
    ∃ byte, (memory.after call).byte? cell = some byte ∧ call.Puts cell byte := by
  rw [byte?_after memory cell accepted, if_pos covers]
  exact puts_of_covers accepted covers

/-- A call that is refused, or goes elsewhere, leaves a cell alone. -/
theorem byte?_after_of_not (memory : Memory) (spares : call.Accepted → ¬ call.Covers cell) :
    (memory.after call).byte? cell = memory.byte? cell := by
  by_cases accepted : call.Accepted
  · rw [byte?_after memory cell accepted, if_neg (spares accepted)]
  · rw [after_of_refused accepted]

/-- What a call leaves in a cell depends on that cell alone. -/
theorem byte?_after_congr (call : Call) (same : memory.byte? cell = other.byte? cell) :
    (memory.after call).byte? cell = (other.after call).byte? cell := by
  by_cases accepted : call.Accepted
  · rw [byte?_after memory cell accepted, byte?_after other cell accepted, same]
  · rw [after_of_refused accepted, after_of_refused accepted, same]

/-- A varnode reads as what an accepted call has just written to it. -/
theorem read?_after_self (memory : Memory) (accepted : call.Accepted) :
    (memory.after call).read? call.target = some call.data := by
  have length := Call.length_data accepted
  refine read?_eq_some_iff.mpr ⟨by omega, ?_⟩
  intro i below
  have covers : call.Covers (call.target.cell i) := by
    refine ⟨rfl, rfl, ?_, ?_⟩ <;> simp only [Varnode.cell] <;> omega
  have position : call.position (call.target.cell i) = i := by
    simp only [Call.position, Varnode.cell]
    omega
  rw [byte?_after memory _ accepted, if_pos covers, position]

/-! ## Any number of calls -/

variable {calls before later : List Call} {byte : UInt8}

/-- No call that is accepted covers the cell. -/
def Spared (calls : List Call) (cell : Cell) : Prop :=
  ∀ call ∈ calls, call.Accepted → ¬ call.Covers cell

/-- The last call that is accepted and covers the cell puts a byte there. -/
def LastPuts (calls : List Call) (cell : Cell) (byte : UInt8) : Prop :=
  ∃ before call later, calls = before ++ call :: later
    ∧ call.Accepted ∧ call.Covers cell ∧ call.Puts cell byte ∧ Spared later cell

/-- A cell holds what the last call put there, or what it held before the first. -/
theorem byte?_afterAll (memory : Memory) (calls : List Call) (cell : Cell) :
    Spared calls cell ∧ (memory.afterAll calls).byte? cell = memory.byte? cell
      ∨ ∃ byte, LastPuts calls cell byte ∧ (memory.afterAll calls).byte? cell = some byte := by
  -- The induction is on the calls, from the first. The first call counts if the others spare the
  -- cell.
  induction calls generalizing memory with
  | nil => exact .inl ⟨List.forall_mem_nil _, rfl⟩
  | cons call calls ih =>
      rw [afterAll, List.foldl_cons]
      rcases ih (memory.after call) with ⟨spared, kept⟩ | ⟨byte, last, held⟩
      · by_cases covers : call.Accepted ∧ call.Covers cell
        · obtain ⟨accepted, covers⟩ := covers
          obtain ⟨byte, held, puts⟩ := byte?_after_of_covers memory accepted covers
          exact .inr ⟨byte, ⟨[], call, calls, rfl, accepted, covers, puts, spared⟩,
            kept.trans held⟩
        · have spares : call.Accepted → ¬ call.Covers cell := fun accepted inside =>
            covers ⟨accepted, inside⟩
          exact .inl ⟨List.forall_mem_cons.mpr ⟨spares, spared⟩,
            kept.trans (byte?_after_of_not memory spares)⟩
      · obtain ⟨before, last, later, split, rest⟩ := last
        exact .inr ⟨byte, ⟨call :: before, last, later, by rw [split, List.cons_append], rest⟩,
          held⟩

/-- A call that spares a cell can be left out. -/
theorem byte?_afterAll_leaveOut (memory : Memory) (before later : List Call)
    (spares : call.Accepted → ¬ call.Covers cell) :
    (memory.afterAll (before ++ call :: later)).byte? cell
      = (memory.afterAll (before ++ later)).byte? cell := by
  have onwards : ∀ {memory other : Memory}, memory.byte? cell = other.byte? cell →
      (memory.afterAll later).byte? cell = (other.afterAll later).byte? cell := by
    induction later with
    | nil => exact id
    | cons call later ih => exact fun same => ih (byte?_after_congr call same)
  simp only [afterAll, List.foldl_append, List.foldl_cons]
  exact onwards (byte?_after_of_not _ spares)

/-- Calls that spare a varnode leave what is read of it. -/
theorem read?_afterAll_of_spared {v : Varnode}
    (spared : ∀ call ∈ calls, call.Accepted → ¬ call.Touches v) :
    (memory.afterAll calls).read? v = memory.read? v := by
  refine read?_congr fun i below => ?_
  rcases byte?_afterAll memory calls (v.cell i) with ⟨_, kept⟩ | ⟨byte, last, _⟩
  · exact kept
  · obtain ⟨before, call, later, rfl, accepted, covers, _⟩ := last
    exact absurd ⟨i, below, covers⟩ (spared call (by simp) accepted)

/-- What is read of a varnode after calls: nothing if a byte of it has been spared by all of them,
and else each byte as the last call put it. -/
structure LastWins (calls : List Call) (v : Varnode) (read : Option (List UInt8)) : Prop where
  unknown : read = none ↔ ∃ i : Nat, (i : Int) < v.size ∧ Spared calls (v.cell i)
  length : ∀ bytes, read = some bytes → bytes.length = v.size.toNat
  last : ∀ bytes, read = some bytes → ∀ (i : Nat) byte, bytes[i]? = some byte →
    LastPuts calls (v.cell i) byte

/-- **The last write counts.** Whatever calls are made to an empty memory, a varnode reads as the
last calls left its bytes, and does not read if there are bytes that none of them wrote. A call that
is refused, for bytes that do not fill the varnode or for a width that no number has, counts for
nothing, and neither does a call that touches no byte of the varnode: later reads are as if it had
not been made. -/
theorem lastWins_read? (calls : List Call) (v : Varnode) :
    LastWins calls v ((afterAll {} calls).read? v)
      ∧ (∀ (memory : Memory) (call : Call),
        call.Accepted ↔ ∃ written, memory.store call.target call.content = .ok written)
      ∧ ∀ before call later, calls = before ++ call :: later →
        (call.Accepted → ¬ call.Touches v) →
        (afterAll {} calls).read? v = (afterAll {} (before ++ later)).read? v := by
  have untouched : ∀ {i : Nat}, (afterAll {} calls).byte? (v.cell i) = none →
      Spared calls (v.cell i) := by
    intro i empty
    rcases byte?_afterAll {} calls (v.cell i) with ⟨spared, _⟩ | ⟨byte, _, held⟩
    · exact spared
    · rw [empty] at held
      cases held
  have empty : ∀ {i : Nat}, Spared calls (v.cell i) →
      (afterAll {} calls).byte? (v.cell i) = none := by
    intro i spared
    rcases byte?_afterAll {} calls (v.cell i) with ⟨_, kept⟩ | ⟨_, last, _⟩
    · exact kept
    · obtain ⟨before, call, later, rfl, accepted, covers, _⟩ := last
      exact absurd covers (spared call (by simp) accepted)
  refine ⟨⟨?_, ?_, ?_⟩, fun memory call => accepted_iff memory, ?_⟩
  · rw [read?_eq_none_iff]
    exact ⟨fun ⟨i, below, nothing⟩ => ⟨i, below, untouched nothing⟩,
      fun ⟨i, below, spared⟩ => ⟨i, below, empty spared⟩⟩
  · exact fun bytes read => (read?_eq_some_iff.mp read).1
  · intro bytes read i byte there
    obtain ⟨length, each⟩ := read?_eq_some_iff.mp read
    obtain ⟨inside, _⟩ := List.getElem?_eq_some_iff.mp there
    have held := (each i (by omega)).trans there
    rcases byte?_afterAll {} calls (v.cell i) with ⟨_, kept⟩ | ⟨byte', last, held'⟩
    · rw [kept] at held
      cases held
    · rw [held] at held'
      injection held' with same
      exact same ▸ last
  · rintro before call later rfl spares
    exact read?_congr fun i below =>
      byte?_afterAll_leaveOut {} before later fun accepted covers =>
        spares accepted ⟨i, below, covers⟩

-- The second call names the space of the first. The third has a byte too few.
example :
    (afterAll {} [⟨⟨.unique, -2, 4, none⟩, .value 0x11223344 true⟩,
        ⟨⟨.unique, 0, 1, some "unique"⟩, .bytes [0xFF]⟩,
        ⟨⟨.unique, -1, 2, none⟩, .bytes [0]⟩]).read? ⟨.unique, -1, 3, none⟩
      = some [0x22, 0xFF, 0x44] := by
  decide

end Memory

end PcodePanel
