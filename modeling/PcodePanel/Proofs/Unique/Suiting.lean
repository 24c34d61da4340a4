import PcodePanel.Proofs.Unique.Assigning
import PcodePanel.Proofs.Unique.Naming

/-!
# Types that suit a temporary

A data type suits an entry if the catalog admits it, if it is not longer than the temporary, and if
it interprets the bytes, in case these are known. These are looked at in this order, and the first
that fails is reported.

* `Catalog.Admits`, `Unique.Entry.Suits` — what is asked of a type;
* `Unique.Entry.fst_assign_of_admits` — what giving a type answers, apart from the catalog;
* `Unique.Entry.Verdict`, `Unique.Entry.verdict_assign` — what comes of it in every case.

A report names sizes in decimal. If one of them is too long to be written, that is the fault
instead; so it may be of another kind than those of data types: see
`Unique.Entry.assign_unwordable`.
-/

namespace PcodePanel

-- Powers are those of core, whatever else is in scope.
attribute [local instance (10000)] instPowNat

/-! ## Catalogs -/

namespace Catalog

variable {catalog : Catalog} {type : DataType}

/-- A catalog admits a type if the name is free or stands for an equal type. -/
def Admits (catalog : Catalog) (type : DataType) : Prop :=
  ∀ known, catalog.get? type.name = some known → known = type

theorem resolve_of_admits (inside : catalog.depth ≠ 0) (admits : catalog.Admits type) :
    ∃ catalog', catalog.resolve type = .ok (type, catalog') := by
  unfold resolve
  rw [if_neg inside]
  cases found : catalog.get? type.name with
  | none => exact ⟨_, rfl⟩
  | some known =>
      cases admits known found
      exact ⟨_, if_pos rfl⟩

theorem resolve_of_not_admits (inside : catalog.depth ≠ 0) (taken : ¬ catalog.Admits type) :
    catalog.resolve type = .error (.conflictingType type.name) := by
  unfold Admits at taken
  push Not at taken
  obtain ⟨known, found, different⟩ := taken
  rw [resolve, if_neg inside, found]
  exact if_neg different

/-- A transaction answers what its body answers. -/
theorem fst_transaction {α : Type} (catalog : Catalog) (body : Catalog → Except Fault α × Catalog) :
    (catalog.transaction body).1 = (body catalog.opened).1 := by
  unfold transaction
  split
  · next done => rw [done]
  · next failed => rw [failed]

end Catalog

/-! ## Entries -/

namespace Unique.Entry

variable {entry : Entry} {type : DataType} {catalog : Catalog} {memory : Memory}
  {language : Language}

/-- A type suits an entry: the catalog admits it, it is not too long, and it interprets the bytes,
if they are known. -/
structure Suits (entry : Entry) (type : DataType) (catalog : Catalog) (memory : Memory)
    (language : Language) : Prop where
  admitted : catalog.Admits type
  fits : type.length ≤ entry.varnode.size
  interprets : ∀ bytes, memory.read? entry.varnode = some bytes →
    ∃ text, type.represent bytes language.bigEndian = .ok text

/-! ### What is answered -/

/-- A type that the catalog admits is refused if it is too long, or else if the entry cannot be
decoded in it. -/
theorem fst_assign_of_admits (admits : catalog.Admits type) :
    (entry.assign (some type) catalog memory language).1
      = if entry.varnode.size < type.length then .error (entry.tooLong type)
        else (Entry.decode { entry with dataType := some type } memory language).mapError
          (entry.decodeFault type) := by
  have inside : catalog.opened.depth ≠ 0 := Nat.succ_ne_zero _
  obtain ⟨catalog', resolved⟩ := Catalog.resolve_of_admits inside admits
  rw [assign, Catalog.fst_transaction, assignResolved, resolved]
  dsimp only
  split
  · rfl
  · cases Entry.decode { entry with dataType := some type } memory language <;> rfl

theorem fst_assign_of_not_admits (taken : ¬ catalog.Admits type) :
    (entry.assign (some type) catalog memory language).1
      = .error (.conflictingType type.name) := by
  have inside : catalog.opened.depth ≠ 0 := Nat.succ_ne_zero _
  rw [assign, Catalog.fst_transaction, assignResolved,
    Catalog.resolve_of_not_admits inside taken]

theorem fst_assign_of_tooLong (admits : catalog.Admits type)
    (long : entry.varnode.size < type.length) :
    (entry.assign (some type) catalog memory language).1 = .error (entry.tooLong type) := by
  rw [fst_assign_of_admits admits, if_pos long]

theorem fst_assign_of_uninterpretable {bytes : List UInt8} {cause : Fault}
    (admits : catalog.Admits type) (fits : type.length ≤ entry.varnode.size)
    (read : memory.read? entry.varnode = some bytes)
    (refused : type.represent bytes language.bigEndian = .error cause) :
    (entry.assign (some type) catalog memory language).1
      = .error (entry.decodeFault type cause) := by
  have decodes : Entry.decode { entry with dataType := some type } memory language = _ :=
    decode_of_read read
  rw [fst_assign_of_admits admits, if_neg (Int.not_lt.mpr fits), decodes, representationOf, refused]
  rfl

/-- What is refused leaves the catalog as it was. -/
theorem snd_assign_of_refused {type : Option DataType} {fault : Fault}
    (refused : (entry.assign type catalog memory language).1 = .error fault) :
    (entry.assign type catalog memory language).2 = catalog :=
  assign_eq_error (Prod.ext refused rfl)

/-- A type that suits is given. -/
theorem exists_of_suits (suits : entry.Suits type catalog memory language) :
    ∃ updated, (entry.assign (some type) catalog memory language).1 = .ok updated := by
  rw [fst_assign_of_admits suits.admitted, if_neg (Int.not_lt.mpr suits.fits)]
  cases read : memory.read? entry.varnode with
  | none =>
      have decodes : Entry.decode { entry with dataType := some type } memory language = _ :=
        decode_of_unread read
      rw [decodes]
      exact ⟨_, rfl⟩
  | some bytes =>
      obtain ⟨text, represents⟩ := suits.interprets bytes read
      have decodes : Entry.decode { entry with dataType := some type } memory language = _ :=
        decode_of_read read
      rw [decodes, representationOf, represents]
      exact ⟨_, rfl⟩

/-- What is given suits. -/
theorem suits_of_fst_assign {updated : Entry}
    (given : (entry.assign (some type) catalog memory language).1 = .ok updated) :
    entry.Suits type catalog memory language := by
  have admitted : catalog.Admits type := by
    by_contra taken
    rw [fst_assign_of_not_admits taken] at given
    cases given
  have fits : type.length ≤ entry.varnode.size := by
    by_contra long
    rw [fst_assign_of_tooLong admitted (Int.not_le.mp long)] at given
    cases given
  refine ⟨admitted, fits, fun bytes read => ?_⟩
  cases represented : type.represent bytes language.bigEndian with
  | ok text => exact ⟨text, rfl⟩
  | error cause =>
      rw [fst_assign_of_uninterpretable admitted fits read represented] at given
      cases given

/-! ### What is reported -/

/-- How a fault is reported whose wording has numbers in it: as it is, and then it is one of a data
type; or if one of the numbers is too long to be written, as that. -/
structure Reported (cause : Fault) (numbers : List Int) (fault : Fault) : Prop where
  worded : (∀ n ∈ numbers, Numeral.Short n) → fault = cause ∧ fault.kind = .resolution
  unworded : (∃ n ∈ numbers, ¬ Numeral.Short n) → fault = .numeralTooLong

theorem name_of_short (short : Numeral.Short entry.varnode.size) :
    entry.name = .ok entry.address.text :=
  unique_of_short short

theorem name_of_long (long : ¬ Numeral.Short entry.varnode.size) :
    entry.name = .error .numeralTooLong := by
  rw [name, Notation.unique, Numeral.write_eq_error_iff.mpr ⟨long, rfl⟩]
  rfl

theorem reported_conflictingType (name : String) :
    Reported (.conflictingType name) [] (.conflictingType name) :=
  ⟨fun _ => ⟨rfl, rfl⟩, fun ⟨_, member, _⟩ => absurd member List.not_mem_nil⟩

theorem reported_tooLong (entry : Entry) (type : DataType) :
    Reported (.typeTooLong type.name type.length entry.address.text)
      [type.length, entry.varnode.size] (entry.tooLong type) := by
  -- To unfold the definition by its equation would evaluate the digit limit.
  constructor
  · intro short
    delta tooLong
    rw [Numeral.write_of_short (short _ (by simp)), name_of_short (short _ (by simp))]
    exact ⟨rfl, rfl⟩
  · rintro ⟨n, member, long⟩
    delta tooLong
    cases written : Numeral.write type.length with
    | error fault => exact (Numeral.write_eq_error_iff.mp written).2
    | ok text =>
        have short : Numeral.Short type.length := (Numeral.write_eq_ok_iff.mp written).1
        rcases List.mem_cons.mp member with rfl | member
        · exact absurd short long
        · rw [List.mem_singleton.mp member] at long
          rw [name_of_long long]

theorem reported_decodeFault (entry : Entry) (type : DataType) {cause : Fault}
    (interpretation : cause.kind ∈ [.value, .key, .index, .layout]) :
    Reported (.uninterpretable type.name entry.address.text cause.message) [entry.varnode.size]
      (entry.decodeFault type cause) := by
  have interprets : isInterpretationFault cause = true := decide_eq_true interpretation
  constructor
  · intro short
    rw [decodeFault, if_pos interprets, name_of_short (short _ (by simp))]
    exact ⟨rfl, rfl⟩
  · rintro ⟨n, member, long⟩
    rw [List.mem_singleton.mp member] at long
    rw [decodeFault, if_pos interprets, name_of_long long]

theorem decodeFault_of_foreign (entry : Entry) (type : DataType) {cause : Fault}
    (foreign : cause.kind ∉ [.value, .key, .index, .layout]) :
    entry.decodeFault type cause = cause :=
  if_neg (by simpa [isInterpretationFault] using foreign)

/-! ### Every case -/

/-- What comes of giving a type to an entry. -/
structure Verdict (entry : Entry) (type : DataType) (catalog : Catalog) (memory : Memory)
    (language : Language) (result : Except Fault Entry × Catalog) : Prop where
  /-- It is given just if it suits. -/
  suits : (∃ updated, result.1 = .ok updated) ↔ entry.Suits type catalog memory language
  /-- Then the catalog learns it, and the entry is decoded in the catalog's own type of that name,
  which is an equal one. -/
  given : ∀ updated, result.1 = .ok updated → catalog.Learns type result.2
    ∧ ∃ own, result.2.get? type.name = some own ∧ own = type
      ∧ Entry.decode { entry with dataType := some own } memory language = .ok updated
  /-- Otherwise the catalog stays as it was, with the transactions that are open in it. -/
  undone : ∀ fault, result.1 = .error fault → result.2 = catalog
  /-- First the name must not stand for another type. -/
  conflicting : ¬ catalog.Admits type →
    ∃ fault, result.1 = .error fault ∧ Reported (.conflictingType type.name) [] fault
  /-- Then the type must not be too long. -/
  tooLong : catalog.Admits type → entry.varnode.size < type.length →
    ∃ fault, result.1 = .error fault
      ∧ Reported (.typeTooLong type.name type.length entry.address.text)
        [type.length, entry.varnode.size] fault
  /-- Then it must interpret the bytes. -/
  uninterpretable : catalog.Admits type → type.length ≤ entry.varnode.size →
    ∀ bytes cause, memory.read? entry.varnode = some bytes →
      type.represent bytes language.bigEndian = .error cause →
      cause.kind ∈ [.value, .key, .index, .layout] →
      ∃ fault, result.1 = .error fault
        ∧ Reported (.uninterpretable type.name entry.address.text cause.message)
          [entry.varnode.size] fault
  /-- What goes wrong in another way than an interpretation can is passed on. -/
  foreign : catalog.Admits type → type.length ≤ entry.varnode.size →
    ∀ bytes cause, memory.read? entry.varnode = some bytes →
      type.represent bytes language.bigEndian = .error cause →
      cause.kind ∉ [.value, .key, .index, .layout] → result.1 = .error cause

/-- What a type is given as. -/
theorem given_fst_assign {updated : Entry}
    (given : (entry.assign (some type) catalog memory language).1 = .ok updated) :
    catalog.Learns type (entry.assign (some type) catalog memory language).2
      ∧ Entry.decode { entry with dataType := some type } memory language = .ok updated := by
  have whole : entry.assign (some type) catalog memory language
      = (.ok updated, (entry.assign (some type) catalog memory language).2) := Prod.ext given rfl
  have suits := suits_of_fst_assign given
  refine ⟨(given_of_assign whole).learns type rfl, ?_⟩
  rw [fst_assign_of_admits suits.admitted, if_neg (Int.not_lt.mpr suits.fits)] at given
  cases decodes : Entry.decode { entry with dataType := some type } memory language with
  | ok decoded =>
      rw [decodes] at given
      exact given
  | error fault =>
      rw [decodes] at given
      cases given

/-- **Giving a type.** Whatever the entry, the type, the catalog and the memory: a type is given
just if it suits, and the catalog then knows it; what is refused is reported, and the catalog is as
it was. To take the type away decodes the entry without one, and does not touch the catalog. -/
theorem verdict_assign (entry : Entry) (type : DataType) (catalog : Catalog) (memory : Memory)
    (language : Language) :
    Verdict entry type catalog memory language (entry.assign (some type) catalog memory language)
      ∧ entry.assign none catalog memory language
        = (Entry.decode { entry with dataType := none } memory language, catalog) := by
  refine ⟨⟨⟨?_, exists_of_suits⟩, ?_, ?_, ?_, ?_, ?_, ?_⟩, rfl⟩
  · rintro ⟨updated, given⟩
    exact suits_of_fst_assign given
  · intro updated given
    obtain ⟨learns, decoded⟩ := given_fst_assign given
    exact ⟨learns, type, learns.get?, rfl, decoded⟩
  · exact fun fault => snd_assign_of_refused
  · intro taken
    exact ⟨_, fst_assign_of_not_admits taken, reported_conflictingType _⟩
  · intro admits long
    exact ⟨_, fst_assign_of_tooLong admits long, reported_tooLong entry type⟩
  · intro admits fits bytes cause read refused interpretation
    exact ⟨_, fst_assign_of_uninterpretable admits fits read refused,
      reported_decodeFault entry type interpretation⟩
  · intro admits fits bytes cause read refused foreign
    rw [fst_assign_of_uninterpretable admits fits read refused,
      decodeFault_of_foreign entry type foreign]

/-- A temporary of four bytes. -/
def Sample.four : Entry where
  varnode := ⟨.unique, 0, 4, none⟩

/-- Memory with its bytes. -/
def Sample.fourBytes : Memory :=
  Memory.put {} Sample.four.varnode [0xFE, 0xFF, 0xFF, 0xFF]

/-- A language that puts the lowest byte first. -/
def Sample.lowestFirst : Language where
  name := "low"

/-- A type of foreign code that misses a name when it is to interpret bytes. -/
def Sample.nameless : DataType := .foreign "nameless" 4 [] (.failure ⟨.key, ["unit"]⟩)

/-- One that fails as no interpretation does. -/
def Sample.broken : DataType := .foreign "broken" 4 [] (.failure ⟨.runtime, ["stopped"]⟩)

/-- A new integer type. -/
def Sample.counter : DataType := .integer "counter" 2 true

/-- Inside of an open transaction, a type that misses a name is reported, one that is broken fails
as it does, and neither stays in the catalog; a type that suits does. -/
theorem verdict_assign_inside :
    let inside := Catalog.builtin.opened
    let assigned := fun type => Sample.four.assign (some type) inside Sample.fourBytes
      Sample.lowestFirst
    assigned Sample.nameless = (.error (.uninterpretable "nameless" "$U0:4" "'unit'"), inside)
      ∧ assigned Sample.broken = (.error (.raised ⟨.runtime, ["stopped"]⟩), inside)
      ∧ (∃ updated, (assigned Sample.counter).1 = .ok updated)
      ∧ (assigned Sample.counter).2
        = { inside with types := inside.types ++ [Sample.counter] } := by
  intro inside assigned
  have verdict : ∀ type, Verdict Sample.four type inside Sample.fourBytes Sample.lowestFirst
      (assigned type) := fun type => (verdict_assign ..).1
  have admits : ∀ type : DataType, inside.get? type.name = none → inside.Admits type := by
    intro type free known found
    rw [free] at found
    cases found
  have nameless := admits Sample.nameless (by decide +kernel)
  have broken := admits Sample.broken (by decide +kernel)
  have free : inside.get? Sample.counter.name = none := by decide +kernel
  have read : Sample.fourBytes.read? Sample.four.varnode = some [0xFE, 0xFF, 0xFF, 0xFF] := by
    decide
  have suits : Sample.four.Suits Sample.counter inside Sample.fourBytes Sample.lowestFirst := by
    refine ⟨admits _ free, by decide, fun bytes known => ?_⟩
    rw [read] at known
    cases known
    exact ⟨"-2", by decide +kernel⟩
  obtain ⟨updated, given⟩ := (verdict Sample.counter).suits.mpr suits
  refine ⟨?_, ?_, ⟨updated, given⟩, ?_⟩
  · obtain ⟨fault, refused, reported⟩ :=
      (verdict Sample.nameless).uninterpretable nameless (by decide) _ _ read rfl (by decide)
    have same := (reported.worded (by decide +kernel)).1
    have text : Sample.four.address.text = "$U0:4" := by decide +kernel
    have undone := (verdict Sample.nameless).undone fault refused
    rw [same, text] at refused
    exact Prod.ext refused undone
  · have refused :=
      (verdict Sample.broken).foreign broken (by decide) _ _ read rfl (by decide)
    exact Prod.ext refused ((verdict Sample.broken).undone _ refused)
  · obtain ⟨learns, _⟩ := (verdict Sample.counter).given updated given
    generalize (assigned Sample.counter).2 = after at learns ⊢
    cases learns with
    | known found =>
        rw [free] at found
        cases found
    | added => rfl

/-- A type with a length of more digits than can be written. -/
def Sample.endless : DataType := .integer "endless" (10 ^ Numeral.digitLimit) false

/-- A type that is too long need not be reported as one. If its length is too long to be written,
the fault is of another kind. -/
theorem assign_unwordable :
    Catalog.builtin.Admits Sample.endless
      ∧ Sample.four.varnode.size < Sample.endless.length
      ∧ ∃ fault, Sample.four.assign (some Sample.endless) .builtin Sample.fourBytes
          Sample.lowestFirst = (.error fault, .builtin)
        ∧ fault.kind = .value := by
  have admits : Catalog.builtin.Admits Sample.endless := by
    intro known found
    have free : Catalog.builtin.get? Sample.endless.name = none := by decide +kernel
    rw [free] at found
    cases found
  have long : Sample.four.varnode.size < Sample.endless.length := by decide +kernel
  have refused : (Sample.four.assign (some Sample.endless) .builtin Sample.fourBytes
      Sample.lowestFirst).1 = .error .numeralTooLong := by
    have unworded := (reported_tooLong Sample.four Sample.endless).unworded
      ⟨_, List.mem_cons_self, by decide +kernel⟩
    rw [fst_assign_of_tooLong admits long, unworded]
  have undone := snd_assign_of_refused refused
  exact ⟨admits, long, .numeralTooLong, Prod.ext refused undone, rfl⟩

end Unique.Entry

end PcodePanel
