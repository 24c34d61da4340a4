import Mathlib.Data.List.Forall2
import PcodePanel.Proofs.Unique.Address

/-!
# Decoding again

Decoding an entry reads its bytes anew and forgets what the entry knew of them before. So it depends
on nothing but the subject and the data type, and decoding again over the same memory changes
nothing: an entry is *up to date* if decoding it gives the entry itself.

* `Entry.decode_congr`, `Entry.decode_again` — what decoding depends on;
* `Entry.decode_assign` — an entry that was given a data type is up to date;
* `Entry.Untyped` — the entry without its data type;
* `Unique.untyped_of_decodeAll` — to decode a frame anew is to take all data types away.
-/

namespace PcodePanel.Unique

namespace Entry

variable {entry other decoded : Entry} {memory : Memory} {language : Language}

/-- Decoding depends on the subject and on the data type. -/
theorem decode_congr (subject : entry.subject = other.subject)
    (dataType : entry.dataType = other.dataType) :
    entry.decode memory language = other.decode memory language := by
  obtain ⟨varnode, access, contents, type, representation⟩ := entry
  obtain ⟨varnode', access', contents', type', representation'⟩ := other
  injection subject with sameVarnode sameAccess
  cases dataType
  subst sameVarnode sameAccess
  rfl

/-- Decoding keeps the data type. -/
theorem dataType_decode (h : entry.decode memory language = .ok decoded) :
    decoded.dataType = entry.dataType := by
  unfold decode at h
  split at h
  · cases h
    rfl
  · obtain ⟨representation, _, h⟩ := bind_eq_ok_iff.mp h
    cases h
    rfl

/-- What was decoded is up to date. -/
theorem decode_again (h : entry.decode memory language = .ok decoded) :
    decoded.decode memory language = .ok decoded := by
  rw [decode_congr (subject_decode h) (dataType_decode h), h]

/-- The bytes that are read do not depend on the data type. -/
theorem contents_decode {decoded' : Entry} (subject : entry.subject = other.subject)
    (h : entry.decode memory language = .ok decoded)
    (h' : other.decode memory language = .ok decoded') : decoded.contents = decoded'.contents := by
  have varnode : entry.varnode = other.varnode := congrArg Prod.fst subject
  unfold decode at h h'
  rw [varnode] at h
  cases read : memory.read? other.varnode with
  | none =>
      rw [read] at h h'
      cases h
      cases h'
      rfl
  | some bytes =>
      rw [read] at h h'
      obtain ⟨_, _, h⟩ := bind_eq_ok_iff.mp h
      obtain ⟨_, _, h'⟩ := bind_eq_ok_iff.mp h'
      cases h
      cases h'
      rfl

/-- A temporary with a byte that was never written is decoded as unknown. -/
theorem decode_of_unread (unread : memory.read? entry.varnode = none) :
    entry.decode memory language
      = .ok { entry with contents := none, representation := unknownText } := by
  rw [decode, unread]

/-- A temporary that has been written is decoded with its bytes. Only the text may be refused. -/
theorem decode_of_read {bytes : List UInt8} (read : memory.read? entry.varnode = some bytes) :
    let contents : Contents := ⟨bytes, Bytes.toNat language.bigEndian bytes⟩
    entry.decode memory language
      = (representationOf entry.dataType contents language.bigEndian).map fun representation =>
        { entry with contents := some contents, representation } := by
  rw [decode, read]
  dsimp only
  cases representationOf entry.dataType _ language.bigEndian <;> rfl

/-- What is unknown of a decoded entry has not been written. -/
theorem unread_of_decode (h : entry.decode memory language = .ok decoded)
    (unknown : decoded.contents = none) :
    memory.read? entry.varnode = none ∧ decoded.representation = unknownText := by
  cases read : memory.read? entry.varnode with
  | none =>
      rw [decode_of_unread read] at h
      cases h
      exact ⟨rfl, rfl⟩
  | some bytes =>
      rw [decode, read] at h
      obtain ⟨representation, _, h⟩ := bind_eq_ok_iff.mp h
      cases h
      cases unknown

/-- What is known of a decoded entry is what the memory holds of it. -/
theorem read_of_decode {contents : Contents} (h : entry.decode memory language = .ok decoded)
    (known : decoded.contents = some contents) :
    memory.read? entry.varnode = some contents.bytes
      ∧ contents.value = Bytes.toNat language.bigEndian contents.bytes
      ∧ representationOf entry.dataType contents language.bigEndian
        = .ok decoded.representation := by
  cases read : memory.read? entry.varnode with
  | none =>
      rw [decode_of_unread read] at h
      cases h
      cases known
  | some bytes =>
      rw [decode, read] at h
      obtain ⟨representation, shown, h⟩ := bind_eq_ok_iff.mp h
      cases h
      cases known
      exact ⟨rfl, rfl, shown⟩

theorem decode_assignResolved {type : DataType} {catalog catalog' : Catalog}
    (h : entry.assignResolved type memory language catalog = (.ok decoded, catalog')) :
    decoded.decode memory language = .ok decoded := by
  unfold assignResolved at h
  split at h
  · cases h
  · split at h
    · cases h
    · split at h
      · next done =>
        cases h
        exact decode_again done
      · cases h

/-- An entry that was given a data type, or from which it was taken, is up to date. -/
theorem decode_assign {type : Option DataType} {catalog catalog' : Catalog}
    (h : entry.assign type catalog memory language = (.ok decoded, catalog')) :
    decoded.decode memory language = .ok decoded := by
  unfold assign at h
  split at h
  · injection h with h _
    exact decode_again h
  · unfold Catalog.transaction at h
    split at h
    · next resolved =>
      cases h
      exact decode_assignResolved resolved
    · cases h

/-- An entry decoded anew without a data type: the same place and the same bytes, and the very same
entry if it did not have a data type. -/
structure Untyped (memory : Memory) (language : Language) (entry untyped : Entry) : Prop where
  subject : untyped.subject = entry.subject
  contents : untyped.contents = entry.contents
  decoded : Entry.decode { entry with dataType := none } memory language = .ok untyped
  same : entry.dataType = none → untyped = entry

/-- To decode the subject of an entry that is up to date is to take its data type away. -/
theorem Untyped.ofDecode (current : entry.decode memory language = .ok entry)
    (subject : other.subject = entry.subject) (plain : other.dataType = none)
    (h : other.decode memory language = .ok decoded) : Untyped memory language entry decoded := by
  refine ⟨(subject_decode h).trans subject, contents_decode subject h current, ?_, ?_⟩
  · rw [← h]
    exact decode_congr subject.symm plain.symm
  · intro untyped
    rw [decode_congr subject (plain.trans untyped.symm), current] at h
    injection h with h
    exact h.symm

end Entry

variable {entries fresh : List Entry} {memory : Memory} {language : Language}

/-- Entries are decoded one by one. -/
theorem decodeAll_eq_ok_iff : decodeAll entries memory language = .ok fresh
    ↔ List.Forall₂ (fun entry decoded => entry.decode memory language = .ok decoded) entries
      fresh :=
  mapM_eq_ok_iff

/-- What was decoded is up to date. -/
theorem decode_of_mem_decodeAll (h : decodeAll entries memory language = .ok fresh) :
    ∀ entry ∈ fresh, entry.decode memory language = .ok entry := by
  have each := decodeAll_eq_ok_iff.mp h
  clear h
  induction each with
  | nil => exact List.forall_mem_nil _
  | cons first _ ih => exact List.forall_mem_cons.mpr ⟨Entry.decode_again first, ih⟩

/-- What is collected has no data type yet. -/
theorem dataType_of_mem_insert {v : Varnode} {access : Access}
    (plain : ∀ entry ∈ entries, entry.dataType = none) :
    ∀ entry ∈ insert v access entries, entry.dataType = none := by
  induction entries with
  | nil => exact List.forall_mem_singleton.mpr rfl
  | cons entry entries ih =>
      obtain ⟨first, rest⟩ := List.forall_mem_cons.mp plain
      unfold insert
      split
      · exact List.forall_mem_cons.mpr ⟨first, rest⟩
      · split
        · exact List.forall_mem_cons.mpr ⟨rfl, plain⟩
        · exact List.forall_mem_cons.mpr ⟨first, ih rest⟩

theorem dataType_of_mem_foldl_insert {references : List (Varnode × Access)}
    (plain : ∀ entry ∈ entries, entry.dataType = none) :
    ∀ entry ∈ references.foldl (fun entries (v, access) => insert v access entries) entries,
      entry.dataType = none := by
  induction references generalizing entries with
  | nil => exact plain
  | cons reference references ih => exact ih (dataType_of_mem_insert plain)

theorem dataType_of_mem_collect (frame : Frame) :
    ∀ entry ∈ collect frame, entry.dataType = none :=
  dataType_of_mem_foldl_insert (List.forall_mem_nil _)

/-- So has what is collected and decoded. -/
theorem dataType_of_mem_decodeAll_collect {frame : Frame}
    (h : decodeAll (collect frame) memory language = .ok fresh) :
    ∀ entry ∈ fresh, entry.dataType = none := by
  have plain := dataType_of_mem_collect frame
  have each := decodeAll_eq_ok_iff.mp h
  clear h
  generalize collect frame = collected at plain each
  induction each with
  | nil => exact List.forall_mem_nil _
  | cons first _ ih =>
      obtain ⟨plainFirst, plainRest⟩ := List.forall_mem_cons.mp plain
      exact List.forall_mem_cons.mpr
        ⟨(Entry.dataType_decode first).trans plainFirst, ih plainRest⟩

/-- **Decoding a frame anew.** Over entries of the frame that are up to date it takes their data
types away, and changes nothing else. -/
theorem untyped_of_decodeAll {frame : Frame}
    (subjects : entries.map Entry.subject = (collect frame).map Entry.subject)
    (current : ∀ entry ∈ entries, entry.decode memory language = .ok entry)
    (h : decodeAll (collect frame) memory language = .ok fresh) :
    List.Forall₂ (Entry.Untyped memory language) entries fresh := by
  have plain := dataType_of_mem_collect frame
  have each := decodeAll_eq_ok_iff.mp h
  clear h
  -- The induction goes along the collected entries, with the shown and the fresh ones beside them.
  generalize collect frame = collected at subjects plain each
  induction each generalizing entries with
  | nil =>
      rw [List.map_eq_nil_iff.mp subjects]
      exact .nil
  | cons first _ ih =>
      cases entries with
      | nil => cases subjects
      | cons entry entries =>
          injection subjects with subject subjects
          obtain ⟨currentFirst, currentRest⟩ := List.forall_mem_cons.mp current
          obtain ⟨plainFirst, plainRest⟩ := List.forall_mem_cons.mp plain
          exact .cons (.ofDecode currentFirst subject.symm plainFirst first)
            (ih currentRest subjects plainRest)

end PcodePanel.Unique
