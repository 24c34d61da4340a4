import PcodePanel.Proofs.Result
import PcodePanel.Unique.Assign
import PcodePanel.Unique.Collect

/-!
# Entries and their addresses

What an entry is about, its varnode and how the code touches it, is settled when the entries are
collected. Decoding an entry or giving it a data type changes neither.

* `Unique.ascending_collect` — collected entries ascend strictly by address;
* `Entry.subject_decode`, `Entry.subject_assign`, `Unique.subjects_decodeAll` — subjects stay.
-/

namespace PcodePanel.Unique

/-! ## The order of addresses -/

theorem Address.before_trans {a b c : Address} (h₁ : a.before b) (h₂ : b.before c) :
    a.before c := by
  unfold before at *
  omega

theorem Address.before_of_not_before {a b : Address} (different : b ≠ a) (h : ¬ a.before b) :
    b.before a := by
  have unequal : ¬ (b.offset = a.offset ∧ b.size = a.size) := by
    rintro ⟨offset, size⟩
    apply different
    cases a
    cases b
    rw [mk.injEq]
    exact ⟨offset, size⟩
  unfold before at *
  omega

theorem Address.not_before_self {a : Address} : ¬ a.before a := by
  unfold before
  omega

/-- Ascending addresses differ. -/
theorem Address.nodup_of_ascending {addresses : List Address} (h : addresses.Pairwise before) :
    addresses.Nodup := by
  refine h.imp ?_
  intro a b earlier same
  rw [same] at earlier
  exact not_before_self earlier

/-- Entries in strictly ascending order. -/
def Ascending (entries : List Entry) : Prop :=
  entries.Pairwise fun a b => a.address.before b.address

theorem nodup_address {entries : List Entry} (h : Ascending entries) :
    (entries.map Entry.address).Nodup :=
  Address.nodup_of_ascending (List.pairwise_map.mpr h)

/-! ## Collecting -/

/-- An insertion adds the address of the varnode and keeps the others. -/
theorem address_mem_insert_iff {v : Varnode} {access : Access} {entries : List Entry}
    {address : Address} :
    address ∈ (insert v access entries).map Entry.address
      ↔ address = .of v ∨ address ∈ entries.map Entry.address := by
  induction entries with
  | nil => simp [insert, Entry.address]
  | cons entry entries ih =>
      unfold insert
      split
      · next same =>
        rw [List.map_cons, List.map_cons, List.mem_cons, List.mem_cons, same, ← or_assoc, or_self]
        exact Iff.of_eq (congrArg (fun first => address = first ∨ _) same)
      · split
        · rw [List.map_cons, List.mem_cons]
          rfl
        · rw [List.map_cons, List.mem_cons, ih, List.map_cons, List.mem_cons, or_left_comm]

/-- What an insertion adds has the address of the varnode. -/
theorem address_of_mem_insert {v : Varnode} {access : Access} {entries : List Entry} {x : Entry}
    (member : x ∈ insert v access entries) :
    x.address = .of v ∨ ∃ y ∈ entries, x.address = y.address := by
  rcases address_mem_insert_iff.mp (List.mem_map_of_mem member) with same | isOld
  · exact .inl same
  · obtain ⟨y, inside, same⟩ := List.mem_map.mp isOld
    exact .inr ⟨y, inside, same.symm⟩

theorem ascending_insert {v : Varnode} {access : Access} {entries : List Entry}
    (h : Ascending entries) : Ascending (insert v access entries) := by
  induction entries with
  | nil => exact List.pairwise_singleton _ _
  | cons entry entries ih =>
      obtain ⟨first, rest⟩ := List.pairwise_cons.mp h
      unfold insert
      split
      · exact List.pairwise_cons.mpr ⟨first, rest⟩
      · next different =>
        split
        · next before =>
          -- What comes before the first entry comes before all of them.
          refine List.pairwise_cons.mpr ⟨?_, h⟩
          intro x member
          rcases List.mem_cons.mp member with rfl | member
          · exact before
          · exact Address.before_trans before (first x member)
        · next notBefore =>
          -- What is inserted further back has the new address or an old one. Both are after the
          -- first entry.
          refine List.pairwise_cons.mpr ⟨?_, ih rest⟩
          intro x member
          rcases address_of_mem_insert member with same | ⟨y, isOld, same⟩
          · rw [same]
            exact Address.before_of_not_before different notBefore
          · rw [same]
            exact first y isOld

theorem ascending_foldl_insert {references : List (Varnode × Access)} {entries : List Entry}
    (h : Ascending entries) :
    Ascending (references.foldl (fun entries (v, access) => insert v access entries) entries) := by
  induction references generalizing entries with
  | nil => exact h
  | cons reference references ih => exact ih (ascending_insert h)

theorem ascending_ofReferences (references : List (Varnode × Access)) :
    Ascending (ofReferences references) :=
  ascending_foldl_insert List.Pairwise.nil

/-- **Order of the entries.** Whatever the code, its temporaries are collected in strictly ascending
order, so no address occurs twice. -/
theorem ascending_collect (frame : Frame) : Ascending (collect frame) :=
  ascending_ofReferences _

/-! ## Subjects -/

/-- What an entry is about. -/
def Entry.subject (entry : Entry) : Varnode × Access :=
  (entry.varnode, entry.access)

theorem Entry.subject_decode {entry decoded : Entry} {memory : Memory} {language : Language}
    (h : entry.decode memory language = .ok decoded) : decoded.subject = entry.subject := by
  unfold decode at h
  split at h
  · injection h with h
    rw [← h]
    rfl
  · obtain ⟨representation, _, h⟩ := bind_eq_ok_iff.mp h
    injection h with h
    rw [← h]
    rfl

theorem Entry.subject_assignResolved {entry updated : Entry} {type : DataType} {memory : Memory}
    {language : Language} {catalog catalog' : Catalog}
    (h : entry.assignResolved type memory language catalog = (.ok updated, catalog')) :
    updated.subject = entry.subject := by
  unfold assignResolved at h
  split at h
  · cases h
  · split at h
    · cases h
    · split at h
      · next decoded =>
        cases h
        exact (subject_decode decoded).trans rfl
      · cases h

theorem Entry.subject_assign {entry updated : Entry} {type : Option DataType} {memory : Memory}
    {language : Language} {catalog catalog' : Catalog}
    (h : entry.assign type catalog memory language = (.ok updated, catalog')) :
    updated.subject = entry.subject := by
  unfold assign at h
  split at h
  · injection h with h _
    exact (subject_decode h).trans rfl
  · unfold Catalog.transaction at h
    split at h
    · next resolved =>
      cases h
      exact subject_assignResolved resolved
    · cases h

theorem subjects_decodeAll {entries decoded : List Entry} {memory : Memory} {language : Language}
    (h : decodeAll entries memory language = .ok decoded) :
    decoded.map Entry.subject = entries.map Entry.subject := by
  unfold decodeAll at h
  induction entries generalizing decoded with
  | nil =>
      injection h with h
      rw [← h]
      rfl
  | cons entry entries ih =>
      rw [List.mapM_cons] at h
      obtain ⟨decodedEntry, first, h⟩ := bind_eq_ok_iff.mp h
      obtain ⟨decodedEntries, rest, h⟩ := bind_eq_ok_iff.mp h
      injection h with h
      rw [← h, List.map_cons, List.map_cons, Entry.subject_decode first, ih rest]

/-- The entry of an index is the one at its position. -/
theorem entryAt_eq_ok {entries : List Entry} {index : Int} {position : Nat} {entry : Entry}
    (h : entryAt entries index = .ok (position, entry)) : entries[position]? = some entry := by
  unfold entryAt at h
  extract_lets place at h
  split at h
  · cases h
  · split at h
    · cases h
    · split at h
      · next found =>
        cases h
        exact found
      · cases h

/-- A negative index counts from the end. -/
theorem place_of_entryAt {entries : List Entry} {index : Int} {position : Nat} {entry : Entry}
    (h : entryAt entries index = .ok (position, entry)) :
    (position : Int) = if index < 0 then index + entries.length else index := by
  unfold entryAt at h
  extract_lets place at h
  split at h
  · cases h
  · split at h
    · cases h
    · next nonneg =>
      split at h
      · cases h
        exact Int.toNat_of_nonneg (by omega)
      · cases h

/-- Another entry with the same subject can take the place of one. -/
theorem subjects_set {entries : List Entry} {position : Nat} {entry updated : Entry}
    (there : entries[position]? = some entry) (same : updated.subject = entry.subject) :
    (entries.set position updated).map Entry.subject = entries.map Entry.subject := by
  apply List.ext_getElem?
  intro i
  rw [List.getElem?_map, List.getElem?_map, List.getElem?_set]
  split
  · next here =>
    subst here
    split
    · rw [there, Option.map_some, Option.map_some, same]
    · next beyond => exact absurd (List.getElem?_eq_some_iff.mp there).1 beyond
  · rfl

/-- The order of entries is that of their subjects. -/
theorem ascending_of_subjects {entries entries' : List Entry}
    (same : entries'.map Entry.subject = entries.map Entry.subject) (h : Ascending entries) :
    Ascending entries' := by
  have viaSubjects : ∀ entries : List Entry, Ascending entries ↔
      (entries.map Entry.subject).Pairwise fun a b =>
        (Address.of a.1).before (Address.of b.1) := by
    intro entries
    rw [List.pairwise_map]
    rfl
  rw [viaSubjects, same, ← viaSubjects]
  exact h

end PcodePanel.Unique
