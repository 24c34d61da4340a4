import Mathlib.Data.List.Induction
import Mathlib.Data.List.Nodup
import PcodePanel.Proofs.Unique.Naming

/-!
# What is collected

Entries are collected one reference at a time, each put in its place among the entries so far. What
comes of it can be said without that order: the entry of an address is made of the references to
this address alone. It has the first of their varnodes, and it is touched in all their ways.

* `Unique.entryOf?_ofReferences` — the entry of an address, from the references to it;
* `Unique.summary_perm` — references in another order give the same addresses and accesses;
* `Unique.Collects`, `Unique.collects_collect` — the entries of code, by its operations.
-/

namespace PcodePanel

namespace Unique

/-! ## Looking up an address -/

section Looking

variable {entries : List Entry} {address : Address} {v : Varnode} {access : Access}

/-- The entry of an address. -/
def entryOf? (entries : List Entry) (address : Address) : Option Entry :=
  entries.find? (·.address = address)

theorem entryOf?_cons (entry : Entry) (entries : List Entry) (address : Address) :
    entryOf? (entry :: entries) address
      = if entry.address = address then some entry else entryOf? entries address := by
  rw [entryOf?, List.find?_cons]
  split <;> simp_all [entryOf?]

/-- An address before the first of ascending entries has no entry. -/
theorem entryOf?_of_before {entry : Entry} (ascending : Ascending (entry :: entries))
    (before : address.before entry.address) : entryOf? (entry :: entries) address = none := by
  have after : ∀ x ∈ entry :: entries, address.before x.address := by
    obtain ⟨first, _⟩ := List.pairwise_cons.mp ascending
    exact List.forall_mem_cons.mpr
      ⟨before, fun x member => Address.before_trans before (first x member)⟩
  refine List.find?_eq_none.mpr fun x member same => ?_
  exact Address.not_before_self (of_decide_eq_true same ▸ after x member)

/-- Ascending entries have one for each address. -/
theorem entryOf?_of_mem (ascending : Ascending entries) {entry : Entry} (member : entry ∈ entries) :
    entryOf? entries entry.address = some entry := by
  cases found : entryOf? entries entry.address with
  | none => exact absurd (List.find?_eq_none.mp found entry member) (by simp)
  | some other =>
      have same : other.address = entry.address := by simpa using List.find?_some found
      rw [List.inj_on_of_nodup_map (nodup_address ascending) (List.mem_of_find?_eq_some found)
        member same]

/-- An insertion leaves the other addresses alone. -/
theorem entryOf?_insert_of_ne (different : address ≠ .of v) :
    entryOf? (insert v access entries) address = entryOf? entries address := by
  have inserted : ∀ rest : List Entry,
      entryOf? ({ varnode := v, access } :: rest) address = entryOf? rest address := by
    intro rest
    rw [entryOf?_cons, if_neg]
    exact different.symm
  induction entries with
  | nil => exact inserted []
  | cons entry entries ih =>
      unfold insert
      split
      · next same =>
        have unequal : entry.address ≠ address := by
          rw [same]
          exact different.symm
        rw [entryOf?_cons, entryOf?_cons, if_neg unequal, if_neg]
        exact unequal
      · split
        · exact inserted _
        · rw [entryOf?_cons, entryOf?_cons, ih]

/-- An entry that one more reference touches, or that it begins. -/
def touchedBy (entry : Option Entry) (v : Varnode) (access : Access) : Entry :=
  match entry with
  | none => { varnode := v, access }
  | some entry => { entry with access := entry.access.join access }

/-- An insertion touches the entry of its address. -/
theorem entryOf?_insert_self (ascending : Ascending entries) :
    entryOf? (insert v access entries) (.of v)
      = some (touchedBy (entryOf? entries (.of v)) v access) := by
  induction entries with
  | nil => exact (entryOf?_cons ..).trans (if_pos rfl)
  | cons entry entries ih =>
      unfold insert
      split
      · next same =>
        rw [entryOf?_cons, entryOf?_cons, if_pos same, if_pos]
        · rfl
        · exact same
      · next different =>
        split
        · next before =>
          rw [entryOf?_of_before ascending before]
          exact (entryOf?_cons ..).trans (if_pos rfl)
        · rw [entryOf?_cons, entryOf?_cons, if_neg different, if_neg different,
            ih (List.pairwise_cons.mp ascending).2]

end Looking

/-! ## Merging references -/

section Merging

variable {references others : List (Varnode × Access)}

/-- The references to an address, in order. -/
def referencesTo (address : Address) (references : List (Varnode × Access)) :
    List (Varnode × Access) :=
  references.filter fun reference => Address.of reference.1 = address

/-- All the ways in which references touch something. -/
def accessOf (references : List (Varnode × Access)) : Access :=
  ⟨references.any (·.2.reads), references.any (·.2.writes)⟩

/-- The entry of references to one address: the first of their varnodes, touched in all their
ways. -/
def merged (references : List (Varnode × Access)) : Option Entry :=
  references.head?.map fun first => { varnode := first.1, access := accessOf references }

theorem merged_concat (references : List (Varnode × Access)) (v : Varnode) (access : Access) :
    merged (references ++ [(v, access)]) = some (touchedBy (merged references) v access) := by
  cases references with
  | nil => simp [merged, accessOf, touchedBy]
  | cons first references =>
      simp [merged, accessOf, touchedBy, Access.join, Bool.or_assoc]

theorem ofReferences_concat (references : List (Varnode × Access)) (v : Varnode)
    (access : Access) :
    ofReferences (references ++ [(v, access)]) = insert v access (ofReferences references) := by
  simp [ofReferences]

/-- **The entry of an address** is what the references to it come to. -/
theorem entryOf?_ofReferences (references : List (Varnode × Access)) (address : Address) :
    entryOf? (ofReferences references) address = merged (referencesTo address references) := by
  -- The last reference is inserted last, and is the last of those that are merged.
  induction references using List.reverseRecOn with
  | nil => rfl
  | append_singleton references reference ih =>
      obtain ⟨v, access⟩ := reference
      rw [ofReferences_concat, referencesTo, List.filter_append]
      by_cases same : address = .of v
      · subst same
        rw [entryOf?_insert_self (ascending_ofReferences references), ih,
          List.filter_cons_of_pos (by simp), List.filter_nil, merged_concat]
        rfl
      · rw [entryOf?_insert_of_ne same, ih, List.filter_cons_of_neg (by simpa using Ne.symm same),
          List.filter_nil, List.append_nil]
        rfl

theorem merged_of_mem {entry : Entry} (member : entry ∈ ofReferences references) :
    merged (referencesTo entry.address references) = some entry := by
  rw [← entryOf?_ofReferences]
  exact entryOf?_of_mem (ascending_ofReferences references) member

theorem eq_of_mem {entry : Entry} (member : entry ∈ ofReferences references) :
    entry = { varnode := entry.varnode, access := entry.access } := by
  obtain ⟨first, _, same⟩ := Option.map_eq_some_iff.mp (merged_of_mem member)
  rw [← same]

theorem access_of_mem {entry : Entry} (member : entry ∈ ofReferences references) :
    entry.access = accessOf (referencesTo entry.address references) := by
  obtain ⟨first, _, same⟩ := Option.map_eq_some_iff.mp (merged_of_mem member)
  exact (congrArg Entry.access same).symm

theorem varnode_of_mem {entry : Entry} (member : entry ∈ ofReferences references) :
    (references.map Prod.fst).find? (fun v => Address.of v = entry.address)
      = some entry.varnode := by
  obtain ⟨first, head, same⟩ := Option.map_eq_some_iff.mp (merged_of_mem member)
  rw [referencesTo, List.head?_filter] at head
  have varnode : first.1 = entry.varnode := congrArg Entry.varnode same
  rw [List.find?_map, ← varnode]
  exact congrArg (Option.map Prod.fst) head

/-! ## References in another order -/

/-- The place of an entry and how it is touched. -/
def Entry.summary (entry : Entry) : Address × Access :=
  (entry.address, entry.access)

/-- Ascending addresses are known by what is among them. -/
theorem eq_of_ascending {addresses others : List Address}
    (ascending : addresses.Pairwise Address.before)
    (ascendingOthers : others.Pairwise Address.before)
    (same : ∀ address, address ∈ addresses ↔ address ∈ others) : addresses = others := by
  refine List.Perm.eq_of_pairwise ?_ ascending ascendingOthers
    ((List.perm_ext_iff_of_nodup (Address.nodup_of_ascending ascending)
      (Address.nodup_of_ascending ascendingOthers)).mpr same)
  intro a b _ _ before after
  exact absurd (Address.before_trans before after) Address.not_before_self

theorem accessOf_perm (perm : references.Perm others) : accessOf references = accessOf others := by
  rw [accessOf, accessOf, perm.any_eq, perm.any_eq]

theorem summaries_ofReferences (references : List (Varnode × Access)) :
    (ofReferences references).map Entry.summary
      = ((ofReferences references).map Entry.address).map fun address =>
        (address, accessOf (referencesTo address references)) := by
  rw [List.map_map]
  refine List.map_congr_left fun entry member => ?_
  rw [Entry.summary, access_of_mem member]
  rfl

/-- **Order does not matter.** References in another order give entries of the same addresses that
are touched in the same ways. -/
theorem summary_perm (perm : references.Perm others) :
    (ofReferences references).map Entry.summary = (ofReferences others).map Entry.summary := by
  have sorted : ∀ references,
      ((ofReferences references).map Entry.address).Pairwise Address.before :=
    fun references => List.pairwise_map.mpr (ascending_ofReferences references)
  have addresses : (ofReferences references).map Entry.address
      = (ofReferences others).map Entry.address := by
    refine eq_of_ascending (sorted references) (sorted others) fun address => ?_
    rw [ofReferences, ofReferences, address_mem_foldl_iff, address_mem_foldl_iff,
      (perm.map fun reference => Address.of reference.1).mem_iff]
  rw [summaries_ofReferences, summaries_ofReferences, addresses]
  refine List.map_congr_left fun address _ => ?_
  rw [referencesTo, referencesTo, accessOf_perm (perm.filter _)]

end Merging

/-! ## The entries of code -/

variable {ops others : List MicroOp} {address : Address}

/-- The varnode is the temporary at an address. -/
def Address.Holds (address : Address) (v : Varnode) : Prop :=
  v.isUnique = true ∧ .of v = address

instance (address : Address) (v : Varnode) : Decidable (address.Holds v) :=
  inferInstanceAs (Decidable (_ ∧ _))

/-- An operation writes the temporary at an address: it is the output. -/
def Address.WrittenBy (address : Address) (op : MicroOp) : Prop :=
  ∃ v ∈ op.output, address.Holds v

/-- An operation reads the temporary at an address: it is an input. -/
def Address.ReadBy (address : Address) (op : MicroOp) : Prop :=
  ∃ v ∈ op.inputs, address.Holds v

/-- Entries are those of operations: one for each address at which an operation has a temporary, in
ascending order, with the ways in which operations touch it. An entry has the first varnode for its
address, with the operations in order and the output of each before its inputs; its contents are not
known yet, and it has no data type. -/
structure Collects (ops : List MicroOp) (entries : List Entry) : Prop where
  ascending : Ascending entries
  addresses : ∀ address : Address, address ∈ entries.map Entry.address
    ↔ ∃ op ∈ ops, address.WrittenBy op ∨ address.ReadBy op
  writes : ∀ entry ∈ entries, entry.access.writes = true ↔ ∃ op ∈ ops, entry.address.WrittenBy op
  reads : ∀ entry ∈ entries, entry.access.reads = true ↔ ∃ op ∈ ops, entry.address.ReadBy op
  touched : ∀ entry ∈ entries, entry.access ≠ {}
  first : ∀ entry ∈ entries,
    (ops.flatMap MicroOp.varnodes).find? (entry.address.Holds ·) = some entry.varnode
  plain : ∀ entry ∈ entries, entry = { varnode := entry.varnode, access := entry.access }

theorem mem_references_iff {v : Varnode} {access : Access} :
    (v, access) ∈ references ops ↔ ∃ op ∈ ops, v.isUnique = true
      ∧ (v ∈ op.output ∧ access = .write ∨ v ∈ op.inputs ∧ access = .read) := by
  rw [references, List.mem_flatMap]
  refine exists_congr fun op => and_congr_right fun _ => ?_
  rw [MicroOp.references, List.mem_append, List.mem_map, List.mem_map]
  constructor
  · rintro (⟨_, member, same⟩ | ⟨_, member, same⟩)
    · cases same
      obtain ⟨output, unique⟩ := List.mem_filter.mp member
      exact ⟨unique, .inl ⟨Option.mem_toList.mp output, rfl⟩⟩
    · cases same
      obtain ⟨input, unique⟩ := List.mem_filter.mp member
      exact ⟨unique, .inr ⟨input, rfl⟩⟩
  · rintro ⟨unique, ⟨output, rfl⟩ | ⟨input, rfl⟩⟩
    · exact .inl ⟨v, List.mem_filter.mpr ⟨Option.mem_toList.mpr output, unique⟩, rfl⟩
    · exact .inr ⟨v, List.mem_filter.mpr ⟨input, unique⟩, rfl⟩

/-- Code refers to an address in some way if an operation writes or reads it in that way. -/
theorem exists_reference_iff (ops : List MicroOp) (address : Address) (way : Access → Prop) :
    (∃ reference ∈ references ops, Address.of reference.1 = address ∧ way reference.2)
      ↔ ∃ op ∈ ops,
        address.WrittenBy op ∧ way .write ∨ address.ReadBy op ∧ way .read := by
  constructor
  · rintro ⟨⟨v, access⟩, member, here, touches⟩
    obtain ⟨op, inside, unique, ⟨output, rfl⟩ | ⟨input, rfl⟩⟩ := mem_references_iff.mp member
    · exact ⟨op, inside, .inl ⟨⟨v, output, unique, here⟩, touches⟩⟩
    · exact ⟨op, inside, .inr ⟨⟨v, input, unique, here⟩, touches⟩⟩
  · rintro ⟨op, inside, ⟨⟨v, output, unique, here⟩, touches⟩ | ⟨⟨v, input, unique, here⟩, touches⟩⟩
    · exact ⟨(v, .write), mem_references_iff.mpr ⟨op, inside, unique, .inl ⟨output, rfl⟩⟩, here,
        touches⟩
    · exact ⟨(v, .read), mem_references_iff.mpr ⟨op, inside, unique, .inr ⟨input, rfl⟩⟩, here,
        touches⟩

theorem map_fst_references (ops : List MicroOp) :
    (references ops).map Prod.fst = (ops.flatMap MicroOp.varnodes).filter Varnode.isUnique := by
  rw [references, List.map_flatMap, List.filter_flatMap]
  congr 1
  funext op
  simp [MicroOp.references, MicroOp.varnodes, Function.comp_def]

theorem collects_ofReferences (ops : List MicroOp) :
    Collects ops (ofReferences (references ops)) := by
  have addresses : ∀ address : Address,
      address ∈ (ofReferences (references ops)).map Entry.address
        ↔ ∃ op ∈ ops, address.WrittenBy op ∨ address.ReadBy op := by
    intro address
    have touched := exists_reference_iff ops address fun _ => True
    rw [ofReferences, address_mem_foldl_iff]
    simpa using touched
  have writes : ∀ entry ∈ ofReferences (references ops),
      entry.access.writes = true ↔ ∃ op ∈ ops, entry.address.WrittenBy op := by
    intro entry member
    have written := exists_reference_iff ops entry.address (·.writes = true)
    rw [access_of_mem member]
    simpa [accessOf, referencesTo, Access.write, Access.read] using written
  have reads : ∀ entry ∈ ofReferences (references ops),
      entry.access.reads = true ↔ ∃ op ∈ ops, entry.address.ReadBy op := by
    intro entry member
    have read := exists_reference_iff ops entry.address (·.reads = true)
    rw [access_of_mem member]
    simpa [accessOf, referencesTo, Access.write, Access.read] using read
  refine ⟨ascending_ofReferences _, addresses, writes, reads, ?_, ?_,
    fun _ => eq_of_mem⟩
  · intro entry member untouched
    obtain ⟨op, inside, written | read⟩ :=
      (addresses entry.address).mp (List.mem_map_of_mem member)
    · have writes := (writes entry member).mpr ⟨op, inside, written⟩
      rw [untouched] at writes
      cases writes
    · have reads := (reads entry member).mpr ⟨op, inside, read⟩
      rw [untouched] at reads
      cases reads
  · intro entry member
    have found := varnode_of_mem member
    rw [map_fst_references, List.find?_filter] at found
    rw [← found]
    congr 1
    funext v
    exact decide_eq_decide.mpr (and_congr_right fun _ => decide_eq_true_iff.symm)

/-! ## Code in another order -/

/-- Operations in another order, with the inputs of each in another order. -/
def Reordered (ops others : List MicroOp) : Prop :=
  ∃ moved, ops.Perm moved ∧ List.Forall₂
    (fun op other => ∃ inputs, op.inputs.Perm inputs ∧ other = { op with inputs }) moved others

theorem Reordered.references (h : Reordered ops others) :
    (Unique.references ops).Perm (Unique.references others) := by
  obtain ⟨moved, perm, each⟩ := h
  refine (perm.flatMap_right MicroOp.references).trans ?_
  clear perm
  unfold Unique.references
  induction each with
  | nil => exact .nil
  | cons first _ ih =>
      obtain ⟨inputs, perm, rfl⟩ := first
      exact (((perm.filter _).map _).append_left _).append ih

/-- **What is collected.** The entries of a frame are those of its operations. With the operations
and the inputs of each in another order, the same addresses are touched in the same ways. -/
theorem collects_collect (frame : Frame) :
    Collects frame.code (collect frame)
      ∧ ∀ other : Frame, Reordered frame.code other.code →
        (collect other).map Entry.summary = (collect frame).map Entry.summary :=
  ⟨collects_ofReferences frame.code, fun _ reordered => (summary_perm reordered.references).symm⟩

/-- A temporary is added to itself; part of it is written from another one, whose space is named. -/
def Sample.adding : Frame where
  code :=
    [⟨19, some ⟨.unique, 0x10, 4, none⟩,
        [⟨.unique, 0x10, 4, none⟩, ⟨.constant, 1, 4, none⟩], ⟨0, 0⟩⟩,
     ⟨62, some ⟨.unique, 0x10, 2, none⟩,
        [⟨.unique, -8, 4, some "tmp"⟩, ⟨.unique, -8, 4, none⟩, ⟨.register, 0x10, 4, none⟩], ⟨0, 1⟩⟩]

/-- The same from the end. -/
def Sample.addingReversed : Frame where
  code := (adding.code.map fun op => { op with inputs := op.inputs.reverse }).reverse

/-- Five references are collected in three entries. Which of two varnodes stands for an address
depends on the order, and nothing else does. -/
theorem collects_collect_adding :
    Reordered Sample.adding.code Sample.addingReversed.code
      ∧ (collect Sample.adding).map Entry.varnode
        = [⟨.unique, -8, 4, some "tmp"⟩, ⟨.unique, 0x10, 2, none⟩, ⟨.unique, 0x10, 4, none⟩]
      ∧ (collect Sample.addingReversed).map Entry.varnode
        = [⟨.unique, -8, 4, none⟩, ⟨.unique, 0x10, 2, none⟩, ⟨.unique, 0x10, 4, none⟩]
      ∧ Collects Sample.adding.code (collect Sample.adding)
      ∧ (collect Sample.addingReversed).map Entry.summary
        = (collect Sample.adding).map Entry.summary := by
  have reordered : Reordered Sample.adding.code Sample.addingReversed.code :=
    ⟨_, (List.reverse_perm _).symm,
      .cons ⟨_, (List.reverse_perm _).symm, rfl⟩ (.cons ⟨_, (List.reverse_perm _).symm, rfl⟩ .nil)⟩
  obtain ⟨collects, same⟩ := collects_collect Sample.adding
  exact ⟨reordered, by decide, by decide, collects, same _ reordered⟩

end Unique

end PcodePanel
