import Mathlib.Data.List.Perm.Subperm
import PcodePanel.Proofs.Numeral.Reading
import PcodePanel.Proofs.Unique.Address

/-!
# Names of temporaries

A temporary is named after its offset in hexadecimal and its size in decimal. A numeral belongs to
one integer, and neither has a colon, which stands between the two; so different temporaries have
different names.

* `Unique.Address.text_injective` — a name belongs to one address;
* `Unique.address_mem_collect_iff` — what the entries of a frame are named after.
-/

namespace PcodePanel

/-! ## Names -/

namespace Unique

/-- The name of the temporary at an address. -/
def Address.text (address : Address) : String :=
  "$U" ++ Numeral.hex address.offset ++ ":" ++ Numeral.decimal address.size

theorem unique_of_short {offset size : Int} (short : Numeral.Short size) :
    Notation.unique offset size = .ok (Address.text ⟨offset, size⟩) := by
  rw [Notation.unique, Numeral.write_of_short short]
  rfl

/-- **Names.** A name belongs to one address, whatever the offset and the size. -/
theorem Address.text_injective : Function.Injective Address.text := by
  rintro ⟨offset, size⟩ ⟨offset', size'⟩ same
  have characters : Numeral.written 16 offset ++ ':' :: Numeral.written 10 size
      = Numeral.written 16 offset' ++ ':' :: Numeral.written 10 size' := by
    have all := congrArg String.toList same
    simpa [text, Numeral.hex, Numeral.decimal, Numeral.written, String.toList_append] using all
  obtain ⟨offsets, _, sizes⟩ := (List.append_cons_inj_of_notMem
    (Numeral.colon_notMem_written (by decide) (by decide) offset)
    (Numeral.colon_notMem_written (by decide) (by decide) size)).mp characters
  rw [mk.injEq]
  exact ⟨Numeral.written_inj (by decide) (by decide) offsets,
    Numeral.written_inj (by decide) (by decide) sizes⟩

/-! ## What is named -/

/-- The addresses of the temporaries among varnodes, in order. -/
def addresses (varnodes : List Varnode) : List Address :=
  (varnodes.filter Varnode.isUnique).map .of

theorem addresses_append (first second : List Varnode) :
    addresses (first ++ second) = addresses first ++ addresses second := by
  simp [addresses]

theorem length_addresses (varnodes : List Varnode) :
    (addresses varnodes).length = varnodes.countP Varnode.isUnique := by
  rw [addresses, List.length_map, List.countP_eq_length_filter]

theorem addresses_flatMap {α : Type} (list : List α) (varnodes : α → List Varnode) :
    addresses (list.flatMap varnodes) = list.flatMap fun a => addresses (varnodes a) := by
  simp [addresses, List.filter_flatMap, List.map_flatMap]

theorem map_address_references (ops : List MicroOp) :
    (references ops).map (fun reference => Address.of reference.1)
      = addresses (ops.flatMap MicroOp.varnodes) := by
  rw [references, List.map_flatMap, addresses_flatMap]
  congr 1
  funext op
  simp [MicroOp.references, MicroOp.varnodes, addresses, Function.comp_def]

theorem address_mem_foldl_iff {references : List (Varnode × Access)} {entries : List Entry}
    {address : Address} :
    address ∈ (references.foldl (fun entries (v, access) => insert v access entries) entries).map
        Entry.address
      ↔ address ∈ references.map (fun reference => Address.of reference.1)
        ∨ address ∈ entries.map Entry.address := by
  induction references generalizing entries with
  | nil => simp
  | cons reference references ih =>
      rw [List.foldl_cons, ih, address_mem_insert_iff, List.map_cons, List.mem_cons, or_assoc,
        or_left_comm]

/-- **What is collected.** The entries of a frame have the addresses of the temporaries in its
code. -/
theorem address_mem_collect_iff {frame : Frame} {address : Address} :
    address ∈ (collect frame).map Entry.address
      ↔ address ∈ addresses (frame.code.flatMap MicroOp.varnodes) := by
  rw [collect, ofReferences, address_mem_foldl_iff, map_address_references]
  simp

/-- No two of them have the same. -/
theorem nodup_address_collect (frame : Frame) : ((collect frame).map Entry.address).Nodup :=
  nodup_address (ascending_collect frame)

/-- If the sizes of the temporaries in its code are short enough, the entries of a frame have
names. -/
theorem names_collect {frame : Frame}
    (short : ∀ address ∈ addresses (frame.code.flatMap MicroOp.varnodes),
      Numeral.Short address.size) :
    (collect frame).mapM Entry.name
      = .ok (((collect frame).map Entry.address).map Address.text) := by
  rw [List.map_map]
  refine mapM_eq_ok_iff.mpr (List.forall₂_map_right_iff.mpr (List.forall₂_same.mpr ?_))
  intro entry member
  exact unique_of_short (short entry.address
    (address_mem_collect_iff.mp (List.mem_map_of_mem member)))

/-- The entries of a frame are no more than the temporaries in its code. -/
theorem length_collect_le (frame : Frame) :
    (collect frame).length ≤ (frame.code.flatMap MicroOp.varnodes).countP Varnode.isUnique := by
  have inside : (collect frame).map Entry.address
      ⊆ addresses (frame.code.flatMap MicroOp.varnodes) :=
    fun _ => address_mem_collect_iff.mp
  have fewer := (List.subperm_of_subset (nodup_address_collect frame) inside).length_le
  rw [List.length_map, length_addresses] at fewer
  exact fewer

end Unique

end PcodePanel
