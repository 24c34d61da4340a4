import PcodePanel.Proofs.Unique.Decoding

/-!
# Giving data types

A data type is given to an entry in a transaction: the catalog learns the type, and the entry is
decoded in it. If any part of this fails, the catalog is as it was.

* `Catalog.Learns` — what a catalog is like after it has resolved a type;
* `Entry.Represents` — the text of an entry is that of a type;
* `Entry.assign_eq_error` — what is refused leaves the catalog alone;
* `Entry.given_of_assign` — what giving a type comes to.
-/

namespace PcodePanel

/-! ## Catalogs -/

namespace Catalog

variable {catalog catalog' : Catalog} {type : DataType}

/-- How a catalog comes to know a type: it does already, or the name is free and the type is
added. -/
inductive Learns (catalog : Catalog) (type : DataType) : Catalog → Prop
  | known : catalog.get? type.name = some type → Learns catalog type catalog
  | added : catalog.get? type.name = none →
      Learns catalog type { catalog with types := catalog.types ++ [type] }

/-- The type that a catalog resolves a type to is an equal one. -/
theorem learns_of_resolve {resolved : DataType}
    (h : catalog.resolve type = .ok (resolved, catalog')) :
    resolved = type ∧ Learns catalog type catalog' := by
  unfold resolve at h
  split at h
  · cases h
  · split at h
    · next unknown =>
      cases h
      exact ⟨rfl, .added unknown⟩
    · next known found =>
      split at h
      · next same =>
        cases h
        subst same
        exact ⟨rfl, .known found⟩
      · cases h

/-- What was known means the same afterwards. -/
theorem Learns.get?_of_known (h : Learns catalog type catalog') {name : String} {other : DataType}
    (found : catalog.get? name = some other) : catalog'.get? name = some other := by
  cases h with
  | known => exact found
  | added => exact (List.prefix_append ..).find?_eq_some found

theorem Learns.get? (h : Learns catalog type catalog') :
    catalog'.get? type.name = some type := by
  cases h with
  | known found => exact found
  | added unknown =>
      have others : catalog.types.find? (·.name = type.name) = none := unknown
      show (catalog.types ++ [type]).find? (·.name = type.name) = some type
      rw [List.find?_append, others]
      simp

theorem Learns.depth (h : Learns catalog type catalog') : catalog'.depth = catalog.depth := by
  cases h <;> rfl

/-- To learn a type in a transaction that ends well is to learn it. -/
theorem Learns.closed (h : Learns catalog.opened type catalog') :
    Learns catalog type (closed catalog catalog' true) := by
  cases h with
  | known found => exact .known found
  | added unknown => exact .added unknown

/-- A transaction that fails puts the types back; the body closes what it opens. -/
theorem closed_of_depth (depth : catalog'.depth = catalog.opened.depth) :
    closed catalog catalog' false = catalog := by
  unfold closed
  rw [depth]
  rfl

end Catalog

/-! ## Entries -/

namespace Unique.Entry

variable {entry decoded updated : Entry} {type : DataType} {memory : Memory} {language : Language}
  {catalog catalog' : Catalog}

/-- The text of the entry is that of a type for its bytes, or says that these are not known. -/
def Represents (entry : Entry) (type : DataType) (bigEndian : Bool) : Prop :=
  match entry.contents with
  | none => entry.representation = unknownText
  | some contents => type.represent contents.bytes bigEndian = .ok entry.representation

theorem represents_of_decode (h : entry.decode memory language = .ok decoded)
    (typed : entry.dataType = some type) : decoded.Represents type language.bigEndian := by
  unfold decode at h
  split at h
  · cases h
    rfl
  · obtain ⟨representation, represented, h⟩ := bind_eq_ok_iff.mp h
    cases h
    rw [typed] at represented
    exact represented

theorem depth_assignResolved (entry : Entry) (type : DataType) (memory : Memory)
    (language : Language) (catalog : Catalog) :
    (entry.assignResolved type memory language catalog).2.depth = catalog.depth := by
  unfold assignResolved
  split
  · rfl
  · next resolved =>
    obtain ⟨_, learns⟩ := Catalog.learns_of_resolve resolved
    split
    · exact learns.depth
    · split <;> exact learns.depth

/-- What is refused leaves the catalog as it was. -/
theorem assign_eq_error {type : Option DataType} {fault : Fault}
    (h : entry.assign type catalog memory language = (.error fault, catalog')) :
    catalog' = catalog := by
  unfold assign at h
  split at h
  · exact (Prod.mk.inj h).2.symm
  · next type =>
    have depth := entry.depth_assignResolved type memory language catalog.opened
    unfold Catalog.transaction at h
    split at h
    · cases h
    · next failed =>
      rw [failed] at depth
      cases h
      exact Catalog.closed_of_depth depth

/-- What giving a data type to an entry comes to, or taking it away. -/
structure Given (entry : Entry) (type : Option DataType) (catalog : Catalog) (memory : Memory)
    (language : Language) (updated : Entry) (catalog' : Catalog) : Prop where
  subject : updated.subject = entry.subject
  dataType : updated.dataType = type
  decoded : updated.decode memory language = .ok updated
  fits : ∀ given, type = some given → given.length ≤ entry.varnode.size
  learns : ∀ given, type = some given → Catalog.Learns catalog given catalog'
  untouched : type = none → catalog' = catalog

theorem given_of_assignResolved
    (h : entry.assignResolved type memory language catalog = (.ok updated, catalog')) :
    updated.dataType = some type ∧ type.length ≤ entry.varnode.size
      ∧ Catalog.Learns catalog type catalog' := by
  unfold assignResolved at h
  split at h
  · cases h
  · next resolved =>
    obtain ⟨rfl, learns⟩ := Catalog.learns_of_resolve resolved
    split at h
    · cases h
    · next fits =>
      split at h
      · next decodes =>
        cases h
        exact ⟨(dataType_decode decodes).trans rfl, Int.not_lt.mp fits, learns⟩
      · cases h

theorem given_of_assign {type : Option DataType}
    (h : entry.assign type catalog memory language = (.ok updated, catalog')) :
    entry.Given type catalog memory language updated catalog' := by
  have subject := subject_assign h
  have decoded := decode_assign h
  unfold assign at h
  split at h
  · injection h with decodes same
    refine ⟨subject, (dataType_decode decodes).trans rfl, decoded, ?_, ?_, fun _ => same.symm⟩
    · intro given absent
      cases absent
    · intro given absent
      cases absent
  · next type =>
    unfold Catalog.transaction at h
    split at h
    · next resolved =>
      obtain ⟨dataType, fits, learns⟩ := given_of_assignResolved resolved
      cases h
      refine ⟨subject, dataType, decoded, ?_, ?_, fun absent => ?_⟩
      · intro given same
        cases same
        exact fits
      · intro given same
        cases same
        exact learns.closed
      · cases absent
    · cases h

end Unique.Entry

end PcodePanel
