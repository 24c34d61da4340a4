import PcodePanel.Catalog.Basic
import PcodePanel.Unique.Decode

/-!
# Giving data types to temporaries

* `Unique.Entry.assign` resolves a data type in a catalog and decodes an entry in it. The type has
  to fit the entry and to interpret its bytes; otherwise the catalog is left as it was. Taking the
  type away decodes the entry without one and does not touch the catalog.
-/

namespace PcodePanel.Unique.Entry

/-- The families of faults that say that a type cannot interpret bytes. -/
def isInterpretationFault (fault : Fault) : Bool :=
  fault.kind ∈ [.value, .key, .index, .layout]

/-- The fault of a type that is too long for the entry. Its wording may be refused. -/
def tooLong (entry : Entry) (type : DataType) : Fault :=
  match Numeral.write type.length, entry.name with
  | .ok _, .ok name => .typeTooLong type.name type.length name
  | .error fault, _ => fault
  | _, .error fault => fault

/-- The fault that is reported when decoding the entry in a type fails: that the type cannot
interpret the bytes, or the fault itself if it has another reason. The wording may be refused. -/
def decodeFault (entry : Entry) (type : DataType) (fault : Fault) : Fault :=
  if isInterpretationFault fault then
    match entry.name with
    | .ok name => .uninterpretable type.name name fault.message
    | .error refused => refused
  else fault

/-- Decodes the entry in a type that the catalog resolves, inside of a transaction. -/
def assignResolved (entry : Entry) (type : DataType) (memory : Memory) (language : Language)
    (catalog : Catalog) : Except Fault Entry × Catalog :=
  match catalog.resolve type with
  | .error fault => (.error fault, catalog)
  | .ok (resolved, catalog) =>
    if entry.varnode.size < resolved.length then
      (.error (entry.tooLong resolved), catalog)
    else
      match Entry.decode { entry with dataType := some resolved } memory language with
      | .ok decoded => (.ok decoded, catalog)
      | .error fault => (.error (entry.decodeFault resolved fault), catalog)

/-- The entry decoded in a data type, or without one, and the catalog after that. -/
def assign (entry : Entry) (type : Option DataType) (catalog : Catalog) (memory : Memory)
    (language : Language) : Except Fault Entry × Catalog :=
  match type with
  | none => (Entry.decode { entry with dataType := none } memory language, catalog)
  | some type => catalog.transaction (entry.assignResolved type memory language)

end PcodePanel.Unique.Entry
