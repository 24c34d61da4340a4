import PcodePanel.Memory
import PcodePanel.Pcode.Frame
import PcodePanel.Unique.Entry

/-!
# Decoding temporaries

* `Unique.Entry.decode` reads an entry's bytes from a memory and shows their value: in the entry's
  data type, or else in hexadecimal and decimal. A temporary of which a byte was never written is
  unknown.
-/

namespace PcodePanel.Unique

namespace Entry

/-- The text of known contents: in the data type, if there is one. -/
def representationOf (type : Option DataType) (contents : Contents) (bigEndian : Bool) :
    Except Fault String :=
  match type with
  | some type => type.represent contents.bytes bigEndian
  | none => Notation.untyped contents.value

/-- The entry with what the memory holds of it. -/
def decode (entry : Entry) (memory : Memory) (language : Language) : Except Fault Entry :=
  match memory.read? entry.varnode with
  | none => .ok { entry with contents := none, representation := unknownText }
  | some bytes => do
    let contents : Contents := ⟨bytes, Bytes.toNat language.bigEndian bytes⟩
    let representation ← representationOf entry.dataType contents language.bigEndian
    return { entry with contents := some contents, representation }

end Entry

/-- The entries with what the memory holds of them. -/
def decodeAll (entries : List Entry) (memory : Memory) (language : Language) :
    Except Fault (List Entry) :=
  entries.mapM fun entry => entry.decode memory language

end PcodePanel.Unique
