import PcodePanel.Proofs.DataType.Foreign
import PcodePanel.Proofs.Memory.LastWrite
import PcodePanel.Proofs.Numeral.Reading
import PcodePanel.Proofs.Unique.Decoding

/-!
# What is shown of a temporary

Bytes are shown in pairs of digits and a number in two numerals, and both can be read back. What is
known never looks like what is not, unless foreign code makes it look so. So an entry tells whether
its temporary has been written, and after a number was written to it, which number, as far as it
fits.

* `ShowsBytes`, `ShowsValue` — texts from which bytes and a number can be read;
* `Unique.Entry.MadeUnknown` — foreign code shows a known value as unknown;
* `Unique.Entry.TellsWritten`, `Unique.Entry.tellsWritten_of_decode` — when an entry is unknown;
* `Unique.Entry.decode_written` — decoding undoes writing.
-/

namespace PcodePanel

-- Powers are those of core, whatever else is in scope.
attribute [local instance (10000)] instPowNat

/-! ## Texts that can be read -/

/-- A text shows bytes: a pair of hexadecimal digits for each in order, with blanks between. -/
def ShowsBytes (text : String) (bytes : List UInt8) : Prop :=
  ∃ pairs : List String, text = " ".intercalate pairs
    ∧ List.Forall₂ (fun pair byte =>
      pair.length = 2 ∧ Numeral.readLiteral ("0x" ++ pair) = .ok (byte.toNat : Int)) pairs bytes

/-- A text shows a number: a hexadecimal numeral, and a decimal one in parentheses. -/
def ShowsValue (text : String) (value : Nat) : Prop :=
  ∃ hexadecimal decimal : String, text = hexadecimal ++ " (" ++ decimal ++ ")"
    ∧ Numeral.readLiteral hexadecimal = .ok (value : Int)
    ∧ Numeral.read? decimal.toList = some (value : Int)

theorem showsBytes_bytes (bytes : List UInt8) : ShowsBytes (Notation.bytes bytes) bytes := by
  refine ⟨_, rfl, List.forall₂_map_left_iff.mpr (List.forall₂_same.mpr ?_)⟩
  intro b _
  exact ⟨by simp [Numeral.hexByte], Numeral.readLiteral_hexByte b⟩

theorem showsValue_untyped {value : Nat} (short : Numeral.Short value) :
    ∃ text, Notation.untyped value = .ok text ∧ ShowsValue text value := by
  refine ⟨_, bind_eq_ok_iff.mpr ⟨_, Numeral.write_of_short short, rfl⟩, _, _, rfl, ?_, ?_⟩
  · exact Numeral.readLiteral_hex value
  · exact Numeral.read?_decimal short

/-! ## Texts of what is known -/

/-- What is unknown is shown by two marks. -/
theorem ne_unknown_of_notMem {text : String} (unmarked : '?' ∉ text.toList) :
    text ≠ Unique.unknownText := by
  rintro rfl
  exact unmarked (by decide)

namespace Numeral

theorem digitChar_ne_mark : ∀ d < 16, Nat.digitChar d ≠ '?' := by
  decide

theorem mark_notMem_toDigits (base : Nat) (large : 1 < base) (shown : base ≤ 16) (n : Nat) :
    '?' ∉ Nat.toDigits base n := by
  intro member
  obtain ⟨d, below, same⟩ := mem_toDigits large member
  exact digitChar_ne_mark d (by omega) same.symm

theorem mark_notMem_sign (n : Int) : '?' ∉ (sign n).toList := by
  unfold sign
  split <;> decide

theorem mark_notMem_decimal (n : Int) : '?' ∉ (decimal n).toList :=
  show '?' ∉ written 10 n from
    notMem_written (by decide) (by decide) n (by decide) digitChar_ne_mark

theorem mark_notMem_hex (n : Int) : '?' ∉ (hex n).toList :=
  show '?' ∉ written 16 n from
    notMem_written (by decide) (by decide) n (by decide) digitChar_ne_mark

end Numeral

namespace Binary64

theorem mark_notMem_stripZeros {digits : List Char} (unmarked : '?' ∉ digits) :
    '?' ∉ stripZeros digits := by
  unfold stripZeros
  split
  · decide
  · next kept =>
    intro member
    rw [List.mem_reverse] at member
    exact unmarked (List.mem_reverse.mp ((List.dropWhile_sublist _).subset member))

theorem mark_notMem_positional {digits : List Char} (exponent : Int) (unmarked : '?' ∉ digits) :
    '?' ∉ positional digits exponent := by
  have taken : ∀ n, '?' ∉ digits.take n := fun n member => unmarked (List.mem_of_mem_take member)
  have dropped : ∀ n, '?' ∉ digits.drop n := fun n member => unmarked (List.mem_of_mem_drop member)
  unfold positional
  split
  · simp [unmarked]
  · dsimp only
    split <;> simp [taken, dropped]

theorem mark_notMem_scientific {digits : List Char} (exponent : Int) (unmarked : '?' ∉ digits) :
    '?' ∉ scientific digits exponent := by
  have taken : ∀ n, '?' ∉ digits.take n := fun n member => unmarked (List.mem_of_mem_take member)
  have rest : '?' ∉ digits.tail := fun member => unmarked (List.mem_of_mem_tail member)
  have power := Numeral.mark_notMem_toDigits 10 (by decide) (by decide) exponent.natAbs
  unfold scientific
  dsimp only
  split <;> split <;> split <;> simp_all

/-- The text of a number has no mark in it. -/
theorem mark_notMem_text (x : Binary64) : '?' ∉ x.text.toList := by
  cases x with
  | nan => decide
  | infinite negative => cases negative <;> decide
  | negativeZero => decide
  | finite x =>
      cases x with
      | zero => decide
      | ofOdd n k odd =>
          rw [text, String.toList_append, List.mem_append, not_or]
          refine ⟨Numeral.mark_notMem_sign n, ?_⟩
          have digits := mark_notMem_stripZeros
            (Numeral.mark_notMem_toDigits 10 (by decide) (by decide)
              (Significand.ofDyadic n.natAbs k).shortest.digits)
          rw [Decimal.text, String.toList_ofList]
          split
          · exact mark_notMem_positional _ digits
          · exact mark_notMem_scientific _ digits

end Binary64

/-- Bytes are not shown as unknown. -/
theorem bytes_ne_unknown (bytes : List UInt8) : Notation.bytes bytes ≠ Unique.unknownText := by
  have pair : ∀ b : UInt8, '?' ∉ (Numeral.hexByte b).toList := by
    intro b
    have small : b.toNat < 256 := b.toNat_lt
    simp only [Numeral.hexByte, String.toList_ofList, List.mem_cons, List.not_mem_nil, or_false,
      not_or]
    exact ⟨(Numeral.digitChar_ne_mark _ (by omega)).symm,
      (Numeral.digitChar_ne_mark _ (by omega)).symm⟩
  refine ne_unknown_of_notMem ?_
  rw [Notation.bytes, String.toList_intercalate]
  induction bytes with
  | nil => decide
  | cons b bytes ih =>
      cases bytes with
      | nil => simpa using pair b
      | cons c bytes =>
          simp only [List.map_cons, List.intercalate_cons_cons, List.mem_append, not_or] at ih ⊢
          exact ⟨⟨pair b, by decide⟩, ih⟩

/-- A data type does not show bytes as unknown, unless it is of foreign code. -/
theorem DataType.represent_ne_unknown {type : DataType} {data : List UInt8} {bigEndian : Bool}
    {text : String} (own : type.isForeign = false)
    (shown : type.represent data bigEndian = .ok text) : text ≠ Unique.unknownText := by
  cases type with
  | integer name length signed =>
      obtain ⟨_, rfl⟩ := Numeral.write_eq_ok_iff.mp shown
      exact ne_unknown_of_notMem (Numeral.mark_notMem_decimal _)
  | boolean name length =>
      cases shown
      split <;> decide
  | character name length =>
      cases data with
      | nil => cases shown
      | cons b data =>
          cases shown
          -- The character itself may be a mark; but there is a quote before it.
          intro same
          have first := congrArg (fun text => text.toList.head?) same
          unfold characterText at first
          split at first <;> simp [Unique.unknownText] at first
  | float name width =>
      rw [represent] at shown
      split at shown
      · cases shown
        exact ne_unknown_of_notMem (Binary64.mark_notMem_text _)
      · cases shown
  | foreign => cases own

/-- Neither is a number shown so. -/
theorem untyped_ne_unknown {value : Nat} {text : String}
    (shown : Notation.untyped value = .ok text) : text ≠ Unique.unknownText := by
  obtain ⟨decimal, written, shown⟩ := bind_eq_ok_iff.mp shown
  obtain ⟨_, rfl⟩ := Numeral.write_eq_ok_iff.mp written
  cases shown
  refine ne_unknown_of_notMem ?_
  simp [String.toList_append, Notation.address, Numeral.mark_notMem_hex,
    Numeral.mark_notMem_decimal]

namespace Unique.Entry

variable {memory : Memory} {language : Language} {entry decoded : Entry} {contents : Contents}

/-- The bytes of an entry are known, but a foreign data type shows them as if they were not. -/
def MadeUnknown (entry : Entry) (language : Language) : Prop :=
  ∃ type contents, entry.dataType = some type ∧ type.isForeign = true
    ∧ entry.contents = some contents
    ∧ type.represent contents.bytes language.bigEndian = .ok unknownText

/-- What is known is shown as unknown by foreign data types only. -/
theorem madeUnknown_iff (known : entry.contents = some contents)
    (shown : representationOf entry.dataType contents language.bigEndian
      = .ok entry.representation) :
    entry.representation = unknownText ↔ entry.MadeUnknown language := by
  constructor
  · intro unknown
    rw [unknown] at shown
    cases typed : entry.dataType with
    | some type =>
        rw [typed] at shown
        cases own : type.isForeign with
        | false => exact absurd rfl (DataType.represent_ne_unknown own shown)
        | true => exact ⟨type, contents, typed, own, known, shown⟩
    | none =>
        rw [typed] at shown
        exact absurd rfl (untyped_ne_unknown shown)
  · rintro ⟨type, other, typed, _, same, unknown⟩
    rw [known] at same
    cases same
    rw [typed] at shown
    exact Except.ok.inj (shown.symm.trans unknown)

/-! ## Written or not -/

/-- An entry tells whether all bytes of its temporary have been written: by its value, by the text
of its bytes and, foreign code apart, by its own text. -/
structure TellsWritten (memory : Memory) (language : Language) (entry : Entry) : Prop where
  value : entry.contents = none
    ↔ ∃ i : Nat, (i : Int) < entry.varnode.size ∧ ¬ memory.Written (entry.varnode.cell i)
  bytes : entry.bytesText = unknownText
    ↔ ∃ i : Nat, (i : Int) < entry.varnode.size ∧ ¬ memory.Written (entry.varnode.cell i)
  text : entry.representation = unknownText
    ↔ (∃ i : Nat, (i : Int) < entry.varnode.size ∧ ¬ memory.Written (entry.varnode.cell i))
      ∨ entry.MadeUnknown language

theorem tellsWritten_of_decode (h : entry.decode memory language = .ok decoded) :
    TellsWritten memory language decoded := by
  have varnode : decoded.varnode = entry.varnode := congrArg Prod.fst (subject_decode h)
  have unread : memory.read? decoded.varnode = none ↔ ∃ i : Nat,
      (i : Int) < decoded.varnode.size ∧ ¬ memory.Written (decoded.varnode.cell i) := by
    simp only [Memory.read?_eq_none_iff, Memory.byte?_eq_none_iff]
  cases known : decoded.contents with
  | none =>
      obtain ⟨nothing, text⟩ := unread_of_decode h known
      have lacks := unread.mp (varnode ▸ nothing)
      exact ⟨iff_of_true known lacks, iff_of_true (by rw [bytesText, known]) lacks,
        iff_of_true text (.inl lacks)⟩
  | some contents =>
      obtain ⟨read, _, shown⟩ := read_of_decode h known
      have full : ¬ ∃ i : Nat,
          (i : Int) < decoded.varnode.size ∧ ¬ memory.Written (decoded.varnode.cell i) := by
        rw [← unread, varnode, read]
        exact Option.some_ne_none _
      refine ⟨iff_of_false (by simp [known]) full, iff_of_false ?_ full, ?_⟩
      · rw [bytesText, known]
        exact bytes_ne_unknown contents.bytes
      · rw [or_iff_right full]
        rw [← dataType_decode h] at shown
        exact madeUnknown_iff known shown

/-! ## Decoding what was written -/

/-- An entry is decoded with contents. Its text shows the value, unless there is a data type or the
value is too long; no more than the text can be refused. -/
structure DecodesTo (entry : Entry) (memory : Memory) (language : Language) (contents : Contents) :
    Prop where
  /-- Whatever the data type, a decoded entry has the contents and shows the bytes. -/
  known : ∀ decoded, entry.decode memory language = .ok decoded →
    decoded.contents = some contents ∧ ShowsBytes decoded.bytesText contents.bytes
  /-- With a data type the text is the one in that type. -/
  typed : ∀ type, entry.dataType = some type →
    entry.decode memory language
      = (type.represent contents.bytes language.bigEndian).map fun representation =>
        { entry with contents := some contents, representation }
  /-- Without a data type a value that is short enough is shown. -/
  untyped : entry.dataType = none → Numeral.Short contents.value →
    ∃ decoded, entry.decode memory language = .ok decoded
      ∧ ShowsValue decoded.representation contents.value
  /-- A value that is too long is refused. -/
  long : entry.dataType = none → ¬ Numeral.Short contents.value →
    entry.decode memory language = .error .numeralTooLong

theorem decodesTo_of_read {bytes : List UInt8} (read : memory.read? entry.varnode = some bytes) :
    DecodesTo entry memory language ⟨bytes, Bytes.toNat language.bigEndian bytes⟩ := by
  have decodes : entry.decode memory language = _ := decode_of_read read
  refine ⟨?_, ?_, ?_, ?_⟩
  · intro decoded h
    rw [decodes] at h
    cases shown : representationOf entry.dataType
        ⟨bytes, Bytes.toNat language.bigEndian bytes⟩ language.bigEndian with
    | error fault =>
        rw [shown] at h
        cases h
    | ok text =>
        rw [shown] at h
        cases h
        exact ⟨rfl, showsBytes_bytes bytes⟩
  · intro type typed
    rw [decodes, typed]
    rfl
  · intro untyped short
    obtain ⟨text, shown, shows⟩ := showsValue_untyped short
    rw [decodes, untyped, representationOf, shown]
    exact ⟨_, rfl, shows⟩
  · intro untyped long
    have refused : Notation.untyped (Bytes.toNat language.bigEndian bytes)
        = .error .numeralTooLong := by
      rw [Notation.untyped, Numeral.write_eq_error_iff.mpr ⟨long, rfl⟩]
      rfl
    rw [decodes, untyped, representationOf, refused]
    rfl

/-- A varnode reads as the digits of a number that was written to it. -/
theorem read?_writeValue {u : Varnode} (fits : Width.Fits u.size) (memory : Memory) (n : Int)
    (bigEndian : Bool) :
    ∃ written bytes, memory.writeValue u n bigEndian = .ok written
      ∧ bytes.length = u.size.toNat
      ∧ (Bytes.toNat bigEndian bytes : Int) = n % 256 ^ u.size.toNat
      ∧ ∀ calls : List Memory.Call, (∀ call ∈ calls, call.Accepted → ¬ call.Touches u) →
        (written.afterAll calls).read? u = some bytes := by
  let call : Memory.Call := ⟨u, .value n bigEndian⟩
  have accepted : call.Accepted := fits
  have nonneg : 0 ≤ n % 256 ^ u.size.toNat :=
    Int.emod_nonneg _ (Int.pow_ne_zero (by decide))
  refine ⟨memory.put u call.data, call.data, Memory.store_of_accepted memory accepted,
    Bytes.length_ofNat _ _ _, ?_, ?_⟩
  · show ((Bytes.toNat bigEndian (Bytes.ofNat bigEndian _ _) : Nat) : Int) = _
    rw [Bytes.toNat_ofNat, Int.natCast_emod, Int.natCast_pow, Int.toNat_of_nonneg nonneg]
    exact Int.emod_emod _ _
  · intro calls spared
    rw [Memory.read?_afterAll_of_spared spared, ← Memory.after_of_accepted accepted]
    exact Memory.read?_after_self memory accepted

/-- **Decoding undoes writing.** Let a number be written to a temporary whose width numbers can
have, and after it anything that does not touch the temporary. Then every entry for the temporary is
decoded with as many bytes as it has, and with the number as far as it fits. In any memory, what an
entry is decoded to depends on its temporary, its access and its data type alone, decodes to itself,
and tells whether all bytes of the temporary have been written. -/
theorem decode_written {u : Varnode} (fits : Width.Fits u.size) (memory : Memory)
    (language : Language) (n : Int) :
    (∃ written, memory.writeValue u n language.bigEndian = .ok written
        ∧ ∀ calls : List Memory.Call, (∀ call ∈ calls, call.Accepted → ¬ call.Touches u) →
          ∃ contents : Contents, contents.bytes.length = u.size.toNat
            ∧ (contents.value : Int) = n % 256 ^ u.size.toNat
            ∧ ∀ entry : Entry, entry.varnode = u →
              DecodesTo entry (written.afterAll calls) language contents)
      ∧ (∀ (memory : Memory) (entry other : Entry), entry.varnode = other.varnode →
        entry.access = other.access → entry.dataType = other.dataType →
        entry.decode memory language = other.decode memory language)
      ∧ ∀ (memory : Memory) (entry decoded : Entry), entry.decode memory language = .ok decoded →
        decoded.decode memory language = .ok decoded
          ∧ TellsWritten memory language decoded := by
  obtain ⟨written, bytes, stored, length, value, read⟩ :=
    read?_writeValue fits memory n language.bigEndian
  refine ⟨⟨written, stored, ?_⟩, ?_, ?_⟩
  · intro calls spared
    refine ⟨⟨bytes, Bytes.toNat language.bigEndian bytes⟩, length, value, ?_⟩
    rintro entry rfl
    exact decodesTo_of_read (read calls spared)
  · intro memory entry other varnode access dataType
    exact decode_congr (Prod.ext varnode access) dataType
  · intro memory entry decoded h
    exact ⟨decode_again h, tellsWritten_of_decode h⟩

/-- A temporary of three bytes. -/
def Sample.narrow : Varnode := ⟨.unique, -1, 3, none⟩

/-- A language that puts the highest byte first. -/
def Sample.highestFirst : Language where
  name := "high"
  bigEndian := true

/-- Calls around the temporary: before it, at its offset in another space, and on it but with too
few bytes. -/
def Sample.around : List Memory.Call :=
  [⟨⟨.unique, -3, 2, none⟩, .value 0x1234 false⟩, ⟨⟨.unique, -1, 3, some "tmp"⟩, .value 0 true⟩,
   ⟨narrow, .bytes [0xFF]⟩]

/-- Minus two is decoded as its residue, in three bytes. -/
theorem decode_written_around :
    Width.Fits Sample.narrow.size
      ∧ (∀ call ∈ Sample.around, call.Accepted → ¬ call.Touches Sample.narrow)
      ∧ ∃ written, Memory.writeValue {} Sample.narrow (-2) true = .ok written
        ∧ ∃ contents : Contents, contents.bytes.length = 3
          ∧ (contents.value : Int) = 0xFFFFFE
          ∧ DecodesTo { varnode := Sample.narrow } (written.afterAll Sample.around)
            Sample.highestFirst contents := by
  have fits : Width.Fits Sample.narrow.size := by decide
  have spared : ∀ call ∈ Sample.around, call.Accepted → ¬ call.Touches Sample.narrow := by
    simp only [Sample.around, List.forall_mem_cons]
    refine ⟨?_, ?_, ?_, List.forall_mem_nil _⟩
    · rintro _ ⟨i, below, _, _, after, before⟩
      simp only [Varnode.cell, Sample.narrow] at before
      omega
    · rintro _ ⟨i, _, _, name, _⟩
      have other : Sample.narrow.name ≠ "tmp" := by decide
      exact absurd name other
    · intro accepted
      exact absurd accepted (by decide)
  obtain ⟨⟨written, stored, decodes⟩, _⟩ := decode_written fits {} Sample.highestFirst (-2)
  obtain ⟨contents, length, value, each⟩ := decodes Sample.around spared
  exact ⟨fits, spared, written, stored, contents, length, value, each _ rfl⟩

/-- A temporary of more bytes than can be counted. -/
def Sample.vast : Varnode := ⟨.unique, 0, 2 ^ (64 : Nat), none⟩

/-- A temporary whose greatest value has more than `Numeral.digitLimit` digits. -/
def Sample.long : Varnode := ⟨.unique, 0, 2000, none⟩

/-- Not every size will do. A number is not written to a temporary of too many bytes, which stays
unknown; and what was written to one of many bytes may be too long for an entry without a data
type to be decoded. -/
theorem undecoded_vast :
    (0 ≤ Sample.vast.size
        ∧ Memory.writeValue {} Sample.vast 5 false = .error .uncountableWidth
        ∧ Entry.decode { varnode := Sample.vast }
            (Memory.after {} ⟨Sample.vast, .value 5 false⟩) ⟨"x", false, [], [], []⟩
          = .ok { varnode := Sample.vast, representation := unknownText })
      ∧ ∃ written, Memory.writeValue {} Sample.long (-1) false = .ok written
        ∧ Entry.decode { varnode := Sample.long } written ⟨"x", false, [], [], []⟩
          = .error .numeralTooLong := by
  refine ⟨⟨by decide, by decide, ?_⟩, ?_⟩
  · have refused : ¬ Memory.Call.Accepted ⟨Sample.vast, .value 5 false⟩ := by decide
    rw [Memory.after_of_refused refused]
    refine decode_of_unread (Memory.read?_eq_none_iff.mpr ⟨0, by decide, rfl⟩)
  · obtain ⟨written, bytes, stored, _, value, read⟩ :=
      read?_writeValue (u := Sample.long) (by decide) {} (-1) false
    have long : ¬ Numeral.Short (Bytes.toNat false bytes) := by
      rw [value]
      decide +kernel
    exact ⟨written, stored, (decodesTo_of_read (read [] (List.forall_mem_nil _))).long rfl long⟩

end Unique.Entry

end PcodePanel
