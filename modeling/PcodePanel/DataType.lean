import PcodePanel.Binary64.Decode
import PcodePanel.Binary64.Text
import PcodePanel.Bytes
import PcodePanel.Numeral.Write

/-!
# Data types

A data type has a name and a length, and shows bytes as a text.

* `DataType.represent` is that text. An integer, a float or a truth value looks at no more bytes
  than it is long, and a character at the first;
* `DataType.foreign` is a type of foreign code, which may look at all bytes and may fail. It is
  given by what it makes of bytes.

Two data types are equal if they are of one sort and agree in every part.
-/

namespace PcodePanel

/-- The lengths of float types. -/
inductive FloatWidth
  | single
  | double
deriving DecidableEq, Repr

namespace FloatWidth

/-- The length in bytes. -/
def bytes : FloatWidth → Nat
  | single => 4
  | double => 8

/-- The format of the numbers. -/
def format : FloatWidth → BinaryFormat
  | single => .single
  | double => .double

end FloatWidth

/-- What foreign code makes of bytes. -/
inductive Reading
  | text (shown : String)
  | failure (failure : Failure)
deriving DecidableEq, Repr

/-- What is shown, unless foreign code failed. -/
def Reading.result : Reading → Except Fault String
  | .text shown => .ok shown
  | .failure cause => .error (.raised cause)

/-- How bytes are interpreted. -/
inductive DataType
  | integer (name : String) (length : Int) (signed : Bool)
  | boolean (name : String) (length : Int)
  | character (name : String) (length : Int)
  | float (name : String) (width : FloatWidth)
  /-- A type of foreign code. What it makes of bytes is listed for each order of them, and is the
  same for all that are not listed. -/
  | foreign (name : String) (length : Int) (readings : List ((List UInt8 × Bool) × Reading))
    (otherwise : Reading)
deriving DecidableEq, Repr

namespace DataType

/-- The name of a type. -/
def name : DataType → String
  | integer name .. | boolean name _ | character name _ | float name _ | foreign name .. => name

/-- The length of a type in bytes. -/
def length : DataType → Int
  | integer _ length _ | boolean _ length | character _ length | foreign _ length .. => length
  | float _ width => width.bytes

/-- A float type of four or eight bytes. -/
def ofFloatLength (name : String) (length : Int) : Except Fault DataType :=
  if length = 4 then .ok (.float name .single)
  else if length = 8 then .ok (.float name .double)
  else if Numeral.Short length then .error (.badFloatLength length)
  else .error .numeralTooLong

/-- The text of a character: itself if it is printable ASCII, else its code. -/
def characterText (b : UInt8) : String :=
  if 0x20 ≤ b ∧ b ≤ 0x7E then String.ofList ['\'', Char.ofNat b.toNat, '\'']
  else "'\\x" ++ Numeral.hexByte b ++ "'"

/-- The text of bytes in a type. -/
def represent (type : DataType) (data : List UInt8) (bigEndian : Bool) : Except Fault String :=
  match type with
  | integer _ length signed =>
    let part := Bytes.slice length data
    Numeral.write (if signed then Bytes.toInt bigEndian part else Bytes.toNat bigEndian part)
  | boolean _ length => .ok (if (Bytes.slice length data).any (· ≠ 0) then "true" else "false")
  | character .. =>
    match data with
    | [] => .error .noByte
    | b :: _ => .ok (characterText b)
  | float _ width =>
    let part := data.take width.bytes
    if part.length = width.bytes then
      .ok (width.format.decode (Bytes.toNat bigEndian part)).text
    else .error (.bytesMissing width.bytes)
  | foreign _ _ readings otherwise =>
    ((readings.lookup (data, bigEndian)).getD otherwise).result

/-- The types that every catalog starts with, unless it is given others. -/
def builtin : List DataType :=
  [integer "byte" 1 false, integer "sbyte" 1 true, integer "ushort" 2 false,
   integer "short" 2 true, integer "uint" 4 false, integer "int" 4 true,
   integer "ulong" 8 false, integer "long" 8 true, boolean "bool" 1, character "char" 1,
   float "float" .single, float "double" .double]

end DataType

end PcodePanel
