import PcodePanel.Numeral.Write

/-!
# Notation

How the parts of an operation are written. Offsets are hexadecimal, sizes and numbers decimal;
so a text with a size or a number may be refused.
-/

namespace PcodePanel.Notation

/-- A value: the sign, then the magnitude in hexadecimal. -/
def scalar (value : Int) : String :=
  Numeral.sign value ++ "0x" ++ Numeral.digits 16 value.natAbs

/-- An address: a sign stands after the base. -/
def address (offset : Int) : String :=
  "0x" ++ Numeral.hex offset

/-- A temporary. -/
def unique (offset size : Int) : Except Fault String :=
  return "$U" ++ Numeral.hex offset ++ ":" ++ (← Numeral.write size)

/-- A varnode that has no name. -/
def raw (space : String) (offset size : Int) : Except Fault String :=
  return "(" ++ space ++ ", " ++ address offset ++ ", " ++ (← Numeral.write size) ++ ")"

/-- A line label. -/
def lineLabel (number : Int) : Except Fault String :=
  return "<" ++ (← Numeral.write number) ++ ">"

/-- A value without a data type: in hexadecimal and in decimal. -/
def untyped (value : Int) : Except Fault String :=
  return address value ++ " (" ++ (← Numeral.write value) ++ ")"

/-- Bytes: a pair of digits for each. -/
def bytes (data : List UInt8) : String :=
  " ".intercalate (data.map Numeral.hexByte)

end PcodePanel.Notation
