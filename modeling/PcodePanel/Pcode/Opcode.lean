import PcodePanel.Numeral.Write

/-!
# Opcodes

An opcode is a number; a table gives the known ones their mnemonics. Number zero has a mnemonic
but no meaning, and every number outside of the table is unimplemented too.

* `Opcode.mnemonic` is the text that an opcode is shown by.
-/

namespace PcodePanel.Opcode

/-- The known opcodes with their mnemonics. -/
def table : List (Int × String) :=
  [(0, "UNIMPLEMENTED"), (1, "COPY"), (2, "LOAD"), (3, "STORE"), (4, "BRANCH"), (5, "CBRANCH"),
   (6, "BRANCHIND"), (7, "CALL"), (8, "CALLIND"), (9, "CALLOTHER"), (10, "RETURN"),
   (11, "INT_EQUAL"), (12, "INT_NOTEQUAL"), (13, "INT_SLESS"), (14, "INT_SLESSEQUAL"),
   (15, "INT_LESS"), (16, "INT_LESSEQUAL"), (17, "INT_ZEXT"), (18, "INT_SEXT"), (19, "INT_ADD"),
   (20, "INT_SUB"), (21, "INT_CARRY"), (22, "INT_SCARRY"), (23, "INT_SBORROW"),
   (24, "INT_2COMP"), (25, "INT_NEGATE"), (26, "INT_XOR"), (27, "INT_AND"), (28, "INT_OR"),
   (29, "INT_LEFT"), (30, "INT_RIGHT"), (31, "INT_SRIGHT"), (32, "INT_MULT"), (33, "INT_DIV"),
   (34, "INT_SDIV"), (35, "INT_REM"), (36, "INT_SREM"), (37, "BOOL_NEGATE"), (38, "BOOL_XOR"),
   (39, "BOOL_AND"), (40, "BOOL_OR"), (41, "FLOAT_EQUAL"), (42, "FLOAT_NOTEQUAL"),
   (43, "FLOAT_LESS"), (44, "FLOAT_LESSEQUAL"), (46, "FLOAT_NAN"), (47, "FLOAT_ADD"),
   (48, "FLOAT_DIV"), (49, "FLOAT_MULT"), (50, "FLOAT_SUB"), (51, "FLOAT_NEG"),
   (52, "FLOAT_ABS"), (53, "FLOAT_SQRT"), (54, "FLOAT_INT2FLOAT"), (55, "FLOAT_FLOAT2FLOAT"),
   (56, "FLOAT_TRUNC"), (57, "FLOAT_CEIL"), (58, "FLOAT_FLOOR"), (59, "FLOAT_ROUND"),
   (60, "MULTIEQUAL"), (61, "INDIRECT"), (62, "PIECE"), (63, "SUBPIECE"), (64, "CAST"),
   (65, "PTRADD"), (66, "PTRSUB"), (67, "SEGMENTOP"), (68, "CPOOLREF"), (69, "NEW"),
   (70, "INSERT"), (71, "EXTRACT"), (72, "POPCOUNT"), (73, "LZCOUNT")]

/-- The opcode that stands for a missing implementation. -/
def unimplemented : Int := 0

/-- Reads memory: the first input selects the space, the second the address. -/
def load : Int := 2

/-- Writes memory: as `load`, with the value as third input. -/
def store : Int := 3

/-- Jumps always. -/
def branch : Int := 4

/-- Jumps on a condition. -/
def cbranch : Int := 5

/-- Performs a user operation, numbered by the first input. -/
def callOther : Int := 9

/-- The mnemonic of a known opcode. -/
def name? (code : Int) : Option String :=
  table.lookup code

/-- Whether an opcode has no implementation: it says so itself, or is not known. -/
def isUnimplemented (code : Int) : Bool :=
  code = unimplemented || (name? code).isNone

/-- The text that an opcode is shown by. -/
def mnemonic (code : Int) : Except Fault String :=
  match name? code with
  | some name => .ok name
  | none => return "unknown_" ++ (← Numeral.write code)

end PcodePanel.Opcode
