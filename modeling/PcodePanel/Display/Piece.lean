import PcodePanel.Display.Notation
import PcodePanel.Display.Token
import PcodePanel.Pcode.Frame
import PcodePanel.Pcode.Template

/-!
# Pieces

A piece is a part of a row before it has a text: what is shown, not how.

* `OpTemplate.pieces` says which pieces show an operation;
* `Piece.token?` gives a piece its text, with the names of a `Legend`.

The pieces of an operation do not depend on the frame; its names do, through the legend.
-/

namespace PcodePanel

/-- A part of a row. -/
inductive Piece
  | address (offset : Int)
  | register (name : String)
  | scalar (value : Int)
  | unique (offset size : Int)
  | lineLabel (number : Int)
  | mnemonic (opcode : Int)
  | raw (space : String) (offset size : Int)
  | space (name : String)
  /-- A space that is known by its number. -/
  | spaceNumber (number : Int)
  | userop (number : Int)
  | indent
  /-- Punctuation, or any other text between parts. -/
  | separator (text : String)
deriving DecidableEq, Repr

/-- The names that pieces are written with, and whether operations are indented. The language's
names of user operations come before the frame's. -/
structure Legend where
  language : Language
  userops : List (Int × String)
  indent : Bool
deriving DecidableEq, Repr

namespace Legend

/-- The legend for a frame. -/
def ofFrame (language : Language) (frame : Frame) (indent : Bool) : Legend :=
  ⟨language, frame.userops, indent⟩

/-- The name of a user operation, or its number if it has none. -/
def useropText (legend : Legend) (number : Int) : Except Fault String :=
  match legend.language.userop? number with
  | some name => .ok name
  | none =>
    match valueOf? legend.userops number with
    | some name => .ok name
    | none => Numeral.write number

/-- The name of a space; a missing or empty one is made of its number. -/
def spaceText (legend : Legend) (number : Int) : Except Fault String :=
  match legend.language.space? number with
  | some name => if name = "" then numbered else .ok name
  | none => numbered
where
  numbered : Except Fault String := return "space" ++ (← Numeral.write number)

end Legend

namespace Piece

/-- An indentation. -/
def indentText : String := "  "

/-- The text of a separator: an equals sign stands between blanks. -/
def separatorText (text : String) : String :=
  if text = "=" then " = " else text

/-- The token that shows a piece. An indentation is left out where the legend has none. -/
def token? (legend : Legend) : Piece → Except Fault (Option Token)
  | address offset => .ok (some (.of .address (Notation.address offset)))
  | register name => .ok (some (.of .register name))
  | scalar value => .ok (some (.of .scalar (Notation.scalar value)))
  | unique offset size => return some (.of .unique (← Notation.unique offset size))
  | lineLabel number => return some (.of .lineLabel (← Notation.lineLabel number))
  | mnemonic opcode =>
    let category := if Opcode.isUnimplemented opcode then .unimplemented else .mnemonic
    return some (.of category (← Opcode.mnemonic opcode))
  | raw name offset size => return some (.of .raw (← Notation.raw name offset size))
  | space name => .ok (some (.of .space name))
  | spaceNumber number => return some (.of .space (← legend.spaceText number))
  | userop number => return some (.of .userop (← legend.useropText number))
  | indent => .ok (if legend.indent then some (.of .indent indentText) else none)
  | separator text => .ok (some (.of .separator (separatorText text)))

/-- The tokens that show pieces, in order. -/
def tokens (legend : Legend) (pieces : List Piece) : Except Fault (List Token) :=
  return (← pieces.mapM (token? legend)).filterMap id

end Piece

namespace Varnode

/-- How a varnode is shown: a constant by its value, a temporary by its place, a register by its
name, memory by space and address, and anything else, with it a register without a name, as a
raw triple. -/
def pieces (language : Language) (v : Varnode) : List Piece :=
  match v.space with
  | .constant => [.scalar v.offset]
  | .unique => [.unique v.offset v.size]
  | .register =>
    match language.register? v.offset v.size with
    | some name => [.register name]
    | none => [.raw v.name v.offset v.size]
  | .ram => [.separator "*", .separator "[", .space v.name, .separator "]", .address v.offset]
  | .other => [.raw v.name v.offset v.size]

end Varnode

/-- How an input is shown. -/
def Operand.pieces (language : Language) : Operand → List Piece
  | varnode v => v.pieces language
  | label number => [.lineLabel number]

/-- How inputs are shown: with a comma and a blank between them. -/
def Operand.listPieces (language : Language) (operands : List Operand) : List Piece :=
  [.separator ",", .separator " "].intercalate (operands.map (Operand.pieces language))

namespace OpTemplate

/-- The value of the first input, if that is a constant. -/
def selector? (template : OpTemplate) : Option Int :=
  match template.operands with
  | .varnode first :: _ => if first.isConstant then some first.offset else none
  | _ => none

/-- How the output is shown. -/
def outputPieces (language : Language) (template : OpTemplate) : List Piece :=
  match template.output with
  | some v => v.pieces language ++ [.separator "="]
  | none => []

/-- How the operation and its inputs are shown. A user operation is a call by its name; a memory
access names its space and has the address in parentheses; everything else is a mnemonic and a
list of inputs. -/
def actionPieces (language : Language) (template : OpTemplate) : List Piece :=
  let plain :=
    .mnemonic template.opcode ::
      match template.operands with
      | [] => []
      | operands => .separator " " :: Operand.listPieces language operands
  match template.selector? with
  | none => plain
  | some number =>
    if template.opcode = Opcode.callOther then
      .userop number :: .separator "("
        :: Operand.listPieces language template.operands.tail ++ [.separator ")"]
    else if template.opcode = Opcode.load ∨ template.opcode = Opcode.store then
      match template.operands.tail with
      | [] => plain
      | address :: values =>
        .mnemonic template.opcode :: .separator " " :: .spaceNumber number :: .separator "("
          :: address.pieces language ++ [.separator ")"]
          ++ match values with
            | [] => []
            | values =>
              .separator "," :: .separator " " :: Operand.listPieces language values
    else plain

/-- How an operation is shown. -/
def pieces (language : Language) (template : OpTemplate) : List Piece :=
  .indent :: template.outputPieces language ++ template.actionPieces language

end OpTemplate

end PcodePanel
