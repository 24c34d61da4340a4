import PcodePanel.Display.Token
import PcodePanel.Pcode.MicroOp

/-!
# Rows

What a panel shows, line by line: operations and line labels, a closing row that says how the
instruction ends, or one placeholder where there is no code to show.

* `Row.spans` are the coloured texts of a row;
* `Line.spans` extends it to what may stand in place of a row, and refuses that.
-/

namespace PcodePanel

/-- Why there is no code to show. -/
inductive PlaceholderKind
  | noThread
  | notDecoded
  | loading
  | emulationFailed
deriving DecidableEq, Repr

/-- The text of a placeholder. -/
def PlaceholderKind.message : PlaceholderKind → String
  | noThread => "(no thread selected)"
  | notDecoded => "(step to decode instruction)"
  | loading => "(emulating...)"
  | emulationFailed => "(emulation failed)"

/-- One line of a panel. Every row has its position. -/
inductive Row
  /-- An operation; one of them may be the next to be stepped. -/
  | op (index : Int) (op : MicroOp) (isNext : Bool) (tokens : List Token)
  /-- A line label. -/
  | label (index : Int) (tokens : List Token)
  /-- The instruction ends in a branch, perhaps to a known target. -/
  | branch (index : Int) (target : Option Int)
  /-- The instruction ends in the one after it. -/
  | fallthrough (index : Int)
  /-- There is no code to show. -/
  | placeholder (index : Int) (kind : PlaceholderKind) (message : String)
deriving DecidableEq, Repr

namespace Row

/-- The placeholder of a kind; details follow its text. -/
def ofKind (kind : PlaceholderKind) (detail : Option String) : Row :=
  placeholder 0 kind <|
    match detail with
    | none => kind.message
    | some detail => kind.message ++ " " ++ detail

/-- The position of a row. -/
def index : Row → Int
  | op index .. | label index _ | branch index _ | fallthrough index | placeholder index .. => index

/-- The name of the sort of a row. -/
def sort : Row → String
  | op .. => "op"
  | label .. => "label"
  | branch .. => "branch"
  | fallthrough .. => "fallthrough"
  | placeholder .. => "placeholder"

/-- Whether the row shows the next operation. -/
def isNext : Row → Bool
  | op _ _ isNext _ => isNext
  | _ => false

/-- The coloured texts of a row. The target of a branch is written in decimal. -/
def spans : Row → Except Fault (List Span)
  | op _ _ _ tokens | label _ tokens => .ok (tokens.map Token.span)
  | branch _ none => .ok [(.text, "(branched)")]
  | branch _ (some target) => do
    return [(.text, "(branched to " ++ (← Numeral.write target) ++ ")")]
  | fallthrough _ => .ok [(.text, "(fall-through)")]
  | placeholder _ _ message => .ok [(.text, message)]

/-- The text of a row. -/
def text : Row → Except Fault String
  | op _ _ _ tokens | label _ tokens => .ok (Token.textOf tokens)
  | row => do return String.join ((← row.spans).map Prod.snd)

/-- What the sequence column shows: the step of an operation. -/
def sequenceText : Row → Except Fault String
  | op _ operation _ _ => Numeral.write operation.sequence.time
  | _ => .ok ""

end Row

/-- What can be given for showing: a row, a text of its own, or nothing. -/
inductive Line
  | row (row : Row)
  | text (text : String)
  | absent
deriving DecidableEq, Repr

namespace Line

/-- The row that a line has to be. -/
def row? : Line → Except Fault Row
  | row line => .ok line
  | text content => .error (.unsupportedRow (Text.quoted content))
  | absent => .error (.unsupportedRow "None")

/-- The spans of a line that has to be a row. -/
def spans (line : Line) : Except Fault (List Span) := do
  (← line.row?).spans

/-- The text of a line that has to be a row. -/
def rowText (line : Line) : Except Fault String := do
  (← line.row?).text

/-- Whether the line is the row of the next operation. -/
def isNext : Line → Bool
  | row line => line.isNext
  | _ => false

/-- What the sequence column shows of a line. -/
def sequenceText : Line → Except Fault String
  | row line => line.sequenceText
  | _ => .ok ""

end Line

end PcodePanel
