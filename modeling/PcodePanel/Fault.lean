import PcodePanel.Numeral.Basic
import PcodePanel.Text.Quoted

/-!
# Faults

Why an operation was refused. A fault is a cause; `Fault.message` is its wording, and
`Fault.kind` the family that callers tell apart: an interpretation of bytes may fail with a
`value`, `key`, `index` or `layout` fault, which is then reported as a data type that does not
fit, while a fault of any other family passes through.
-/

namespace PcodePanel

/-- The families of faults. -/
inductive FaultKind
  /-- A value of the right sort that cannot be used. -/
  | value
  /-- A name that is not there. -/
  | key
  /-- A position that is not there. -/
  | index
  /-- Bytes that do not have the layout asked for. -/
  | layout
  /-- A call at the wrong time, or a failure of foreign code. -/
  | runtime
  /-- A promise of the caller that does not hold. -/
  | assertion
  /-- Something of the wrong sort. -/
  | type
  /-- A data type that cannot be given to a value. -/
  | resolution
  /-- A request to the panel that it cannot serve now. -/
  | panel
  /-- A request that has been settled already. -/
  | settled
  /-- A number out of the range of a machine format. -/
  | overflow
  /-- No memory is left, which only foreign code says. -/
  | memory
deriving DecidableEq, Repr

/-- How foreign code fails: a family and what it has to say. -/
structure Failure where
  kind : FaultKind
  details : List String
deriving DecidableEq, Repr

/-- One detail is shown as it is, but for a missing name, which is quoted; several are shown as a
list in parentheses. -/
def Failure.text (failure : Failure) : String :=
  match failure.details with
  | [] => ""
  | [detail] => if failure.kind = .key then Text.quoted detail else detail
  | details => "(" ++ ", ".intercalate (details.map Text.quoted) ++ ")"

/-- Why an operation was refused. -/
inductive Fault
  /-- A varnode of less than one byte was read as a signed number, or a mask was asked of a
  negative size. -/
  | negativeWidth
  /-- A number was to have more digits than can be counted. -/
  | uncountableWidth
  /-- An integer with too many decimal digits was to be written. -/
  | numeralTooLong
  /-- A decimal numeral with too many digits was read. -/
  | numeralOverread (digits : Nat)
  /-- A text is not a number in any base. -/
  | badLiteral (text : String)
  /-- A text is not a schedule. -/
  | badSchedule (text : String)
  /-- A float type was made with a length other than 4 or 8. -/
  | badFloatLength (length : Int)
  /-- A text names no span category. -/
  | unknownCategory (text : String)
  /-- Fewer bytes than a float type reads. -/
  | bytesMissing (wanted : Nat)
  /-- There is no byte to read as a character. -/
  | noByte
  /-- There is no entry at the position. -/
  | noEntry
  /-- A position that is no machine word. -/
  | positionTooLarge
  /-- A write whose data does not cover its varnode. -/
  | partialWrite
  /-- A name is taken by another data type. -/
  | conflictingType (name : String)
  /-- A data type is longer than the variable. -/
  | typeTooLong (name : String) (length : Int) (entry : String)
  /-- A data type could not interpret the bytes of a variable. -/
  | uninterpretable (name entry reason : String)
  /-- A data type was resolved outside of a transaction. -/
  | noTransaction
  /-- A data type was assigned while no values are shown. -/
  | nothingLoaded
  /-- Something that is no row was to be shown as one. -/
  | unsupportedRow (shown : String)
  /-- A colour has too few components to be written. -/
  | componentMissing (position : Nat)
  /-- A colour has too few components to be mixed. -/
  | componentsMissing
  /-- Something that is not a number was to be made an integer. -/
  | notANumber
  /-- Infinity was to be made an integer. -/
  | infiniteNumber
  /-- An integer beyond the floating-point range. -/
  | integerTooLarge
  /-- An event log of negative capacity. -/
  | negativeCapacity
  /-- An event log whose capacity is no machine word. -/
  | capacityTooLarge
  /-- A request was settled twice. -/
  | alreadySettled
  /-- Foreign code failed. -/
  | raised (failure : Failure)
deriving DecidableEq, Repr

namespace Fault

/-- The family of a fault. -/
def kind : Fault → FaultKind
  | negativeWidth | numeralTooLong | numeralOverread _ | badLiteral _ | badSchedule _
  | badFloatLength _ | unknownCategory _ | notANumber | negativeCapacity => .value
  | bytesMissing _ => .layout
  | noByte | noEntry | positionTooLarge | componentMissing _ | componentsMissing => .index
  | partialWrite => .assertion
  | conflictingType _ | typeTooLong .. | uninterpretable .. => .resolution
  | noTransaction => .runtime
  | nothingLoaded => .panel
  | unsupportedRow _ => .type
  | infiniteNumber | integerTooLarge | capacityTooLarge | uncountableWidth => .overflow
  | alreadySettled => .settled
  | raised failure => failure.kind

/-- What the digit limit advises. -/
private def limitAdvice : String :=
  "use sys.set_int_max_str_digits() to increase the limit"

/-- What is said of a numeral beyond the digit limit. -/
private def limitNotice : String :=
  "Exceeds the limit (" ++ Numeral.decimal Numeral.digitLimit
    ++ " digits) for integer string conversion"

/-- The most characters of a bad literal that its message shows, quotes included. -/
def literalShown : Nat := 200

/-- The wording of a fault. -/
def message : Fault → String
  | negativeWidth => "negative shift count"
  | uncountableWidth => "too many digits in integer"
  | numeralTooLong => limitNotice ++ "; " ++ limitAdvice
  | numeralOverread digits =>
    limitNotice ++ ": value has " ++ Numeral.decimal digits ++ " digits; " ++ limitAdvice
  | badLiteral text =>
    "invalid literal for int() with base 0: "
      ++ String.ofList ((Text.quoted text).toList.take literalShown)
  | badSchedule text => "Invalid trace schedule: " ++ Text.quoted text
  | badFloatLength length => "float types are 4 or 8 bytes, not " ++ Numeral.decimal length
  | unknownCategory text => Text.quoted text ++ " is not a valid SpanCategory"
  | bytesMissing wanted => "unpack requires a buffer of " ++ Numeral.decimal wanted ++ " bytes"
  | noByte => "index out of range"
  | noEntry => "list index out of range"
  | positionTooLarge => "cannot fit 'int' into an index-sized integer"
  | partialWrite => "data must cover the whole varnode"
  | conflictingType name => "Conflicting definition for data type " ++ Text.quoted name
  | typeTooLong name length entry =>
    name ++ " (" ++ Numeral.decimal length ++ " bytes) does not fit " ++ entry
  | uninterpretable name entry reason => name ++ " cannot interpret " ++ entry ++ ": " ++ reason
  | noTransaction => "resolve() requires an open transaction"
  | nothingLoaded => "no unique values loaded"
  | unsupportedRow shown => "Unsupported row: " ++ shown
  | componentMissing position =>
    "Replacement index " ++ Numeral.decimal position ++ " out of range for positional args tuple"
  | componentsMissing => "tuple index out of range"
  | notANumber => "cannot convert float NaN to integer"
  | infiniteNumber => "cannot convert float infinity to integer"
  | integerTooLarge => "int too large to convert to float"
  | negativeCapacity => "maxlen must be non-negative"
  | capacityTooLarge => "Python int too large to convert to C ssize_t"
  | alreadySettled => ""
  | raised failure => failure.text

end Fault

end PcodePanel
