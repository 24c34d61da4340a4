import PcodePanel.Fault
import PcodePanel.Text.Blank
import PcodePanel.Text.Digit

/-!
# Reading integers

An integer may be written with blanks around it, a sign, digits of any script, and single
underscores between digits.

* `Numeral.read?` reads a decimal numeral;
* `Numeral.readLiteral` reads a numeral that may choose its base; a decimal literal then
  has no leading zeros.

A decimal numeral of more than `Numeral.digitLimit` digits is refused.
-/

namespace PcodePanel.Numeral

/-- The blanks allowed around a numeral: all but the information separators. -/
def isMargin (c : Char) : Bool :=
  Text.isBlank c && !(0x1C ≤ c.toNat && c.toNat ≤ 0x1F)

/-- The value of a character as a digit of a base. -/
def digitIn? (base : Nat) (c : Char) : Option Nat :=
  let value? :=
    match Text.digitValue? c with
    | some d => some d
    | none =>
      if 'a' ≤ c ∧ c ≤ 'z' then some (c.toNat - 'a'.toNat + 10)
      else if 'A' ≤ c ∧ c ≤ 'Z' then some (c.toNat - 'A'.toNat + 10)
      else none
  value?.filter (· < base)

/-- Takes the digits at the front of a text, with what follows them. An underscore stands between
two digits only, so none may come first, last or after another; `expectDigit` says that a digit
must follow. -/
def takeDigits (base : Nat) : (expectDigit : Bool) → List Char → Option (List Nat × List Char)
  | expectDigit, [] => if expectDigit then none else some ([], [])
  | expectDigit, c :: cs =>
    match digitIn? base c with
    | some d => (takeDigits base false cs).map fun (ds, rest) => (d :: ds, rest)
    | none =>
      if expectDigit then none
      else if c = '_' then takeDigits base true cs
      else some ([], c :: cs)

/-- The number that digits, most significant first, denote. -/
def ofDigits (base : Nat) (ds : List Nat) : Nat :=
  ds.foldl (fun n d => base * n + d) 0

/-- Splits the sign off a numeral. -/
def takeSign : List Char → Bool × List Char
  | '-' :: cs => (true, cs)
  | '+' :: cs => (false, cs)
  | cs => (false, cs)

/-- Why a text is not read as an integer. -/
inductive ReadFault
  /-- The text has not the form of a numeral. -/
  | malformed
  /-- The decimal digits are too many. -/
  | tooManyDigits (count : Nat)
deriving DecidableEq, Repr

/-- The number that the digits at the front of a text denote; nothing may follow them. Too many
digits are noticed before what follows. -/
def readDigits (base : Nat) (limited : Bool) (cs : List Char) : Except ReadFault Nat :=
  match takeDigits base true cs with
  | none => .error .malformed
  | some (ds, rest) =>
    if limited && digitLimit < ds.length then .error (.tooManyDigits ds.length)
    else if rest.isEmpty then .ok (ofDigits base ds)
    else .error .malformed

/-- The integer with a sign and a magnitude. -/
def signed (negative : Bool) (magnitude : Nat) : Int :=
  if negative then -(magnitude : Int) else magnitude

/-- Reads a decimal numeral. -/
def read? (cs : List Char) : Option Int :=
  let (negative, body) := takeSign (Text.trimWhere isMargin cs)
  match readDigits 10 true body with
  | .ok n => some (signed negative n)
  | .error _ => none

/-- The base that a letter after a leading zero chooses. -/
def baseLetter? (c : Char) : Option Nat :=
  if c = 'x' ∨ c = 'X' then some 16
  else if c = 'o' ∨ c = 'O' then some 8
  else if c = 'b' ∨ c = 'B' then some 2
  else none

/-- Reads the magnitude of a literal: after a zero and a base letter, where one underscore may
follow, in that base; else in decimal, where only zero may begin with a zero. -/
def readMagnitude (cs : List Char) : Except ReadFault Nat :=
  match cs with
  | [] => .error .malformed
  | first :: rest =>
    if Text.digitValue? first = some 0 then
      match rest.head?.bind baseLetter? with
      | some base =>
        match rest.tail with
        | '_' :: body => readDigits base false body
        | body => readDigits base false body
      | none =>
        match readDigits 10 true cs with
        | .ok 0 => .ok 0
        | .ok _ => .error .malformed
        | .error fault => .error fault
    else readDigits 10 true cs

/-- Reads an integer literal. -/
def readLiteral (text : String) : Except Fault Int :=
  let (negative, body) := takeSign (Text.trimWhere isMargin text.toList)
  match readMagnitude body with
  | .ok n => .ok (signed negative n)
  | .error .malformed => .error (.badLiteral text)
  | .error (.tooManyDigits count) => .error (.numeralOverread count)

end PcodePanel.Numeral
