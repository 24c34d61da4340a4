import PcodePanel.Binary64.Shortest

/-!
# Texts of numbers

A number is shown by its shortest decimal: positionally if the exponent of its leading digit is
from -4 to 15, and then with at least one digit after the point, else with a signed exponent of
at least two digits. Lengths are shown with exactly two decimals.
-/

namespace PcodePanel.Binary64

-- Powers are those of core, whatever else is in scope.
attribute [local instance (10000)] instPowNat

/-- Digits with trailing zeros dropped, at least one kept. -/
def stripZeros (digits : List Char) : List Char :=
  match (digits.reverse.dropWhile (· = '0')).reverse with
  | [] => ['0']
  | kept => kept

/-- Places the point in digits whose leading one has the given exponent. -/
def positional (digits : List Char) (exponent : Int) : List Char :=
  if exponent < 0 then
    '0' :: '.' :: List.replicate (-exponent - 1).toNat '0' ++ digits
  else
    let whole := exponent.toNat + 1
    let front := digits.take whole ++ List.replicate (whole - digits.length) '0'
    let back := if digits.length ≤ whole then ['0'] else digits.drop whole
    front ++ '.' :: back

/-- Writes digits with an exponent. -/
def scientific (digits : List Char) (exponent : Int) : List Char :=
  let fraction :=
    match digits.tail with
    | [] => []
    | rest => '.' :: rest
  let power := Nat.toDigits 10 exponent.natAbs
  let padded := if power.length < 2 then '0' :: power else power
  digits.take 1 ++ fraction ++ 'e' :: (if exponent < 0 then '-' else '+') :: padded

/-- The text of a decimal. -/
def Decimal.text (d : Decimal) : String :=
  let written := Nat.toDigits 10 d.digits
  let exponent := (written.length : Int) + d.exponent - 1
  let digits := stripZeros written
  String.ofList <|
    if -4 ≤ exponent ∧ exponent < 16 then positional digits exponent
    else scientific digits exponent

/-- The text of a number. -/
def text : Binary64 → String
  | nan => "nan"
  | infinite negative => if negative then "-inf" else "inf"
  | negativeZero => "-0.0"
  | finite .zero => "0.0"
  | finite (.ofOdd n k _) =>
    Numeral.sign n ++ (Significand.ofDyadic n.natAbs k).shortest.text

/-- The text of a number with two decimals, its exact value rounded to nearest with ties to even.
A negative number keeps its sign when it is rounded to zero. -/
def twoDecimals : Binary64 → String
  | nan => "nan"
  | infinite negative => if negative then "-inf" else "inf"
  | negativeZero => "-0.00"
  | finite .zero => "0.00"
  | finite (.ofOdd n k _) =>
    let hundredths := nearestEven (n.natAbs * 100 * 2 ^ (-k).toNat) (2 ^ k.toNat)
    let fraction := [Nat.digitChar (hundredths / 10 % 10), Nat.digitChar (hundredths % 10)]
    Numeral.sign n ++ Numeral.digits 10 (hundredths / 100) ++ "." ++ String.ofList fraction

end PcodePanel.Binary64
