import Slab.Decimal.Natural

/-!
# Reading floating point numbers

`readReal?` reads a decimal with an optional sign, point and exponent, or the name of an infinity
or of what is not a number, and rounds it to the nearest floating point number.
-/

namespace Slab

/-- The character is a decimal digit of ASCII. -/
def isDigit (c : Char) : Bool :=
  '0' ≤ c && c ≤ '9'

/-- The digits at the front of a text. -/
def frontDigits (text : List Char) : List Char := text.takeWhile isDigit

/-- A text without the digits at its front. -/
def afterDigits (text : List Char) : List Char := text.dropWhile isDigit

/-- The floating point number nearest to `digits * 10 ^ exponent`. Far outside the range the
answer is known without computing the power. -/
def nearestReal (digits : Nat) (exponent : Int) : Float :=
  let power := exponent + (decimal digits).length
  if digits = 0 ∨ power < -330 then 0
  else if power > 310 then 1 / 0
  else Float.ofScientific digits (exponent < 0) exponent.natAbs

/-- A sign, if there is one, and what follows it. -/
def splitSign : List Char → Bool × List Char
  | '-' :: rest => (true, rest)
  | '+' :: rest => (false, rest)
  | rest => (false, rest)

/-- The number that a sign and a run of digits spell. -/
def signed (negative : Bool) (digits : List Char) : Int :=
  if negative then -(ofDigits digits) else ofDigits digits

/-- The exponent that makes up a text: nothing, or an `e` with a number of at least one digit. -/
def readExponent? : List Char → Option Int
  | [] => some 0
  | c :: rest =>
    let (negative, digits) := splitSign rest
    if (c = 'e' ∨ c = 'E') ∧ digits ≠ [] ∧ digits.all isDigit then
      some (signed negative digits)
    else none

/-- The number that an unsigned decimal denotes. It has a digit before its exponent. -/
def readDecimal? (text : List Char) : Option Float := do
  let whole := frontDigits text
  let (fraction, rest) := match afterDigits text with
    | '.' :: rest => (frontDigits rest, afterDigits rest)
    | rest => ([], rest)
  guard (whole ++ fraction ≠ [])
  let exponent ← readExponent? rest
  return nearestReal (ofDigits (whole ++ fraction)) (exponent - fraction.length)

/-- The number that a text denotes. The names are read in either case. -/
def readReal? (text : List Char) : Option Float :=
  let (negative, magnitude) := splitSign text
  let value := match String.ofList (magnitude.map Char.toLower) with
    | "inf" => some (1 / 0)
    | "infinity" => some (1 / 0)
    | "nan" => some (0 / 0)
    | _ => readDecimal? magnitude
  value.map fun x => if negative then -x else x

end Slab
