import Slab.Color

/-!
# The text of a colour

A colour is written `#rrggbb` in lowercase. It is read from `#rgb` or `#rrggbb` in either case,
with or without the `#`; the short form stands for the long one with each digit doubled.
-/

namespace Slab

/-! ### Hexadecimal digits -/

/-- The lowercase hexadecimal digit of a number below 16. -/
def hexDigit (n : Nat) : Char :=
  if n < 10 then Char.ofNat ('0'.toNat + n) else Char.ofNat ('a'.toNat + (n - 10))

/-- The value of an ASCII hexadecimal digit of either case. -/
def hexValue? (c : Char) : Option Nat :=
  if '0' ≤ c ∧ c ≤ '9' then some (c.toNat - '0'.toNat)
  else if 'a' ≤ c ∧ c ≤ 'f' then some (c.toNat - 'a'.toNat + 10)
  else if 'A' ≤ c ∧ c ≤ 'F' then some (c.toNat - 'A'.toNat + 10)
  else none

/-- The two lowercase digits of a byte, high digit first. -/
def hexPair (byte : UInt8) : List Char :=
  [hexDigit (byte.toNat / 16), hexDigit (byte.toNat % 16)]

/-- The byte that two digit values spell. -/
def byteOfDigits (high low : Nat) : UInt8 :=
  UInt8.ofNat (16 * high + low)

namespace Color

/-! ### Writing -/

/-- The characters of a colour: `#` and six lowercase digits. -/
def chars (color : Color) : List Char :=
  '#' :: (hexPair color.red ++ hexPair color.green ++ hexPair color.blue)

/-- The text of a colour: `#` and six lowercase digits. -/
def text (color : Color) : String :=
  String.ofList color.chars

/-! ### Reading -/

/-- What can be wrong with the text of a colour. Each cause keeps the whole text. -/
inductive Fault
  /-- Something after the optional `#` is not a hexadecimal digit. -/
  | notHex (text : List Char)
  /-- There are digits only, but neither three nor six. -/
  | wrongLength (text : List Char)
deriving DecidableEq, Repr

/-- The sentence that reports a fault. -/
def Fault.message : Fault → String
  | .notHex text => "Invalid color '" ++ String.ofList text ++ "': expected hex digits."
  | .wrongLength text => "Invalid color '" ++ String.ofList text ++ "': expected #rgb or #rrggbb."

/-- The text of a colour without its optional leading `#`. -/
def stripHash : List Char → List Char
  | '#' :: digits => digits
  | digits => digits

/-- The colour that a text denotes. That all is hexadecimal is asked first, the length second. -/
def ofChars (text : List Char) : Except Fault Color :=
  match (stripHash text).mapM hexValue? with
  | none => .error (.notHex text)
  | some [r, g, b] => .ok ⟨byteOfDigits r r, byteOfDigits g g, byteOfDigits b b⟩
  | some [r₁, r₀, g₁, g₀, b₁, b₀] =>
    .ok ⟨byteOfDigits r₁ r₀, byteOfDigits g₁ g₀, byteOfDigits b₁ b₀⟩
  | some _ => .error (.wrongLength text)

/-- The colour that a string denotes. -/
def ofText (text : String) : Except Fault Color :=
  ofChars text.toList

end Color

end Slab
