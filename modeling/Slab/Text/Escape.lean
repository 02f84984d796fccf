import Slab.Color.Text
import Slab.Text.Printable

/-!
# Quoted text

Messages show characters and strings of the input in quotes. Inside, the backslash, the quote in
use and four controls are written with a backslash and a letter, what is not printable is written
`\u{…}` with its number in lowercase hexadecimal, and the rest stands for itself.
-/

namespace Slab

/-- The lowercase hexadecimal digits of a number, without a leading zero. -/
def hexadecimal (n : Nat) : List Char :=
  if n < 16 then [hexDigit n] else hexadecimal (n / 16) ++ [hexDigit (n % 16)]
termination_by n
decreasing_by omega

/-- A character as it is written between two quotes of the given kind. -/
def escapeChar (quote c : Char) : List Char :=
  if c = '\x00' then ['\\', '0']
  else if c = '\t' then ['\\', 't']
  else if c = '\n' then ['\\', 'n']
  else if c = '\r' then ['\\', 'r']
  else if c = '\\' ∨ c = quote then ['\\', c]
  else if isPrintable c then [c]
  else '\\' :: 'u' :: '\x7b' :: (hexadecimal c.toNat ++ ['\x7d'])

/-- A text between two quotes of the given kind. -/
def quoted (quote : Char) (text : List Char) : List Char :=
  quote :: (text.flatMap (escapeChar quote) ++ [quote])

end Slab
