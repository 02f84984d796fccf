import Slab.Decimal.Shortest
import Slab.Text.Escape

/-!
# What can be wrong with a JSON text

A text is read from left to right and the first fault ends the reading. Either the text is not
JSON, or it ends too early, or it is JSON so far but not what was wanted; only the last kind comes
with a sentence.
-/

namespace Slab.Json

/-- What a reader may want. -/
inductive Wanted
  /-- The weight of a row or a cell. -/
  | weight
  /-- A string. -/
  | text
  /-- An array. -/
  | sequence
  /-- A row of a grid. -/
  | row
  /-- A cell of a row. -/
  | cell
deriving DecidableEq, Repr

/-- The words for what is wanted. -/
def Wanted.words : Wanted → String
  | .weight => "u32"
  | .text => "a string"
  | .sequence => "a sequence"
  | .row => "struct Row"
  | .cell => "struct Cell"

/-- What may be found instead. -/
inductive Found
  /-- A whole number. -/
  | whole (n : Int)
  /-- A floating point number. -/
  | real (x : Float)
  /-- A string. -/
  | text (chars : List Char)
  /-- A truth value. -/
  | boolean (value : Bool)
  /-- The null value. -/
  | null
  /-- An array. -/
  | sequence
  /-- An object. -/
  | map

/-- How messages write floating point numbers. -/
def messageReals : RealFormat where
  lowest := -5
  highest := 15

/-- The words for what was found. -/
def Found.words : Found → String
  | .whole n => "integer " ++ quote (toString n)
  | .real x => "floating point " ++ quote (String.ofList (messageReals.floatText x))
  | .text chars => "string " ++ String.ofList (quoted '"' chars)
  | .boolean value => "boolean " ++ quote (if value then "true" else "false")
  | .null => "null"
  | .sequence => "sequence"
  | .map => "map"
where
  /-- A word between grave accents. -/
  quote (word : String) : String := "\x60" ++ word ++ "\x60"

/-- Why a JSON value is not what was wanted. -/
inductive Misfit
  /-- The value is of another kind. -/
  | wrongType (found : Found) (wanted : Wanted)
  /-- A whole number is out of range. -/
  | outOfRange (n : Int) (wanted : Wanted)
  /-- An object lacks a field. -/
  | missing (field : String)
  /-- An object has a field twice. -/
  | repeated (field : String)
  /-- An array that stands for an object of so many fields is too short. -/
  | tooShort (length : Nat) (wanted : Wanted) (fields : Nat)
  /-- A string is not a colour. -/
  | badColor (fault : Color.Fault)

/-- The sentence that reports a misfit. -/
def Misfit.message : Misfit → String
  | .wrongType found wanted => "invalid type: " ++ found.words ++ ", expected " ++ wanted.words
  | .outOfRange n wanted =>
    "invalid value: " ++ (Found.whole n).words ++ ", expected " ++ wanted.words
  | .missing field => "missing field \x60" ++ field ++ "\x60"
  | .repeated field => "duplicate field \x60" ++ field ++ "\x60"
  | .tooShort length wanted fields =>
    s!"invalid length {length}, expected " ++ wanted.words ++ s!" with {fields} elements"
  | .badColor fault => fault.message

/-- The first fault of a text. -/
inductive Fault
  /-- The text is not JSON, or nests deeper than is allowed. -/
  | malformed
  /-- The text ends too early. -/
  | endOfText
  /-- The text is JSON so far, but not what was wanted. -/
  | misfit (reason : Misfit)

end Slab.Json
