import Slab.Decimal.Natural

/-!
# Shortest decimals

A binary floating point number stands for all reals that round to it. `Binary.shortest` finds the
decimal with the fewest digits among them, and of those the one nearest to the number, by exact
arithmetic: it tries the grids of multiples of powers of ten, the coarsest first, and on each grid
the two neighbours of the number.
-/

namespace Slab

/-- A positive number `significand * 2 ^ exponent` in the form that binary64 stores it. -/
structure Binary where
  /-- The significand, below `2 ^ 53`. -/
  significand : Nat
  /-- The exponent of 2, at least `-1074`. -/
  exponent : Int
deriving DecidableEq, Repr

/-- A decimal `digits * 10 ^ exponent`. -/
structure Decimal where
  /-- The number that the digits spell. -/
  digits : Nat
  /-- The exponent of 10. -/
  exponent : Int
deriving DecidableEq, Repr

namespace Binary

/-- The magnitude that the bits of a finite binary64 number stand for. -/
def ofBits (bits : UInt64) : Binary :=
  let fraction : Nat := bits.toNat % Nat.pow 2 52
  let biased : Nat := bits.toNat / Nat.pow 2 52 % Nat.pow 2 11
  if biased = 0 then ⟨fraction, -1074⟩ else ⟨Nat.pow 2 52 + fraction, (biased : Int) - 1075⟩

/-- How far the number is from the next smaller one, in quarters of its last place: half as far
at a power of two, where the places below are finer. -/
def quartersBelow (number : Binary) : Nat :=
  if number.significand = Nat.pow 2 52 ∧ number.exponent > -1074 then 1 else 2

/-- The point `quarters / 4 * 2 ^ exponent` counted in steps of `10 ^ grid`, as a fraction. -/
def onGrid (number : Binary) (grid : Int) (quarters : Nat) : Nat × Nat :=
  let shift := number.exponent - 2
  (quarters * Nat.pow 2 shift.toNat * Nat.pow 10 (-grid).toNat,
    Nat.pow 2 (-shift).toNat * Nat.pow 10 grid.toNat)

/-- A multiple of `10 ^ grid` rounds to the number. The ends of the interval do so if the
significand is even. -/
def contains (number : Binary) (grid : Int) (multiple : Nat) : Bool :=
  let (low, unit) := number.onGrid grid (4 * number.significand - number.quartersBelow)
  let (high, _) := number.onGrid grid (4 * number.significand + 2)
  if number.significand % 2 = 0 then low ≤ multiple * unit && multiple * unit ≤ high
  else low < multiple * unit && multiple * unit < high

/-- The neighbour of the number on a grid that rounds to it, if there is one; of two the nearer,
and of two equally near the even one. -/
def onGrid? (number : Binary) (grid : Int) : Option Nat :=
  let (here, unit) := number.onGrid grid (4 * number.significand)
  let below := here / unit
  let above := below + 1
  match number.contains grid below && 0 < below, number.contains grid above with
  | true, true =>
    let upFrom := here - below * unit
    let downFrom := above * unit - here
    if upFrom < downFrom ∨ upFrom = downFrom ∧ below % 2 = 0 then some below else some above
  | true, false => some below
  | false, true => some above
  | false, false => none

/-- The first hit among so many grids, from the given one to finer ones. -/
def firstHit (number : Binary) (grid : Int) : Nat → Option Decimal
  | 0 => none
  | tries + 1 =>
    match number.onGrid? grid with
    | some digits => some ⟨digits, grid⟩
    | none => number.firstHit (grid - 1) tries

/-- The shortest decimal that rounds to the number. The grids run from the greatest power of ten
in range down to the finest that is ever needed. -/
def shortest (number : Binary) : Decimal :=
  (number.firstHit 309 634).getD ⟨0, 0⟩

end Binary

/-! ### Layout -/

/-- How a decimal is laid out: from which to which power of ten of its first digit it is written
without an exponent. -/
structure RealFormat where
  /-- The least power of ten of the first digit that is written without an exponent. -/
  lowest : Int
  /-- The greatest such power. -/
  highest : Int

namespace RealFormat

/-- The digits with a point after the first, and the power of ten of the first digit with its
sign. -/
def scientific (digits : List Char) (power : Int) : List Char :=
  let fraction := if digits.length ≤ 1 then [] else '.' :: digits.drop 1
  let sign := if power < 0 then '-' else '+'
  digits.take 1 ++ fraction ++ 'e' :: sign :: decimal power.natAbs

/-- The digits with a point where it belongs, and at least one digit on either side of it. -/
def positional (digits : List Char) (power : Int) : List Char :=
  if power < 0 then '0' :: '.' :: (List.replicate (-power - 1).toNat '0' ++ digits)
  else
    let whole := power.toNat + 1
    let padded := digits ++ List.replicate (whole - digits.length) '0'
    let fraction := padded.drop whole
    padded.take whole ++ '.' :: (if fraction.isEmpty then ['0'] else fraction)

/-- The text of a decimal other than 0. -/
def text (format : RealFormat) (number : Decimal) : List Char :=
  let digits := decimal number.digits
  let power := number.exponent + digits.length - 1
  if format.lowest ≤ power ∧ power ≤ format.highest then positional digits power
  else scientific digits power

/-- The text of a finite floating point number: the shortest that reads back as it. -/
def floatText (format : RealFormat) (x : Float) : List Char :=
  let bits := x.toBits
  let magnitude := bits.toNat % Nat.pow 2 63
  let sign := if bits.toNat = magnitude then [] else ['-']
  if magnitude = 0 then sign ++ ['0', '.', '0']
  else sign ++ format.text (Binary.ofBits (UInt64.ofNat magnitude)).shortest

end RealFormat

end Slab
