/-!
# Colours

An opaque colour has three channels of eight bits. `Color.lighten` blends it towards white;
`nearestByte` is the rounding that the blend ends with.
-/

namespace Slab

/-- An opaque colour: red, green and blue, each from 0 to 255. -/
structure Color where
  /-- The red channel. -/
  red : UInt8
  /-- The green channel. -/
  green : UInt8
  /-- The blue channel. -/
  blue : UInt8
deriving DecidableEq, Repr, Inhabited

/-! ### Fixed colours -/

/-- The colour that a self-reference grows with once expansion is over. -/
def Color.pale : Color := ⟨0xFF, 0xAA, 0xAA⟩

/-- The colour of a drawn cell that carries none. -/
def Color.neutral : Color := ⟨0x9E, 0x9E, 0x9E⟩

/-- The colour of a canvas point that no cell covers. -/
def Color.background : Color := ⟨0xFF, 0xFF, 0xFF⟩

/-! ### Lightening -/

/-- The byte nearest to a number: a half goes up, a number out of range goes to the nearer end,
and what is not a number goes to 0. -/
def nearestByte (x : Float) : UInt8 :=
  let whole := x.toUInt8
  if whole < 255 && x - whole.toFloat ≥ 0.5 then whole + 1 else whole

/-- A channel moved towards 255 by the given share of the way that is left. -/
def blendChannel (amount : Float) (channel : UInt8) : UInt8 :=
  nearestByte (channel.toFloat + (255 - channel.toFloat) * amount)

/-- A colour blended towards white by `multiplier - 1`: a multiplier of 1 keeps the colour, and
one of 2 or more gives white. -/
def Color.lighten (color : Color) (multiplier : Float) : Color :=
  let amount := multiplier - 1
  ⟨blendChannel amount color.red, blendChannel amount color.green,
    blendChannel amount color.blue⟩

end Slab
