import Slab.Command

/-!
# Ink

Growth takes its colour from the ink: a base colour, if a hue was selected, and a lightness that
only grows. Nested programs get a copy, so what they do to it stays with them.
-/

namespace Slab

/-- The active base colour and the lightness that it is blended with. -/
structure Ink where
  /-- The base colour, if any is selected. -/
  base : Option Color := none
  /-- The multiplier of `Color.lighten`. -/
  lightness : Float := 1

namespace Ink

/-- What one lightening adds to the lightness. -/
def step : Float := 0.05

/-- The ink after a hue is selected. A hue without a base colour changes nothing. -/
def select (ink : Ink) (hue : Hue) : Ink :=
  match hue.base with
  | some color => { ink with base := some color }
  | none => ink

/-- The ink one step lighter. -/
def lighten (ink : Ink) : Ink :=
  { ink with lightness := ink.lightness + step }

/-- The ink without its hue, at the same lightness. -/
def spend (ink : Ink) : Ink :=
  { ink with base := none }

/-- The colour that growth takes on, if a hue is active. -/
def color? (ink : Ink) : Option Color :=
  ink.base.map (·.lighten ink.lightness)

end Ink

end Slab
