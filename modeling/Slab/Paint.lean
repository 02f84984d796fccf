import Slab.Canvas
import Slab.Decimal.Natural

/-!
# Painting a canvas on a terminal

A row of a canvas becomes a line of blanks on coloured backgrounds: one colour code for each run
of equal colours, and a reset before the line ends.
-/

namespace Slab

/-! ### Runs -/

/-- The runs of a list with one more item in front. -/
def consRun {α : Type} [DecidableEq α] (item : α) : List (α × Nat) → List (α × Nat)
  | (first, count) :: runs =>
    if item = first then (first, count + 1) :: runs else (item, 1) :: (first, count) :: runs
  | [] => [(item, 1)]

/-- The maximal runs of equal neighbours in a list, each with its length. -/
def runs {α : Type} [DecidableEq α] (items : List α) : List (α × Nat) :=
  items.foldr consRun []

/-! ### Terminal codes -/

/-- The code that sets the background colour. -/
def backgroundCode (color : Color) : List Char :=
  "\x1b[48;2;".toList ++ decimal color.red.toNat ++ ';' :: decimal color.green.toNat ++
    ';' :: decimal color.blue.toNat ++ ['m']

/-- The code that takes all settings back. -/
def resetCode : List Char := "\x1b[0m".toList

/-- A line of colours as a terminal shows it. -/
def paintLine (colors : List Color) : List Char :=
  (runs colors).flatMap (fun (color, count) => backgroundCode color ++ List.replicate count ' ') ++
    resetCode ++ ['\n']

namespace Canvas

variable {width height : Nat}

/-- The colours of a row, left to right. -/
def line (canvas : Canvas width height) (row : Nat) : List Color :=
  (List.range width).map (canvas.get · row)

/-- The rows of a canvas, top to bottom. -/
def toLines (canvas : Canvas width height) : List (List Color) :=
  (List.range height).map canvas.line

/-- The characters that paint a canvas. -/
def paintChars (canvas : Canvas width height) : List Char :=
  canvas.toLines.flatMap paintLine

/-- The text that paints a canvas. -/
def paint (canvas : Canvas width height) : String :=
  String.ofList canvas.paintChars

end Canvas

end Slab
