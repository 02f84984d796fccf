import Slab.Decimal.Natural
import Slab.Grid

/-!
# The JSON text of a grid

A grid is written as an array of rows, a row as an object with its height and its cells, and a
cell as an object with its width and, where they are present, its colour and the grid it holds. A
`Layout` says what blanks go between the parts; `Layout.compact` has none and `Layout.pretty` puts
every part on a line of its own.
-/

namespace Slab.Json

/-- The blanks of a JSON text. -/
structure Layout where
  /-- What stands before each item at a nesting level and before the bracket that ends it. -/
  gap : Nat → List Char
  /-- What stands between a key and its value. -/
  colon : List Char

namespace Layout

/-- No blanks. -/
def compact : Layout where
  gap _ := []
  colon := [':']

/-- A line for every item, two more columns of indent for every level. -/
def pretty : Layout where
  gap level := '\n' :: List.replicate (2 * level) ' '
  colon := [':', ' ']

/-- The items after the first, each after a comma. -/
def tail (layout : Layout) (level : Nat) (items : List (List Char)) : List Char :=
  items.flatMap fun item => ',' :: (layout.gap (level + 1) ++ item)

/-- Some items between two brackets. If there are none, the brackets touch. -/
def block (layout : Layout) (level : Nat) (opening closing : Char) :
    List (List Char) → List Char
  | [] => [opening, closing]
  | item :: items =>
    opening :: (layout.gap (level + 1) ++ item ++ layout.tail level items ++
      layout.gap level ++ [closing])

/-- A key of an object with its value. -/
def member (layout : Layout) (key : String) (value : List Char) : List Char :=
  '"' :: (key.toList ++ '"' :: (layout.colon ++ value))

/-- A colour as a JSON string. -/
def colorText (color : Color) : List Char :=
  '"' :: (color.chars ++ ['"'])

/-- The colour of a cell as a member, if it has one. -/
def colorMember (layout : Layout) : Option Color → List (List Char)
  | some color => [layout.member "color" (colorText color)]
  | none => []

mutual

/-- A grid at a nesting level. -/
def gridText (layout : Layout) (level : Nat) : Grid → List Char
  | ⟨rows⟩ => layout.block level '[' ']' (layout.rowTexts (level + 1) rows)

/-- The rows of a grid, each by itself. -/
def rowTexts (layout : Layout) (level : Nat) : List Row → List (List Char)
  | [] => []
  | ⟨height, cells⟩ :: rows =>
    layout.block level '\x7b' '\x7d'
      [layout.member "height" (decimal height),
        layout.member "cells"
          (layout.block (level + 1) '[' ']' (layout.cellTexts (level + 2) cells))] ::
      layout.rowTexts level rows

/-- The cells of a row, each by itself. -/
def cellTexts (layout : Layout) (level : Nat) : List Cell → List (List Char)
  | [] => []
  | ⟨width, color, nested⟩ :: cells =>
    layout.block level '\x7b' '\x7d'
      (layout.member "width" (decimal width) ::
        (layout.colorMember color ++ layout.nestedMember (level + 1) nested)) ::
      layout.cellTexts level cells

/-- The grid that a cell holds as a member, if there is one. -/
def nestedMember (layout : Layout) (level : Nat) : Option Grid → List (List Char)
  | some grid => [layout.member "slab" (layout.gridText level grid)]
  | none => []

end

end Layout

end Slab.Json

namespace Slab.Grid

/-- The JSON text of a grid without blanks. -/
def toJson (grid : Grid) : String :=
  String.ofList (Json.Layout.compact.gridText 0 grid)

/-- The JSON text of a grid with a line for every item. -/
def toPrettyJson (grid : Grid) : String :=
  String.ofList (Json.Layout.pretty.gridText 0 grid)

end Slab.Grid
