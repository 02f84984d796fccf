import Slab.Grid
import Slab.Json.Reader

/-!
# Reading a grid from JSON

`Grid.ofJson` reads what `Grid.toJson` and `Grid.toPrettyJson` write, and a little more: rows and
cells may also be arrays of their parts, unknown keys are passed over, and a colour or a nested
grid may be null. At most `nestingLimit` brackets may be open at a time; the number still allowed
is what the readers recur on.
-/

namespace Slab.Json

open Reader

/-! ### Rows -/

/-- The fields of a row that are known so far. -/
structure RowFields where
  /-- The height. -/
  height : Option Nat := none
  /-- The cells. -/
  cells : Option (List Cell) := none

namespace RowFields

/-- The next field of a row. -/
def read (cells : Reader (List Cell)) : Fields RowFields := fun known key =>
  if key = "height".toList then
    if known.height.isSome then .error (.misfit (.repeated "height"))
    else .ok (weight.map fun value => { known with height := some value })
  else if key = "cells".toList then
    if known.cells.isSome then .error (.misfit (.repeated "cells"))
    else .ok (cells.map fun value => { known with cells := some value })
  else .ok (skip.map fun _ => known)

/-- The row with these fields, if none is missing. -/
def toRow (known : RowFields) : Except Fault Row :=
  match known.height, known.cells with
  | none, _ => .error (.misfit (.missing "height"))
  | _, none => .error (.misfit (.missing "cells"))
  | some height, some cells => .ok ⟨height, cells⟩

end RowFields

/-- A row written as an object. -/
def rowInObject (cells : Reader (List Cell)) (text : List Char) : Except Fault (Row × List Char) :=
  match members (RowFields.read cells) {} text with
  | .error fault => .error fault
  | .ok (known, rest) => known.toRow.map (·, rest)

/-- A row written as an array of its height and its cells. -/
def rowInArray (cells : Reader (List Cell)) (text : List Char) : Except Fault (Row × List Char) :=
  match nextPart true weight text with
  | .error fault => .error fault
  | .ok (none, _) => .error (.misfit (.tooShort 0 .row 2))
  | .ok (some height, rest) =>
    match nextPart false cells rest with
    | .error fault => .error fault
    | .ok (none, _) => .error (.misfit (.tooShort 1 .row 2))
    | .ok (some cells, rest) => lastPart ⟨height, cells⟩ rest

/-- A row in an object does not lengthen the text. -/
theorem rowInObject_shortens {cells : Reader (List Cell)} {text rest : List Char} {row : Row}
    (h : rowInObject cells text = .ok (row, rest)) : rest.length ≤ text.length := by
  unfold rowInObject at h
  split at h
  · cases h
  · next known after hmembers =>
    cases hrow : known.toRow with
    | error fault => rw [hrow] at h; cases h
    | ok result =>
      rw [hrow] at h
      cases h
      exact Nat.le_of_lt (members_shortens hmembers)

/-- A row in an array does not lengthen the text. -/
theorem rowInArray_shortens {cells : Reader (List Cell)} {text rest : List Char} {row : Row}
    (h : rowInArray cells text = .ok (row, rest)) : rest.length ≤ text.length := by
  unfold rowInArray at h
  split at h
  · cases h
  · cases h
  · next hheight =>
    have := nextPart_shortens hheight
    split at h
    · cases h
    · cases h
    · next hcells =>
      have := nextPart_shortens hcells
      have := lastPart_shortens h
      omega

/-- A row, if there is a reader for its cells. -/
def rowOf : Option (Reader (List Cell)) → Reader Row
  | some cells =>
    record .row (rowInArray cells) (rowInObject cells) rowInArray_shortens rowInObject_shortens
  | none => record .row tooDeep tooDeep nofun nofun

/-! ### Cells -/

/-- The fields of a cell that are known so far. -/
structure CellFields where
  /-- The width. -/
  width : Option Nat := none
  /-- The colour, which may be null. -/
  color : Option (Option Color) := none
  /-- The nested grid, which may be null. -/
  nested : Option (Option Grid) := none

namespace CellFields

/-- The next field of a cell. -/
def read (grid : Reader Grid) : Fields CellFields := fun known key =>
  if key = "width".toList then
    if known.width.isSome then .error (.misfit (.repeated "width"))
    else .ok (weight.map fun value => { known with width := some value })
  else if key = "color".toList then
    if known.color.isSome then .error (.misfit (.repeated "color"))
    else .ok ((nullable Reader.color).map fun value => { known with color := some value })
  else if key = "slab".toList then
    if known.nested.isSome then .error (.misfit (.repeated "slab"))
    else .ok ((nullable grid).map fun value => { known with nested := some value })
  else .ok (skip.map fun _ => known)

/-- The cell with these fields, if its width is known. -/
def toCell (known : CellFields) : Except Fault Cell :=
  match known.width with
  | none => .error (.misfit (.missing "width"))
  | some width => .ok ⟨width, known.color.join, known.nested.join⟩

end CellFields

/-- A cell written as an object. -/
def cellInObject (grid : Reader Grid) (text : List Char) : Except Fault (Cell × List Char) :=
  match members (CellFields.read grid) {} text with
  | .error fault => .error fault
  | .ok (known, rest) => known.toCell.map (·, rest)

/-- A cell written as an array of its width, its colour and its nested grid, of which only the
width has to be there. -/
def cellInArray (grid : Reader Grid) (text : List Char) : Except Fault (Cell × List Char) :=
  match nextPart true weight text with
  | .error fault => .error fault
  | .ok (none, _) => .error (.misfit (.tooShort 0 .cell 3))
  | .ok (some width, rest) =>
    match nextPart false (nullable color) rest with
    | .error fault => .error fault
    | .ok (color, rest) =>
      match nextPart false (nullable grid) rest with
      | .error fault => .error fault
      | .ok (nested, rest) => lastPart ⟨width, color.join, nested.join⟩ rest

/-- A cell in an object does not lengthen the text. -/
theorem cellInObject_shortens {grid : Reader Grid} {text rest : List Char} {cell : Cell}
    (h : cellInObject grid text = .ok (cell, rest)) : rest.length ≤ text.length := by
  unfold cellInObject at h
  split at h
  · cases h
  · next known after hmembers =>
    cases hcell : known.toCell with
    | error fault => rw [hcell] at h; cases h
    | ok result =>
      rw [hcell] at h
      cases h
      exact Nat.le_of_lt (members_shortens hmembers)

/-- A cell in an array does not lengthen the text. -/
theorem cellInArray_shortens {grid : Reader Grid} {text rest : List Char} {cell : Cell}
    (h : cellInArray grid text = .ok (cell, rest)) : rest.length ≤ text.length := by
  unfold cellInArray at h
  split at h
  · cases h
  · cases h
  · next hwidth =>
    have := nextPart_shortens hwidth
    split at h
    · cases h
    · next hcolor =>
      have := nextPart_shortens hcolor
      split at h
      · cases h
      · next hnested =>
        have := nextPart_shortens hnested
        have := lastPart_shortens h
        omega

/-- A cell, if there is a reader for the grid it may hold. -/
def cellOf : Option (Reader Grid) → Reader Cell
  | some grid =>
    record .cell (cellInArray grid) (cellInObject grid) cellInArray_shortens cellInObject_shortens
  | none => record .cell tooDeep tooDeep nofun nofun

/-! ### Grids -/

mutual

/-- A grid in which at most so many brackets are open at a time. -/
def gridReader : Nat → Reader Grid
  | 0 => (array none).map .mk
  | levels + 1 => (array (some (rowReader levels))).map .mk

/-- A row in which at most so many brackets are open at a time. -/
def rowReader : Nat → Reader Row
  | 0 => rowOf none
  | levels + 1 => rowOf (some (cellsReader levels))

/-- The cells of a row, in which at most so many brackets are open at a time. -/
def cellsReader : Nat → Reader (List Cell)
  | 0 => array none
  | levels + 1 => array (some (cellReader levels))

/-- A cell in which at most so many brackets are open at a time. -/
def cellReader : Nat → Reader Cell
  | 0 => cellOf none
  | levels + 1 => cellOf (some (gridReader levels))

end

/-- How many brackets may be open at a time. -/
def nestingLimit : Nat := 127

end Slab.Json

namespace Slab

/-- The grid that a JSON text denotes. -/
def Grid.ofJson (text : String) : Except Json.Fault Grid :=
  (Json.gridReader Json.nestingLimit).whole text.toList

/-- The colour that a JSON text denotes. -/
def Color.ofJson (text : String) : Except Json.Fault Color :=
  Json.Reader.color.whole text.toList

/-- A colour as JSON text. -/
def Color.toJson (color : Color) : String :=
  "\"" ++ color.text ++ "\""

end Slab
