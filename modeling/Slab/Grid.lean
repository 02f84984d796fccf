import Slab.Color.Text

/-!
# Grids

A grid is a column of rows and a row is a line of cells; heights and widths are relative weights.
A cell may hold a grid of its own, so a grid is a tree. Trees can be very deep: `Grid.depth` and
`Grid.cellCount` keep the grids still to be visited in a list, and `nested_sizeOf_lt` is why the
list runs out.
-/

namespace Slab

mutual

/-- A layout: rows from top to bottom. -/
structure Grid where
  /-- The rows, top to bottom. -/
  rows : List Row

/-- A band of cells. -/
structure Row where
  /-- The weight of the row among the rows of its grid. -/
  height : Nat
  /-- The cells, left to right. -/
  cells : List Cell

/-- A unit of a row, which may hold a whole grid. -/
structure Cell where
  /-- The weight of the cell among the cells of its row. -/
  width : Nat
  /-- The colour, if any ink was active. -/
  color : Option Color
  /-- The grid inside the cell, if there is one; it may have no rows. -/
  nested : Option Grid

end

instance : Inhabited Grid := ⟨⟨[]⟩⟩

namespace Grid

/-- The grid without rows. -/
def empty : Grid := ⟨[]⟩

/-- The grid has no rows. -/
def isEmpty (grid : Grid) : Bool :=
  grid.rows.isEmpty

/-- The cells of the grid itself, row by row. -/
def cells (grid : Grid) : List Cell :=
  grid.rows.flatMap (·.cells)

/-- The grids held by the cells of the grid itself. -/
def nested (grid : Grid) : List Grid :=
  grid.cells.filterMap (·.nested)

/-! ### Nested grids are smaller -/

/-- The sizes of some grids together. -/
noncomputable def totalSize : List Grid → Nat
  | [] => 0
  | grid :: grids => sizeOf grid + totalSize grids

/-- The empty list of grids has no size. -/
@[simp] theorem totalSize_nil : totalSize [] = 0 := rfl

/-- Sizes add up along a list. -/
@[simp] theorem totalSize_cons (grid : Grid) (grids : List Grid) :
    totalSize (grid :: grids) = sizeOf grid + totalSize grids := rfl

/-- Sizes add up over two lists. -/
@[simp] theorem totalSize_append (grids more : List Grid) :
    totalSize (grids ++ more) = totalSize grids + totalSize more := by
  induction grids with
  | nil => simp
  | cons grid grids ih => simp only [List.cons_append, totalSize_cons, ih, Nat.add_assoc]

/-- The order does not matter for the size. -/
@[simp] theorem totalSize_reverse (grids : List Grid) :
    totalSize grids.reverse = totalSize grids := by
  induction grids with
  | nil => rfl
  | cons grid grids ih => simp [ih, Nat.add_comm]

/-- The grids held by a line of cells are together no larger than the line. -/
theorem cells_nested_sizeOf_le (cells : List Cell) :
    totalSize (cells.filterMap (·.nested)) ≤ sizeOf cells := by
  induction cells with
  | nil => simp
  | cons cell cells ih =>
    obtain ⟨width, color, nested⟩ := cell
    cases nested with
    | none => simp; omega
    | some grid => simp; omega

/-- The grids held by a column of rows are together no larger than the column. -/
theorem rows_nested_sizeOf_le (rows : List Row) :
    totalSize ((rows.flatMap (·.cells)).filterMap (·.nested)) ≤ sizeOf rows := by
  induction rows with
  | nil => simp
  | cons row rows ih =>
    obtain ⟨height, cells⟩ := row
    have := cells_nested_sizeOf_le cells
    simp; omega

/-- The grids held by the cells of a grid are together smaller than the grid. -/
theorem nested_sizeOf_lt (grid : Grid) : totalSize grid.nested < sizeOf grid := by
  obtain ⟨rows⟩ := grid
  have := rows_nested_sizeOf_le rows
  simp [nested, cells]; omega

/-! ### Depth and number of cells -/

/-- The greatest level among grids still to be visited, each paired with its own level, and
those visited so far. A grid without rows does not count, nor does what it would hold. -/
def deepestFrom (deepest : Nat) : List (Grid × Nat) → Nat
  | [] => deepest
  | (grid, level) :: pending =>
    if grid.isEmpty then deepestFrom deepest pending
    else deepestFrom (max deepest level) (grid.nested.map (·, level + 1) ++ pending)
termination_by pending => totalSize (pending.map (·.1))
decreasing_by
  · have : 0 < sizeOf grid := by cases grid; rw [Grid.mk.sizeOf_spec]; omega
    simp only [List.map_cons, totalSize_cons]
    omega
  · have := nested_sizeOf_lt grid
    simp only [List.map_append, List.map_map, Function.comp_def, List.map_id', List.map_cons,
      totalSize_append, totalSize_cons]
    omega

/-- How deep grids nest: 0 for a grid without rows, otherwise one more than the deepest grid
held by its cells. -/
def depth (grid : Grid) : Nat :=
  deepestFrom 0 [(grid, 1)]

/-- The number of cells counted so far and of those in the grids still to be visited. -/
def cellCountFrom (count : Nat) : List Grid → Nat
  | [] => count
  | grid :: pending => cellCountFrom (count + grid.cells.length) (grid.nested ++ pending)
termination_by pending => totalSize pending
decreasing_by
  have := nested_sizeOf_lt grid
  simp; omega

/-- The number of cells, those of nested grids included. -/
def cellCount (grid : Grid) : Nat :=
  cellCountFrom 0 [grid]

end Grid

end Slab
