import Slab.Decimal.Natural
import Slab.Grid

/-!
# The outline of a grid

An outline lists rows and cells line by line: each row before its cells, each cell before the
rows of the grid it holds, two columns further in at every step. `Grid.outlineEntries` visits the
tree with a list of what is still to be written, so its depth is not limited by a call stack.
-/

namespace Slab

/-- A line of an outline. -/
inductive OutlineEntry
  /-- A row, its indent and its height. -/
  | row (indent height : Nat)
  /-- A cell, its indent, its width and its colour. -/
  | cell (indent width : Nat) (color : Option Color)
deriving DecidableEq, Repr

/-- The text of a line, with the line feed that ends it. -/
def OutlineEntry.chars : OutlineEntry → List Char
  | .row indent height =>
    List.replicate indent ' ' ++ "row h=".toList ++ decimal height ++ ['\n']
  | .cell indent width color =>
    List.replicate indent ' ' ++ "cell w=".toList ++ decimal width ++
      (match color with
        | some color => ' ' :: color.chars
        | none => []) ++ ['\n']

/-- A part of a tree that an outline has still to list. -/
inductive OutlineItem
  /-- A row and all below it. -/
  | row (row : Row)
  /-- A cell and all below it. -/
  | cell (cell : Cell)

namespace OutlineItem

/-- The line of the item itself. -/
def entry (indent : Nat) : OutlineItem → OutlineEntry
  | .row r => .row indent r.height
  | .cell c => .cell indent c.width c.color

/-- What stands directly below the item. -/
def below : OutlineItem → List OutlineItem
  | .row r => r.cells.map .cell
  | .cell c => match c.nested with
    | some grid => grid.rows.map .row
    | none => []

/-- The size of the part of the tree that the item stands for. -/
noncomputable def size : OutlineItem → Nat
  | .row r => sizeOf r
  | .cell c => sizeOf c

/-- The sizes of some items together. -/
noncomputable def totalSize : List OutlineItem → Nat
  | [] => 0
  | item :: items => item.size + totalSize items

/-- Sizes add up over two lists. -/
theorem totalSize_append (items more : List OutlineItem) :
    totalSize (items ++ more) = totalSize items + totalSize more := by
  induction items with
  | nil => simp [totalSize]
  | cons item items ih => simp only [List.cons_append, totalSize, ih, Nat.add_assoc]

/-- Rows taken one by one are no larger than the column they form. -/
theorem totalSize_rows_le (rows : List Row) : totalSize (rows.map .row) ≤ sizeOf rows := by
  induction rows with
  | nil => simp [totalSize]
  | cons row rows ih =>
    simp only [totalSize, List.map_cons, List.cons.sizeOf_spec, size]
    omega

/-- Cells taken one by one are no larger than the line they form. -/
theorem totalSize_cells_le (cells : List Cell) : totalSize (cells.map .cell) ≤ sizeOf cells := by
  induction cells with
  | nil => simp [totalSize]
  | cons cell cells ih =>
    simp only [totalSize, List.map_cons, List.cons.sizeOf_spec, size]
    omega

/-- What stands below an item is smaller than the item. -/
theorem totalSize_below_lt (item : OutlineItem) : totalSize item.below < item.size := by
  cases item with
  | row r =>
    obtain ⟨height, cells⟩ := r
    have := totalSize_cells_le cells
    simp only [below, size, Row.mk.sizeOf_spec]
    omega
  | cell c =>
    obtain ⟨width, color, nested⟩ := c
    cases nested with
    | none => simp [below, size, totalSize]
    | some grid =>
      obtain ⟨rows⟩ := grid
      have := totalSize_rows_le rows
      simp only [below, size, Cell.mk.sizeOf_spec, Option.some.sizeOf_spec, Grid.mk.sizeOf_spec]
      omega

end OutlineItem

namespace Grid

/-- The lines listed so far, newest first, and those of the items still to be listed. -/
def outlineFrom (listed : List OutlineEntry) : List (OutlineItem × Nat) → List OutlineEntry
  | [] => listed.reverse
  | (item, indent) :: pending =>
    outlineFrom (item.entry indent :: listed) (item.below.map (·, indent + 2) ++ pending)
termination_by pending => OutlineItem.totalSize (pending.map (·.1))
decreasing_by
  have := OutlineItem.totalSize_below_lt item
  simp only [OutlineItem.totalSize, OutlineItem.totalSize_append, List.map_append, List.map_map,
    Function.comp_def, List.map_id', List.map_cons]
  omega

/-- The lines of the outline of a grid. -/
def outlineEntries (grid : Grid) : List OutlineEntry :=
  outlineFrom [] (grid.rows.map (.row ·, 0))

/-- The outline of a grid as text. -/
def outline (grid : Grid) : String :=
  String.ofList (grid.outlineEntries.flatMap (·.chars))

end Grid

end Slab
