import Slab.Grid
import Slab.Share

/-!
# Canvases

A canvas is a rectangle of coloured points. A grid is laid out over a rectangle of it: heights are
shared among its rows, the widths of a row among its cells, each cell fills its area, and a nested
grid is laid out inside its cell, one point in from the border where there is room. Nested grids
wait in a list until the cells around them are filled.
-/

namespace Slab

/-- A rectangle of points. -/
structure Rect where
  /-- The first column. -/
  col : Nat
  /-- The first row. -/
  row : Nat
  /-- The number of columns. -/
  width : Nat
  /-- The number of rows. -/
  height : Nat
deriving DecidableEq, Repr

namespace Rect

/-- The rectangle has no points. -/
def isEmpty (rect : Rect) : Bool :=
  rect.width == 0 || rect.height == 0

/-- The rectangle less one point on every side, unless that would leave nothing. -/
def inset (rect : Rect) : Rect :=
  if 3 ≤ rect.width ∧ 3 ≤ rect.height then
    ⟨rect.col + 1, rect.row + 1, rect.width - 2, rect.height - 2⟩
  else rect

/-- The columns of the rectangle. -/
def columns (rect : Rect) : Span := ⟨rect.col, rect.width⟩

/-- The rows of the rectangle. -/
def lines (rect : Rect) : Span := ⟨rect.row, rect.height⟩

/-- The points in some columns and some rows. -/
def ofSpans (columns lines : Span) : Rect :=
  ⟨columns.start, lines.start, columns.length, lines.length⟩

end Rect

/-- A rectangle of coloured points, stored row by row. -/
structure Canvas (width height : Nat) where
  /-- The colours, the first row first. -/
  points : Vector Color (width * height)

namespace Canvas

variable {width height : Nat}

/-- The place of a point in the storage. -/
theorem index_lt {col row : Nat} (hcol : col < width) (hrow : row < height) :
    row * width + col < width * height := by
  have := Nat.mul_le_mul_right width (Nat.succ_le_of_lt hrow)
  rw [Nat.succ_mul, Nat.mul_comm height] at this
  omega

/-- A canvas all in the background colour. -/
def blank (width height : Nat) : Canvas width height :=
  ⟨Vector.replicate _ .background⟩

/-- The colour of a point. Outside the canvas all is background. -/
def get (canvas : Canvas width height) (col row : Nat) : Color :=
  if h : col < width ∧ row < height then
    canvas.points.get ⟨row * width + col, index_lt h.1 h.2⟩
  else .background

/-- The canvas with one point recoloured. Outside the canvas nothing happens. -/
def set (canvas : Canvas width height) (col row : Nat) (color : Color) : Canvas width height :=
  if h : col < width ∧ row < height then
    ⟨canvas.points.set (row * width + col) color (index_lt h.1 h.2)⟩
  else canvas

/-- The canvas with `count` points of a row recoloured, from a column on. -/
def fillLine (canvas : Canvas width height) (col row : Nat) (color : Color) :
    Nat → Canvas width height
  | 0 => canvas
  | count + 1 => (canvas.set col row color).fillLine (col + 1) row color count

/-- The canvas with `count` rows recoloured from a row on, `span` points of each from a column
on. -/
def fillLines (canvas : Canvas width height) (col row span : Nat) (color : Color) :
    Nat → Canvas width height
  | 0 => canvas
  | count + 1 => (canvas.fillLine col row color span).fillLines col (row + 1) span color count

/-- The canvas with the points of a rectangle recoloured, as far as they lie on it. -/
def fill (canvas : Canvas width height) (rect : Rect) (color : Color) : Canvas width height :=
  let right := min (rect.col + rect.width) width
  let bottom := min (rect.row + rect.height) height
  canvas.fillLines rect.col rect.row (right - rect.col) color (bottom - rect.row)

end Canvas

/-! ### Laying out a grid -/

/-- The cells of a row with their areas, for a row that takes up the given lines. -/
def Row.areas (row : Row) (columns lines : Span) : List (Cell × Rect) :=
  row.cells.zip ((columns.share (row.cells.map (·.width))).map (Rect.ofSpans · lines))

namespace Grid

/-- The cells of a grid with their areas, for a grid that takes up the given rectangle. -/
def areas (grid : Grid) (rect : Rect) : List (Cell × Rect) :=
  (grid.rows.zip (rect.lines.share (grid.rows.map (·.height)))).flatMap fun (row, lines) =>
    row.areas rect.columns lines

/-- The cells that have points of their own, with their areas. -/
def placed (grid : Grid) (rect : Rect) : List (Cell × Rect) :=
  (grid.areas rect).filter (!·.2.isEmpty)

end Grid

/-- The grid that a placed cell holds, with the rectangle it is laid out over. -/
def nestedPlacement? (placement : Cell × Rect) : Option (Grid × Rect) :=
  placement.1.nested.map (·, placement.2.inset)

/-! ### Why the waiting list runs out -/

namespace Grid

/-- The cells of a row keep their order when they are given areas. -/
theorem areas_sublist_row (row : Row) (columns lines : Span) :
    ((row.areas columns lines).map (·.1)).Sublist row.cells := by
  unfold Row.areas
  generalize (columns.share _).map _ = rects
  induction row.cells generalizing rects with
  | nil => simp
  | cons cell cells ih =>
    cases rects with
    | nil => simp
    | cons rect rects => simpa using ih rects

/-- The cells of a grid keep their order when they are given areas. -/
theorem areas_sublist (grid : Grid) (rect : Rect) :
    ((grid.areas rect).map (·.1)).Sublist grid.cells := by
  unfold areas cells
  generalize rect.lines.share _ = spans
  induction grid.rows generalizing spans with
  | nil => simp
  | cons row rows ih =>
    cases spans with
    | nil => simp
    | cons span spans =>
      simp only [List.zip_cons_cons, List.flatMap_cons, List.map_append]
      exact (areas_sublist_row row rect.columns span).append (ih spans)

/-- Fewer grids are together no larger. -/
theorem totalSize_le_of_sublist {fewer more : List Grid} (h : fewer.Sublist more) :
    totalSize fewer ≤ totalSize more := by
  induction h with
  | slnil => simp
  | cons grid _ ih => simp; omega
  | cons_cons grid _ ih => simp; omega

/-- The grids held by the placed cells of a grid are together smaller than the grid. -/
theorem placed_nested_lt (grid : Grid) (rect : Rect) :
    totalSize (((grid.placed rect).reverse.filterMap nestedPlacement?).map (·.1)) <
      sizeOf grid := by
  refine Nat.lt_of_le_of_lt ?_ grid.nested_sizeOf_lt
  have hmap : ∀ placements : List (Cell × Rect),
      (placements.filterMap nestedPlacement?).map (·.1) =
        (placements.map (·.1)).filterMap (·.nested) := by
    intro placements
    rw [List.map_filterMap, List.filterMap_map]
    congr 1
    funext placement
    simp only [nestedPlacement?, Function.comp_apply]
    cases placement.1.nested <;> rfl
  rw [List.filterMap_reverse, List.map_reverse, totalSize_reverse, hmap]
  exact totalSize_le_of_sublist
    (((List.filter_sublist.map _).trans (grid.areas_sublist rect)).filterMap _)

end Grid

/-! ### Drawing -/

namespace Canvas

variable {width height : Nat}

/-- The canvas with the areas of some cells filled. A cell without a colour is neutral. -/
def fillCells (canvas : Canvas width height) (placements : List (Cell × Rect)) :
    Canvas width height :=
  placements.foldl (fun canvas (cell, area) => canvas.fill area (cell.color.getD .neutral)) canvas

/-- The canvas once the waiting grids are laid out over their rectangles. -/
def drawAll (canvas : Canvas width height) : List (Grid × Rect) → Canvas width height
  | [] => canvas
  | (grid, rect) :: waiting =>
    (canvas.fillCells (grid.placed rect)).drawAll
      ((grid.placed rect).reverse.filterMap nestedPlacement? ++ waiting)
termination_by waiting => Grid.totalSize (waiting.map (·.1))
decreasing_by
  have := grid.placed_nested_lt rect
  simp only [List.map_append, Grid.totalSize_append, List.map_cons, Grid.totalSize_cons]
  omega

/-- The canvas with a grid laid out over a rectangle. -/
def drawIn (canvas : Canvas width height) (grid : Grid) (rect : Rect) : Canvas width height :=
  canvas.drawAll [(grid, rect)]

/-- The canvas with a grid laid out over all of it. -/
def draw (canvas : Canvas width height) (grid : Grid) : Canvas width height :=
  canvas.drawIn grid ⟨0, 0, width, height⟩

end Canvas

end Slab
