import Slab.Proofs.Filling
import Slab.Proofs.Tree

/-!
# Looking up a point of a layout

`Grid.lookup` finds the colour of a point by going down the tree: the row whose lines have the
point, in it the cell whose columns have it, and in the cell the grid it holds. At most one cell of
a grid has a point, so what `Grid.cellAt?` finds is what any search would find (`cellAt?_iff`), and
`lookup_eq` unfolds the lookup by one grid.
-/

namespace Slab

/-- The cell of a row that takes up a column, with its columns. -/
def Row.cellAt? (row : Row) (columns : Span) (x : Nat) : Option (Cell × Span) :=
  (row.cells.zip (columns.share (row.cells.map (·.width)))).find? (·.2.Contains x)

namespace Grid

/-- The row of a grid that takes up a line, with its lines. -/
def rowAt? (grid : Grid) (lines : Span) (y : Nat) : Option (Row × Span) :=
  (grid.rows.zip (lines.share (grid.rows.map (·.height)))).find? (·.2.Contains y)

/-- The cell of a grid that has a point, with its area. -/
def cellAt? (grid : Grid) (rect : Rect) (x y : Nat) : Option (Cell × Rect) := do
  let (row, lines) ← grid.rowAt? rect.lines y
  let (cell, columns) ← row.cellAt? rect.columns x
  return (cell, Rect.ofSpans columns lines)

variable {grid : Grid} {rect : Rect} {x y : Nat} {cell : Cell} {area : Rect}

/-- A cell has its area from a piece of the lines and a piece of the columns. -/
theorem mem_areas_iff : (cell, area) ∈ grid.areas rect ↔
    ∃ row lines, (row, lines) ∈ grid.rows.zip (rect.lines.share (grid.rows.map (·.height))) ∧
      ∃ columns, (cell, columns) ∈
          row.cells.zip (rect.columns.share (row.cells.map (·.width))) ∧
        area = Rect.ofSpans columns lines := by
  simp only [areas, Row.areas, List.mem_flatMap, List.zip_map_right, List.mem_map, Prod.exists,
    Prod.map_apply, id_eq, Prod.mk.injEq]
  constructor
  · rintro ⟨row, lines, hrow, _, columns, hcell, rfl, rfl⟩
    exact ⟨row, lines, hrow, columns, hcell, rfl⟩
  · rintro ⟨row, lines, hrow, columns, hcell, rfl⟩
    exact ⟨row, lines, hrow, cell, columns, hcell, rfl, rfl⟩

/-- A point has at most one cell, the one whose area it is in. -/
theorem cellAt?_iff :
    grid.cellAt? rect x y = some (cell, area) ↔
      (cell, area) ∈ grid.areas rect ∧ area.Contains x y := by
  simp only [cellAt?, rowAt?, Row.cellAt?, mem_areas_iff, Option.bind_eq_bind,
    Option.bind_eq_some_iff, Prod.exists, Span.find?_zip_share_iff, Option.pure_def,
    Option.some.injEq, Prod.mk.injEq]
  constructor
  · rintro ⟨row, lines, ⟨hrow, hy⟩, _, columns, ⟨hcell, hx⟩, rfl, rfl⟩
    exact ⟨⟨row, lines, hrow, columns, hcell, rfl⟩, hx, hy⟩
  · rintro ⟨⟨row, lines, hrow, columns, hcell, rfl⟩, hx, hy⟩
    exact ⟨row, lines, ⟨hrow, hy⟩, cell, columns, ⟨hcell, hx⟩, rfl, rfl⟩

/-- The cells with points of their own are where points are looked for. -/
theorem cellAt?_iff_placed :
    grid.cellAt? rect x y = some (cell, area) ↔
      (cell, area) ∈ grid.placed rect ∧ area.Contains x y := by
  rw [cellAt?_iff, placed, List.mem_filter]
  constructor
  · rintro ⟨hmem, hpoint⟩
    refine ⟨⟨hmem, ?_⟩, hpoint⟩
    simpa using hpoint.not_isEmpty
  · rintro ⟨⟨hmem, -⟩, hpoint⟩
    exact ⟨hmem, hpoint⟩

/-- A point without a cell is in none of the areas. -/
theorem cellAt?_eq_none_iff :
    grid.cellAt? rect x y = none ↔
      ∀ placement ∈ grid.placed rect, ¬placement.2.Contains x y := by
  constructor
  · rintro hnone ⟨cell, area⟩ hmem hpoint
    have hsome := cellAt?_iff_placed.mpr ⟨hmem, hpoint⟩
    rw [hnone] at hsome
    exact nomatch hsome
  · intro h
    rw [Option.eq_none_iff_forall_ne_some]
    rintro ⟨cell, area⟩ hsome
    obtain ⟨hmem, hpoint⟩ := cellAt?_iff_placed.mp hsome
    exact h _ hmem hpoint

/-- The areas of the cells lie in the rectangle of the grid. -/
theorem contains_of_cellAt? (h : grid.cellAt? rect x y = some (cell, area)) :
    rect.Contains x y := by
  obtain ⟨hmem, hx, hy⟩ := cellAt?_iff.mp h
  obtain ⟨row, lines, hrow, columns, hcell, rfl⟩ := mem_areas_iff.mp hmem
  exact ⟨Span.contains_of_mem_share (List.of_mem_zip hcell).2 hx,
    Span.contains_of_mem_share (List.of_mem_zip hrow).2 hy⟩

/-- The cell of a point is one of the cells of the grid. -/
theorem mem_cells_of_cellAt? (h : grid.cellAt? rect x y = some (cell, area)) :
    cell ∈ grid.cells := by
  have hmem : cell ∈ (grid.areas rect).map (·.1) :=
    List.mem_map_of_mem (f := (·.1)) (cellAt?_iff.mp h).1
  exact (grid.areas_sublist rect).mem hmem

/-- The grid in the cell of a point is held by the grid. -/
theorem holds_of_cellAt? {inner : Grid} (h : grid.cellAt? rect x y = some (cell, area))
    (hinner : cell.nested = some inner) : grid.Holds inner :=
  List.mem_filterMap.mpr ⟨cell, mem_cells_of_cellAt? h, hinner⟩

/-- A grid with a cell at a point has rows. -/
theorem not_isEmpty_of_cellAt? (h : grid.cellAt? rect x y = some (cell, area)) :
    ¬grid.isEmpty := by
  intro hempty
  have hcell := mem_cells_of_cellAt? h
  rw [cells, List.isEmpty_iff.mp hempty] at hcell
  exact List.not_mem_nil hcell

/-! ### The lookup -/

/-- The colour a point has once the grid is laid out over the rectangle, if it gets one: that of
the grid in its cell, or else that of the cell, which is neutral if the cell has none. -/
def lookup (grid : Grid) (rect : Rect) (x y : Nat) : Option Color :=
  if rect.isEmpty ∨ grid.isEmpty ∨ ¬rect.Contains x y then none
  else
    match _ : grid.cellAt? rect x y with
    | none => none
    | some (cell, area) =>
      match _ : cell.nested with
      | none => some (cell.color.getD .neutral)
      | some inner =>
        match inner.lookup area.inset x y with
        | some color => some color
        | none => some (cell.color.getD .neutral)
termination_by sizeOf grid
decreasing_by exact (holds_of_cellAt? ‹_› ‹_›).sizeOf_lt

/-- Without a cell at the point there is nothing to look up. -/
theorem lookup_of_cellAt?_eq_none (h : grid.cellAt? rect x y = none) :
    grid.lookup rect x y = none := by
  rw [lookup]
  split_ifs with houtside
  · rfl
  · split
    · rfl
    · next cell area hcell =>
        rw [h] at hcell
        exact nomatch hcell

/-- In its cell a point has the colour of the nested grid or else that of the cell. -/
theorem lookup_of_cellAt? (h : grid.cellAt? rect x y = some (cell, area)) :
    grid.lookup rect x y =
      some ((cell.nested.bind (·.lookup area.inset x y)).getD (cell.color.getD .neutral)) := by
  have hpoint := contains_of_cellAt? h
  have hinside : ¬(rect.isEmpty ∨ grid.isEmpty ∨ ¬rect.Contains x y) := by
    rintro (hrect | hgrid | houtside)
    · exact hpoint.not_isEmpty hrect
    · exact not_isEmpty_of_cellAt? h hgrid
    · exact houtside hpoint
  rw [lookup, if_neg hinside]
  split
  · next hnone =>
      rw [h] at hnone
      exact nomatch hnone
  · next cell' area' hcell =>
      obtain ⟨rfl, rfl⟩ : cell = cell' ∧ area = area' := by
        rw [h] at hcell
        exact Prod.mk.inj (Option.some.inj hcell)
      split
      · next hinner => rw [hinner]; rfl
      · next inner hinner =>
          rw [hinner]
          cases hlookup : inner.lookup area.inset x y with
          | none => simp [hlookup]
          | some color => simp [hlookup]

/-- A point outside the rectangle has no colour from it. -/
theorem contains_of_lookup {color : Color} (h : grid.lookup rect x y = some color) :
    rect.Contains x y := by
  cases hcell : grid.cellAt? rect x y with
  | none =>
      rw [lookup_of_cellAt?_eq_none hcell] at h
      exact nomatch h
  | some placement => exact contains_of_cellAt? hcell

end Grid

end Slab
