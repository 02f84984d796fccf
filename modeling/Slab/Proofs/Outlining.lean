import Mathlib.Data.List.Basic
import Slab.Outline
import Slab.Proofs.Codes
import Slab.Proofs.Tree

/-!
# What an outline tells

An outline is listed with a list of what is still to come, and comes out as the recursion over the
tree would have it (`outlineEntries_eq_lines`). Whatever is below a row or a cell stands further in
than the row or the cell itself, so where the next line stands no further in, that part of the tree
is over. Hence the lines can be taken apart again, up to grids without rows, which have no lines
(`unambiguous_lines`), and the text can be taken apart into lines (`unambiguous_chars`).
**`outline_tells`** says both of the text: what it is, and that two grids have the same outline if
and only if they are equal once `pruned`.
-/

namespace Slab

/-! ### The outline by recursion -/

mutual

/-- The lines of a grid that stands at an indent: those of its rows, in order. -/
def Grid.lines (indent : Nat) : Grid → List OutlineEntry
  | ⟨rows⟩ => rowLines indent rows

/-- The lines of some rows: each row is followed by its cells, two columns further in. -/
def rowLines (indent : Nat) : List Row → List OutlineEntry
  | [] => []
  | ⟨height, cells⟩ :: rows =>
    .row indent height :: (cellLines (indent + 2) cells ++ rowLines indent rows)

/-- The lines of some cells: each cell is followed by the grid in it, two columns further in. -/
def cellLines (indent : Nat) : List Cell → List OutlineEntry
  | [] => []
  | ⟨width, color, none⟩ :: cells => .cell indent width color :: cellLines indent cells
  | ⟨width, color, some grid⟩ :: cells =>
    .cell indent width color :: (grid.lines (indent + 2) ++ cellLines indent cells)

end

/-- The grid in a cell; where there is none, the grid without rows. -/
def Cell.inner (cell : Cell) : Grid :=
  cell.nested.getD .empty

/-- The lines of a cell and of the grid in it. -/
def Cell.lines (indent : Nat) (cell : Cell) : List OutlineEntry :=
  .cell indent cell.width cell.color :: cell.inner.lines (indent + 2)

/-- The lines of a row and of its cells. -/
def Row.lines (indent : Nat) (row : Row) : List OutlineEntry :=
  .row indent row.height :: row.cells.flatMap (Cell.lines (indent + 2))

/-- A grid without rows has no lines. -/
@[simp] theorem Grid.lines_empty (indent : Nat) : Grid.empty.lines indent = [] := by
  rw [Grid.empty, Grid.lines, rowLines]

/-- Cells are listed one by one. -/
theorem cellLines_eq_flatMap (indent : Nat) (cells : List Cell) :
    cellLines indent cells = cells.flatMap (Cell.lines indent) := by
  induction cells with
  | nil => rw [cellLines, List.flatMap_nil]
  | cons cell cells ih =>
      obtain ⟨width, color, _ | grid⟩ := cell
      · rw [cellLines, ih, List.flatMap_cons, Cell.lines, Cell.inner, Option.getD_none,
          Grid.lines_empty]
        rfl
      · rw [cellLines, ih]
        rfl

/-- Rows are listed one by one. -/
theorem rowLines_eq_flatMap (indent : Nat) (rows : List Row) :
    rowLines indent rows = rows.flatMap (Row.lines indent) := by
  induction rows with
  | nil => rw [rowLines, List.flatMap_nil]
  | cons row rows ih =>
      obtain ⟨height, cells⟩ := row
      rw [rowLines, cellLines_eq_flatMap, ih]
      rfl

/-- A grid is listed row by row. -/
theorem Grid.lines_eq (indent : Nat) (grid : Grid) :
    grid.lines indent = grid.rows.flatMap (Row.lines indent) := by
  obtain ⟨rows⟩ := grid
  rw [lines, rowLines_eq_flatMap]

namespace OutlineItem

/-- The lines of an item and of all below it. -/
def lines (indent : Nat) : OutlineItem → List OutlineEntry
  | .row r => r.lines indent
  | .cell c => c.lines indent

/-- What is directly below an item stands two columns further in. -/
theorem lines_eq (indent : Nat) (item : OutlineItem) :
    item.lines indent = item.entry indent :: item.below.flatMap (lines (indent + 2)) := by
  rcases item with ⟨height, cells⟩ | ⟨width, color, _ | grid⟩
  · rw [below, List.flatMap_map]
    rfl
  · rw [lines, Cell.lines, Cell.inner, Option.getD_none, Grid.lines_empty]
    rfl
  · rw [lines, Cell.lines, Cell.inner, Option.getD_some, Grid.lines_eq, below, List.flatMap_map]
    rfl

end OutlineItem

/-- Items that wait are listed in order, each with all below it. -/
theorem outlineFrom_eq (listed : List OutlineEntry) (pending : List (OutlineItem × Nat)) :
    Grid.outlineFrom listed pending =
      listed.reverse ++ pending.flatMap fun waiting => waiting.1.lines waiting.2 := by
  fun_induction Grid.outlineFrom listed pending with
  | case1 listed => rw [List.flatMap_nil, List.append_nil]
  | case2 listed item indent pending ih =>
      rw [ih, List.flatMap_append, List.flatMap_map, List.flatMap_cons, item.lines_eq,
        List.reverse_cons, List.append_assoc, List.singleton_append, List.cons_append]

/-- The lines of an outline are those that the recursion lists. -/
theorem outlineEntries_eq_lines (grid : Grid) : grid.outlineEntries = grid.lines 0 := by
  rw [Grid.outlineEntries, outlineFrom_eq, List.flatMap_map, Grid.lines_eq]
  rfl

/-! ### Grids without rows -/

mutual

/-- The grid with no grids without rows in its cells, nor anywhere inside those grids. -/
def Grid.pruned : Grid → Grid
  | ⟨rows⟩ => ⟨prunedRows rows⟩

/-- Rows with no grids without rows in them. -/
def prunedRows : List Row → List Row
  | [] => []
  | ⟨height, cells⟩ :: rows => ⟨height, prunedCells cells⟩ :: prunedRows rows

/-- Cells with no grids without rows in them. -/
def prunedCells : List Cell → List Cell
  | [] => []
  | ⟨width, color, none⟩ :: cells => ⟨width, color, none⟩ :: prunedCells cells
  | ⟨width, color, some grid⟩ :: cells =>
    ⟨width, color, if grid.isEmpty then none else some grid.pruned⟩ :: prunedCells cells

end

/-- The cell with no grids without rows in it. -/
def Cell.pruned (cell : Cell) : Cell :=
  { cell with nested := if cell.inner.isEmpty then none else some cell.inner.pruned }

/-- The row with no grids without rows in it. -/
def Row.pruned (row : Row) : Row :=
  { row with cells := row.cells.map Cell.pruned }

/-- Cells are pruned one by one. -/
theorem prunedCells_eq_map (cells : List Cell) : prunedCells cells = cells.map Cell.pruned := by
  induction cells with
  | nil => rw [prunedCells, List.map_nil]
  | cons cell cells ih =>
      obtain ⟨width, color, _ | grid⟩ := cell
      · rw [prunedCells, ih]
        rfl
      · rw [prunedCells, ih]
        rfl

/-- Rows are pruned one by one. -/
theorem prunedRows_eq_map (rows : List Row) : prunedRows rows = rows.map Row.pruned := by
  induction rows with
  | nil => rw [prunedRows, List.map_nil]
  | cons row rows ih =>
      obtain ⟨height, cells⟩ := row
      rw [prunedRows, prunedCells_eq_map, ih]
      rfl

namespace Grid

/-- A grid is pruned row by row. -/
theorem pruned_eq (grid : Grid) : grid.pruned = ⟨grid.rows.map Row.pruned⟩ := by
  obtain ⟨rows⟩ := grid
  rw [pruned, prunedRows_eq_map]

/-- No rows are lost. -/
@[simp] theorem isEmpty_pruned (grid : Grid) : grid.pruned.isEmpty = grid.isEmpty := by
  rw [pruned_eq, isEmpty, List.isEmpty_map]
  rfl

/-- A grid is the one without rows if it has none. -/
theorem eq_empty_of_isEmpty {grid : Grid} (h : grid.isEmpty) : grid = .empty := by
  obtain ⟨rows⟩ := grid
  obtain rfl : rows = [] := List.isEmpty_iff.mp h
  rfl

/-- Induction over a tree in which every cell has a grid. -/
@[elab_as_elim]
theorem inner_induction {motive : Grid → Prop}
    (step : ∀ grid : Grid, (∀ row ∈ grid.rows, ∀ cell ∈ row.cells, motive cell.inner) →
      motive grid) (grid : Grid) : motive grid := by
  induction grid using nested_induction with
  | step grid ih =>
      refine step grid ?_
      intro row hrow cell hcell
      rcases hnested : cell.nested with _ | inner
      · rw [Cell.inner, hnested]
        exact step .empty fun row hrow => absurd hrow List.not_mem_nil
      · rw [Cell.inner, hnested]
        exact ih inner (holds_iff.mpr ⟨row, hrow, cell, hcell, hnested⟩)

end Grid

/-- The grid in a cell is pruned with the cell. -/
theorem Cell.inner_pruned (cell : Cell) : cell.pruned.inner = cell.inner.pruned := by
  unfold Cell.pruned
  by_cases h : cell.inner.isEmpty
  · rw [if_pos h, Grid.eq_empty_of_isEmpty h, Grid.pruned_eq]
    rfl
  · rw [if_neg h]
    rfl

/-- A pruned cell is known from its weight, its colour and its pruned grid. -/
theorem Cell.pruned_congr {cell other : Cell} (hwidth : cell.width = other.width)
    (hcolor : cell.color = other.color) (hinner : cell.inner.pruned = other.inner.pruned) :
    cell.pruned = other.pruned := by
  have hempty := congrArg Grid.isEmpty hinner
  rw [Grid.isEmpty_pruned, Grid.isEmpty_pruned] at hempty
  rw [Cell.pruned, Cell.pruned, hwidth, hcolor, hinner, hempty]

/-- Grids without rows are not listed. -/
theorem Grid.lines_pruned (grid : Grid) (indent : Nat) :
    grid.pruned.lines indent = grid.lines indent := by
  induction grid using inner_induction generalizing indent with
  | step grid ih =>
      have hcell {row : Row} (hrow : row ∈ grid.rows) :
          ∀ cell ∈ row.cells, cell.pruned.lines (indent + 2) = cell.lines (indent + 2) := by
        intro cell hmem
        rw [Cell.lines, Cell.inner_pruned, ih row hrow cell hmem]
        rfl
      have hrow : ∀ row ∈ grid.rows, row.pruned.lines indent = row.lines indent := by
        intro row hmem
        rw [Row.lines, Row.pruned, List.flatMap_map, Row.lines]
        exact congrArg _ (List.flatMap_congr (hcell hmem))
      rw [lines_eq, pruned_eq, List.flatMap_map, lines_eq]
      exact List.flatMap_congr hrow

/-! ### Taking the lines apart -/

/-- The indent of a line. -/
def OutlineEntry.indent : OutlineEntry → Nat
  | .row indent _ => indent
  | .cell indent _ _ => indent

/-- The first of the lines, if there are any, stands further out than some indent. -/
def Outside (indent : Nat) (entries : List OutlineEntry) : Prop :=
  ∀ entry ∈ entries.head?, entry.indent < indent

/-- Without lines nothing stands further in. -/
theorem outside_nil (indent : Nat) : Outside indent [] := by
  rintro entry ⟨⟩

/-- The first line decides. -/
theorem outside_cons {indent : Nat} {entry : OutlineEntry} {entries : List OutlineEntry} :
    Outside indent (entry :: entries) ↔ entry.indent < indent :=
  ⟨fun h => h entry rfl, fun h _ hfirst => Option.some.inj hfirst ▸ h⟩

/-- Items that stand at one indent, each known from its lines if what follows does not stand
further in, are all known from their lines if what follows stands further out. -/
theorem unambiguous_items {α : Type} {code : α → List OutlineEntry} {view : α → α} {indent : Nat}
    {items : List α} (hitems : ∀ item ∈ items, Unambiguous code view (Outside (indent + 2)) item)
    (hcode : ∀ item, ∃ entry more, code item = entry :: more ∧ entry.indent = indent) :
    Unambiguous (fun items => items.flatMap code) (List.map view) (Outside indent) items := by
  refine Unambiguous.flatMap hitems ?next ?ends ?stop
  case next =>
    intro item rest
    obtain ⟨entry, more, hlines, hindent⟩ := hcode item
    rw [hlines, List.cons_append, outside_cons]
    omega
  case ends =>
    intro rest hrest entry hfirst
    have := hrest entry hfirst
    omega
  case stop =>
    intro item rest
    obtain ⟨entry, more, hlines, hindent⟩ := hcode item
    rw [hlines, List.cons_append, outside_cons]
    omega

/-- A cell is known from its lines, but for a grid without rows in it. -/
theorem Cell.unambiguous_lines {cell : Cell} {indent : Nat}
    (h : Unambiguous (Grid.lines (indent + 2)) Grid.pruned (Outside (indent + 2)) cell.inner) :
    Unambiguous (Cell.lines indent) Cell.pruned (Outside (indent + 2)) cell := by
  intro other rest rest' hrest hrest' heq
  rw [Cell.lines, Cell.lines, List.cons_append, List.cons_append] at heq
  obtain ⟨hentry, hlines⟩ := List.cons.inj heq
  obtain ⟨-, hwidth, hcolor⟩ := OutlineEntry.cell.inj hentry
  obtain ⟨hinner, hrests⟩ := h other.inner rest rest' hrest hrest' hlines
  exact ⟨pruned_congr hwidth hcolor hinner, hrests⟩

/-- A row is known from its lines if its cells are. -/
theorem Row.unambiguous_lines {row : Row} {indent : Nat}
    (h : ∀ cell ∈ row.cells,
      Unambiguous (Cell.lines (indent + 2)) Cell.pruned (Outside (indent + 2 + 2)) cell) :
    Unambiguous (Row.lines indent) Row.pruned (Outside (indent + 2)) row := by
  intro other rest rest' hrest hrest' heq
  rw [Row.lines, Row.lines, List.cons_append, List.cons_append] at heq
  obtain ⟨hentry, hlines⟩ := List.cons.inj heq
  obtain ⟨-, hheight⟩ := OutlineEntry.row.inj hentry
  have hcells := unambiguous_items h fun cell => ⟨_, _, rfl, rfl⟩
  obtain ⟨hpruned, hrests⟩ := hcells other.cells rest rest' hrest hrest' hlines
  exact ⟨by rw [pruned, pruned, hheight, hpruned], hrests⟩

/-- A grid is known from its lines, but for the grids without rows in its cells. -/
theorem Grid.unambiguous_lines (grid : Grid) (indent : Nat) :
    Unambiguous (Grid.lines indent) Grid.pruned (Outside indent) grid := by
  induction grid using inner_induction generalizing indent with
  | step grid ih =>
      have hrow : ∀ row ∈ grid.rows,
          Unambiguous (Row.lines indent) Row.pruned (Outside (indent + 2)) row := fun row hrow =>
        Row.unambiguous_lines fun cell hcell => Cell.unambiguous_lines (ih row hrow cell hcell _)
      intro other rest rest' hrest hrest' heq
      rw [lines_eq, lines_eq] at heq
      have hrows := unambiguous_items hrow fun row => ⟨_, _, rfl, rfl⟩
      obtain ⟨hpruned, hrests⟩ := hrows other.rows rest rest' hrest hrest' heq
      exact ⟨by rw [pruned_eq, pruned_eq, hpruned], hrests⟩

/-! ### Taking the text apart -/

namespace OutlineEntry

/-- What the line of a cell says of its colour. -/
def colorChars : Option Color → List Char
  | some color => ' ' :: color.chars
  | none => []

/-- The text of a row's line, and what follows it. -/
theorem chars_row_append (indent height : Nat) (rest : List Char) :
    (row indent height).chars ++ rest =
      List.replicate indent ' ' ++ 'r' :: ("ow h=".toList ++ (decimal height ++ '\n' :: rest)) := by
  simp [chars]

/-- The text of a cell's line, and what follows it. -/
theorem chars_cell_append (indent width : Nat) (color : Option Color) (rest : List Char) :
    (cell indent width color).chars ++ rest =
      List.replicate indent ' ' ++
        'c' :: ("ell w=".toList ++ (decimal width ++ (colorChars color ++ '\n' :: rest))) := by
  cases color <;> simp [chars, colorChars]

/-- What a line says of a colour tells the colour, and ends with the line. -/
theorem colorChars_append_inj {color other : Option Color} {rest rest' : List Char}
    (h : colorChars color ++ '\n' :: rest = colorChars other ++ '\n' :: rest') :
    color = other ∧ rest = rest' := by
  rcases color with _ | color
  · rcases other with _ | other
    · exact ⟨rfl, (List.cons.inj h).2⟩
    · exact absurd (List.cons.inj h).1 (by decide)
  · rcases other with _ | other
    · exact absurd (List.cons.inj h).1 (by decide)
    · obtain ⟨hcolor, hrest⟩ := Color.chars_append_inj (List.cons.inj h).2
      exact ⟨congrArg some hcolor, (List.cons.inj hrest).2⟩

/-- What a line says of a colour does not begin with a digit. -/
theorem colorChars_append_eq_cons (color : Option Color) (rest : List Char) :
    ∃ c more, colorChars color ++ '\n' :: rest = c :: more ∧ ¬isDigit c := by
  rcases color with _ | color
  · exact ⟨_, _, rfl, by decide⟩
  · exact ⟨_, _, rfl, by decide⟩

/-- A line is known from its text, whatever follows. -/
theorem unambiguous_chars (entry : OutlineEntry) :
    Unambiguous chars id (fun _ => True) entry := by
  intro other rest rest' _ _ h
  rcases entry with ⟨indent, height⟩ | ⟨indent, width, color⟩
  · rcases other with ⟨indent', height'⟩ | ⟨indent', width', color'⟩
    · rw [chars_row_append, chars_row_append] at h
      obtain ⟨rfl, -, h⟩ := replicate_append_inj (by decide) (by decide) h
      obtain ⟨rfl, -, hrests⟩ :=
        decimal_append_inj (by decide) (by decide) (List.append_cancel_left h)
      exact ⟨rfl, hrests⟩
    · rw [chars_row_append, chars_cell_append] at h
      exact absurd (replicate_append_inj (by decide) (by decide) h).2.1 (by decide)
  · rcases other with ⟨indent', height'⟩ | ⟨indent', width', color'⟩
    · rw [chars_row_append, chars_cell_append] at h
      exact absurd (replicate_append_inj (by decide) (by decide) h).2.1 (by decide)
    · rw [chars_cell_append, chars_cell_append] at h
      obtain ⟨rfl, -, h⟩ := replicate_append_inj (by decide) (by decide) h
      obtain ⟨c, more, hcolor, hc⟩ := colorChars_append_eq_cons color rest
      obtain ⟨c', more', hcolor', hc'⟩ := colorChars_append_eq_cons color' rest'
      rw [hcolor, hcolor'] at h
      obtain ⟨rfl, hfirst, hmore⟩ := decimal_append_inj hc hc' (List.append_cancel_left h)
      rw [hfirst, hmore, ← hcolor'] at hcolor
      obtain ⟨rfl, hrests⟩ := colorChars_append_inj hcolor
      exact ⟨rfl, hrests⟩

/-- Lines are known from their text. -/
theorem unambiguous_flatMap_chars (entries : List OutlineEntry) :
    Unambiguous (fun entries => entries.flatMap chars) (List.map id) (· = []) entries := by
  refine Unambiguous.flatMap (fun entry _ => entry.unambiguous_chars) (fun _ _ => trivial)
    (fun _ _ => trivial) ?_
  intro entry rest
  rcases entry with ⟨indent, height⟩ | ⟨indent, width, color⟩
  · rw [chars_row_append]
    simp
  · rw [chars_cell_append]
    simp

end OutlineEntry

/-- **What an outline tells.** The outline of a grid lists it by recursion: each row before its
cells, each cell before the rows of the grid in it, two columns further in at every step. It tells
all of the grid but which cells hold a grid without rows: the outlines of two grids are equal if
and only if the grids are, once such grids are taken out of their cells at every depth. -/
theorem outline_tells :
    (∀ grid : Grid,
        grid.outline = String.ofList ((grid.lines 0).flatMap OutlineEntry.chars)) ∧
      ∀ grid other : Grid, grid.outline = other.outline ↔ grid.pruned = other.pruned := by
  have houtline (grid : Grid) :
      grid.outline = String.ofList ((grid.lines 0).flatMap OutlineEntry.chars) := by
    rw [Grid.outline, outlineEntries_eq_lines]
  refine ⟨houtline, fun grid other => ⟨fun h => ?tells, fun h => ?same⟩⟩
  case tells =>
    rw [houtline, houtline, String.ofList_inj] at h
    have htext := congrArg (· ++ []) h
    obtain ⟨hentries, -⟩ := OutlineEntry.unambiguous_flatMap_chars _ _ [] [] rfl rfl htext
    rw [List.map_id, List.map_id] at hentries
    have hlines := congrArg (· ++ []) hentries
    exact (grid.unambiguous_lines 0 other [] [] (outside_nil 0) (outside_nil 0) hlines).1
  case same =>
    rw [houtline, houtline, ← grid.lines_pruned, h, other.lines_pruned]

/-- The first cell holds a grid without rows and the second one a row without cells; only the row is
listed. -/
example :
    (⟨[⟨1, [⟨2, none, some ⟨[]⟩⟩, ⟨1, none, some ⟨[⟨1, []⟩]⟩⟩]⟩, ⟨12, []⟩]⟩ : Grid).outline =
      "row h=1\n  cell w=2\n  cell w=1\n    row h=1\nrow h=12\n" := by
  cbv

end Slab
