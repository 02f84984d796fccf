import Mathlib.Algebra.GroupWithZero.Nat
import Mathlib.Algebra.Order.BigOperators.Group.List
import Mathlib.Algebra.Order.Group.Nat
import Slab.Proofs.Moves
import Slab.Proofs.Running

/-!
# Widths

`Grid.width` adds up the widths of the cells of a grid, and `Grid.totalWidth` those of all cells
inside it as well. Commands only touch the last cell of a level or add one behind it (`cells_grow`,
`cells_attach`). So a growth adds 1 to either sum (`sum_grow`), and placing a grid adds the widths
in that grid and 1, or less if there was a grid in that place before (`totalWidth_attach_le`).

A builder has the widths that its levels have and 1 for each level that waits, as placing the nested
grid there may take a cell (`Builder.totalWidth`). Then no unit adds more than 1, and only growths
and `S`s add anything (`Builder.totalWidth_step_le`). So the widths of a level are together within
the number of these units in the program (`Builder.totalWidth_run_le`).
-/

namespace Slab

/-! ### Sums over the cells of a grid -/

/-- What the cells of a grid have of something, added up. -/
def Grid.sum (amount : Cell → Nat) (grid : Grid) : Nat :=
  (grid.cells.map amount).sum

/-- The widths of the cells of the grid itself, added up. -/
def Grid.width (grid : Grid) : Nat :=
  grid.sum (·.width)

mutual

/-- The widths of the cells of a grid and of all grids inside it, added up. -/
def Grid.totalWidth : Grid → Nat
  | ⟨rows⟩ => rowsTotalWidth rows

/-- The widths of the cells of some rows and of all grids inside them, added up. -/
def rowsTotalWidth : List Row → Nat
  | [] => 0
  | ⟨_, cells⟩ :: rows => cellsTotalWidth cells + rowsTotalWidth rows

/-- The widths of some cells and of the cells of all grids inside them, added up. -/
def cellsTotalWidth : List Cell → Nat
  | [] => 0
  | ⟨width, _, none⟩ :: cells => width + cellsTotalWidth cells
  | ⟨width, _, some grid⟩ :: cells => width + grid.totalWidth + cellsTotalWidth cells

end

/-- The width of a cell and those in the grid that it holds, added up. -/
def Cell.totalWidth (cell : Cell) : Nat :=
  cell.width + cell.nested.elim 0 Grid.totalWidth

/-- Widths are added up cell by cell. -/
theorem cellsTotalWidth_eq (cells : List Cell) :
    cellsTotalWidth cells = (cells.map Cell.totalWidth).sum := by
  induction cells with
  | nil => rw [cellsTotalWidth, List.map_nil, List.sum_nil]
  | cons cell cells ih =>
      rw [List.map_cons, List.sum_cons, ← ih]
      obtain ⟨width, color, _ | grid⟩ := cell
      · rw [cellsTotalWidth]
        rfl
      · rw [cellsTotalWidth]
        rfl

/-- Widths are added up row by row. -/
theorem rowsTotalWidth_eq (rows : List Row) :
    rowsTotalWidth rows = ((rows.flatMap (·.cells)).map Cell.totalWidth).sum := by
  induction rows with
  | nil => rw [rowsTotalWidth, List.flatMap_nil, List.map_nil, List.sum_nil]
  | cons row rows ih =>
      obtain ⟨height, cells⟩ := row
      rw [rowsTotalWidth, cellsTotalWidth_eq, ih, List.flatMap_cons, List.map_append,
        List.sum_append]

namespace Grid

/-- The widths inside a grid are what its cells have of them. -/
theorem totalWidth_eq (grid : Grid) : grid.totalWidth = grid.sum Cell.totalWidth := by
  obtain ⟨rows⟩ := grid
  rw [totalWidth, rowsTotalWidth_eq, sum, cells]

/-- A cell has no more of something than its grid. -/
theorem le_sum {grid : Grid} {cell : Cell} (h : cell ∈ grid.cells) (amount : Cell → Nat) :
    amount cell ≤ grid.sum amount :=
  List.le_sum_of_mem (List.mem_map_of_mem h)

/-- No cell is wider than all widths together. -/
theorem width_le_totalWidth {grid : Grid} {cell : Cell} (h : cell ∈ grid.cells) :
    cell.width ≤ grid.totalWidth := by
  have hcell := le_sum h Cell.totalWidth
  rw [← totalWidth_eq] at hcell
  exact Nat.le_trans (Nat.le_add_right _ _) hcell

/-- The widths in a grid inside another are among those of that one. -/
theorem Holds.totalWidth_le {outer inner : Grid} (h : outer.Holds inner) :
    inner.totalWidth ≤ outer.totalWidth := by
  obtain ⟨cell, hcell, hinner⟩ := List.mem_filterMap.mp h
  have hwhole := le_sum hcell Cell.totalWidth
  rw [← totalWidth_eq, Cell.totalWidth, hinner] at hwhole
  exact Nat.le_trans (Nat.le_add_left _ _) hwhole

/-- No cell at any depth is wider than all widths together. -/
theorem everywhere_width_le_totalWidth (grid : Grid) :
    grid.Everywhere fun part => ∀ cell ∈ part.cells, cell.width ≤ grid.totalWidth := by
  intro part hpart
  have hle : part.totalWidth ≤ grid.totalWidth := by
    induction hpart with
    | refl => exact Nat.le_refl _
    | tail _ hholds ih => exact Nat.le_trans hholds.totalWidth_le ih
  intro cell hcell
  exact Nat.le_trans (width_le_totalWidth hcell) hle

end Grid

/-! ### Widths of levels -/

/-- The amount is that of the widths, or has them as a part: it is 1 for a cell that was just grown,
and grows with the width. -/
structure Cell.CountsWidth (amount : Cell → Nat) : Prop where
  /-- A cell that was just grown counts 1. -/
  fresh : ∀ color, amount ⟨1, color, none⟩ = 1
  /-- A cell that is one wider counts 1 more. -/
  wider : ∀ (cell : Cell) (color : Option Color),
    amount { cell with width := cell.width + 1, color } = amount cell + 1

/-- The width counts itself. -/
theorem Cell.countsWidth_width : Cell.CountsWidth (·.width) where
  fresh _ := rfl
  wider _ _ := rfl

/-- Widths inside count the width of the cell. -/
theorem Cell.countsWidth_totalWidth : Cell.CountsWidth Cell.totalWidth where
  fresh _ := rfl
  wider cell _ := Nat.add_right_comm cell.width 1 _

namespace Level

variable {level : Level} {amount : Cell → Nat}

/-- The cells of a level are those in the rows that are done and those in the current row. -/
theorem cells_finish (level : Level) :
    level.finish.cells =
      level.done.reverse.flatMap (·.cells) ++ level.currentRow.cells.reverse := by
  rw [Grid.cells, rows_finish_eq_append, List.flatMap_append]
  rcases level.currentRow_cases with hopen | ⟨hnone, hfresh⟩
  · rw [hopen]
    simp [OpenRow.close]
  · rw [hnone, hfresh]
    rfl

/-- The cells of a level whose current row has been replaced. -/
theorem cells_replaceRow {after : Level} {row : OpenRow} (hdone : after.done = level.done)
    (hopen : after.openRow = some row) :
    after.finish.cells = level.done.reverse.flatMap (·.cells) ++ row.cells.reverse := by
  rw [cells_finish, currentRow_of_some hopen, hdone]

/-- A growth widens the last cell or adds one behind it. -/
theorem cells_grow (level : Level) (color : Option Color) :
    (∃ others last, level.finish.cells = others ++ [last] ∧
      (level.grow color).finish.cells =
        others ++ [{ last with width := last.width + 1, color }]) ∨
    (level.grow color).finish.cells = level.finish.cells ++ [⟨1, color, none⟩] := by
  have hdone : (level.grow color).done = level.done := rfl
  rcases level.grow_cases color with ⟨newest, older, hcells, -, hgrow⟩ | ⟨-, hgrow⟩
  · left
    refine ⟨level.done.reverse.flatMap (·.cells) ++ older.reverse, newest, ?_, ?_⟩
    · rw [cells_finish, hcells, List.reverse_cons, List.append_assoc]
    · rw [cells_replaceRow hdone (congrArg Level.openRow hgrow), List.reverse_cons,
        List.append_assoc]
  · right
    rw [cells_replaceRow hdone (congrArg Level.openRow hgrow), cells_finish, List.reverse_cons,
      List.append_assoc]

/-- A grid is placed in the last cell, if that was just grown, or in a cell of its own behind it. -/
theorem cells_attach (level : Level) (color : Option Color) (grid : Grid) :
    (∃ others last, level.lastMove = .grew ∧ level.finish.cells = others ++ [last] ∧
      (level.attach color grid).finish.cells =
        others ++ [{ last with color, nested := some grid }]) ∨
    ((level.currentRow.cells = [] ∨ level.lastMove ≠ .grew) ∧
      (level.attach color grid).finish.cells =
        level.finish.cells ++ [⟨1, color, some grid⟩]) := by
  have hdone : (level.attach color grid).done = level.done := rfl
  rcases level.attach_cases color grid with ⟨newest, older, hcells, hgrew, hattach⟩ |
    ⟨hwhy, hattach⟩
  · left
    refine ⟨level.done.reverse.flatMap (·.cells) ++ older.reverse, newest, hgrew, ?_, ?_⟩
    · rw [cells_finish, hcells, List.reverse_cons, List.append_assoc]
    · rw [cells_replaceRow hdone (congrArg Level.openRow hattach), List.reverse_cons,
        List.append_assoc]
  · right
    refine ⟨hwhy, ?_⟩
    rw [cells_replaceRow hdone (congrArg Level.openRow hattach), cells_finish, List.reverse_cons,
      List.append_assoc]

/-- A growth adds 1 to the widths. -/
theorem sum_grow (hamount : Cell.CountsWidth amount) (level : Level) (color : Option Color) :
    (level.grow color).finish.sum amount = level.finish.sum amount + 1 := by
  unfold Grid.sum
  rcases level.cells_grow color with ⟨others, last, hbefore, hafter⟩ | hafter
  · rw [hbefore, hafter]
    simp [hamount.wider, Nat.add_assoc]
  · rw [hafter]
    simp [hamount.fresh]

/-- A raise adds no cells. -/
theorem cells_raise (level : Level) : level.raise.finish.cells = level.finish.cells := by
  rw [cells_finish, cells_finish]
  rcases level.raise_cases with ⟨row, hopen, -, hraise⟩ | ⟨-, hraise⟩
  · rw [hraise, currentRow_of_some rfl, currentRow_of_some hopen]
  · rw [hraise]
    rcases hopen : level.openRow with _ | row
    · rw [currentRow_of_none hopen, currentRow_of_none rfl]
    · rw [currentRow_of_some hopen, currentRow_of_some rfl]

/-- Only growths add to the widths of the innermost level. -/
theorem sum_take (hamount : Cell.CountsWidth amount) (level : Level) (unit : Lexeme) :
    (level.take unit).finish.sum amount =
      level.finish.sum amount +
        if unit = .command .grow ∨ unit = .command .recurse then 1 else 0 := by
  rcases unit with _ | command | char
  · rfl
  · cases command with
    | grow => exact sum_grow hamount level _
    | recurse => exact sum_grow hamount level _
    | raise =>
        show (level.raise.finish.cells.map amount).sum = _
        rw [cells_raise]
        rfl
    | _ => rfl
  · rfl

/-- Placing a grid adds the widths inside it and at most 1. -/
theorem totalWidth_attach_le (level : Level) (color : Option Color) (grid : Grid) :
    (level.attach color grid).finish.totalWidth ≤
      level.finish.totalWidth + grid.totalWidth + 1 := by
  rw [Grid.totalWidth_eq, Grid.totalWidth_eq level.finish, Grid.sum, Grid.sum]
  rcases level.cells_attach color grid with ⟨others, last, -, hbefore, hafter⟩ | ⟨-, hafter⟩
  · rw [hbefore, hafter]
    simp only [List.map_append, List.map_singleton, List.sum_append, List.sum_singleton,
      Cell.totalWidth, Option.elim_some]
    omega
  · rw [hafter]
    simp only [List.map_append, List.map_singleton, List.sum_append, List.sum_singleton,
      Cell.totalWidth, Option.elim_some]
    omega

end Level

/-! ### Widths of builders -/

/-- The unit adds a cell or widens one, now or when its nested program ends. -/
def Lexeme.AddsWidth (unit : Lexeme) : Prop :=
  unit = .command .grow ∨ unit = .command .recurse ∨ unit = .command .nest

instance (unit : Lexeme) : Decidable unit.AddsWidth :=
  inferInstanceAs (Decidable (_ ∨ _ ∨ _))

namespace Builder

/-- The widths in all levels, and 1 for each level that waits. -/
def totalWidth (builder : Builder) : Nat :=
  builder.level.finish.totalWidth +
    (builder.outer.map fun waiting => waiting.level.finish.totalWidth + 1).sum

/-- A unit adds 1 at most to the widths. -/
theorem totalWidth_step_le (builder : Builder) (unit : Lexeme) :
    (builder.step unit).totalWidth ≤ builder.totalWidth + if unit.AddsWidth then 1 else 0 := by
  obtain ⟨level, outer⟩ := builder
  by_cases hclose : unit = .close
  · subst hclose
    rcases outer with _ | ⟨waiting, outer⟩
    · exact Nat.le_refl _
    · have hattach := waiting.level.totalWidth_attach_le waiting.color level.finish
      simp only [step_close_cons, totalWidth, Suspended.resume, List.map_cons, List.sum_cons]
      omega
  by_cases hnest : unit = .command .nest
  · subst hnest
    have hsuspend : level.suspend.finish = level.finish := rfl
    have hstart : level.nestedStart.finish.totalWidth = 0 := rfl
    have hadds : (Lexeme.command .nest).AddsWidth := by decide
    simp only [step_nest, totalWidth, List.map_cons, List.sum_cons, hsuspend, hstart, if_pos hadds]
    omega
  · have htake := level.sum_take Cell.countsWidth_totalWidth unit
    have hgrowth : unit.AddsWidth ↔ unit = .command .grow ∨ unit = .command .recurse := by
      unfold Lexeme.AddsWidth
      rw [or_iff_left hnest]
    rw [← Grid.totalWidth_eq, ← Grid.totalWidth_eq] at htake
    simp only [step_eq_modify _ hclose hnest, modify, totalWidth, htake, hgrowth]
    omega

/-- A run adds at most as much as there are growths and `S`s among its units. -/
theorem totalWidth_run_le (builder : Builder) (units : List Lexeme) :
    (builder.run units).totalWidth ≤ builder.totalWidth + units.countP (·.AddsWidth) := by
  induction units generalizing builder with
  | nil => exact Nat.le_refl _
  | cons unit units ih =>
      have hstep := builder.totalWidth_step_le unit
      have hrest := ih (builder.step unit)
      rw [run_cons, List.countP_cons]
      simp only [decide_eq_true_eq]
      omega

end Builder

end Slab
