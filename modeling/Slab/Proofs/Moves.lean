import Slab.Level
import Slab.Proofs.Tree

/-!
# What a move does to a level

Growing, raising and placing a nested grid each do one of two things. `grow_cases`, `raise_cases`
and `attach_cases` say which and when, with all that changes; what later proofs know about these
moves they know from here. Which grids the cells of a level hold, and when it has rows at all,
follows from them. The last section says that no move looks at the colours of cells or into their
grids: it does the same once they are erased.
-/

namespace Slab

namespace Level

/-- The rows as they stand, where no row is open. -/
@[simp] theorem allRows_of_none {level : Level} (h : level.openRow = none) :
    level.allRows = level.done := by
  rw [allRows, h]

/-- The rows as they stand, where one is open. -/
@[simp] theorem allRows_of_some {level : Level} {row : OpenRow} (h : level.openRow = some row) :
    level.allRows = row.close :: level.done := by
  rw [allRows, h]

/-- The rows that are done are among the rows as they stand. -/
theorem mem_allRows_of_done {level : Level} {row : Row} (h : row ∈ level.done) :
    row ∈ level.allRows := by
  rcases hopen : level.openRow with _ | current
  · rwa [allRows_of_none hopen]
  · rw [allRows_of_some hopen]
    exact List.mem_cons_of_mem _ h

/-- What is true of all rows stays true where another row is open, if it is true of that. -/
theorem forall_allRows_of_openRow {P : Row → Prop} {level after : Level} {row : OpenRow}
    (h : ∀ row ∈ level.allRows, P row) (hopen : after.openRow = some row)
    (hdone : after.done = level.done) (hrow : P row.close) : ∀ row ∈ after.allRows, P row := by
  rw [allRows_of_some hopen, hdone]
  intro other hother
  rcases List.mem_cons.mp hother with rfl | hother
  · exact hrow
  · exact h other (mem_allRows_of_done hother)

/-- The rows of the finished grid. -/
@[simp] theorem rows_finish (level : Level) : level.finish.rows = level.allRows.reverse := rfl

/-- The rows of a level, top to bottom. -/
theorem rows_finish_eq_append (level : Level) :
    level.finish.rows = level.done.reverse ++ (level.openRow.map OpenRow.close).toList := by
  rw [rows_finish]
  rcases hopen : level.openRow with _ | row
  · rw [allRows_of_none hopen]
    simp
  · rw [allRows_of_some hopen]
    simp

/-- The rows that are done come first. -/
theorem done_prefix_rows_finish (level : Level) : level.done.reverse <+: level.finish.rows := by
  rw [rows_finish_eq_append]
  exact List.prefix_append _ _

/-- The row behind those that are done is the open one. -/
theorem rows_finish_getElem?_length (level : Level) :
    level.finish.rows[level.done.length]? = level.openRow.map OpenRow.close := by
  rw [rows_finish_eq_append, ← List.length_reverse, List.getElem?_append_right (Nat.le_refl _),
    Nat.sub_self]
  rcases level.openRow with _ | row
  · rfl
  · rfl

/-- A level is finished as the grid whose rows it has. -/
theorem finish_eq {level : Level} {grid : Grid} (h : level.allRows = grid.rows.reverse) :
    level.finish = grid := by
  obtain ⟨rows⟩ := grid
  rw [finish, h, List.reverse_reverse]

/-- The open row is the current one. -/
theorem currentRow_of_some {level : Level} {row : OpenRow} (h : level.openRow = some row) :
    level.currentRow = row := by
  rw [currentRow, h]
  rfl

/-- Without an open row the current one is fresh. -/
theorem currentRow_of_none {level : Level} (h : level.openRow = none) :
    level.currentRow = { height := level.nextHeight } := by
  rw [currentRow, h]
  rfl

/-- The current row is the open one, or it has no cells yet. -/
theorem currentRow_cases (level : Level) :
    level.openRow = some level.currentRow ∨
      level.openRow = none ∧ level.currentRow = { height := level.nextHeight } := by
  rcases h : level.openRow with _ | row
  · exact Or.inr ⟨rfl, currentRow_of_none h⟩
  · rw [currentRow_of_some h]
    exact Or.inl rfl

/-- Growing widens the newest cell if no raises are pending, and else starts a cell. -/
theorem grow_cases (level : Level) (color : Option Color) :
    (∃ newest older, level.currentRow.cells = newest :: older ∧ level.pending = 0 ∧
      level.grow color =
        { level with
          openRow := some { level.currentRow with
            cells := { newest with width := newest.width + 1, color } :: older }
          pending := 0
          raiseRun := 0
          lastMove := .grew }) ∨
    ((level.currentRow.cells = [] ∨ level.pending ≠ 0) ∧
      level.grow color =
        { level with
          openRow := some { level.currentRow with
            cells := ⟨1, color, none⟩ :: level.currentRow.cells }
          pending := 0
          raiseRun := 0
          lastMove := .grew }) := by
  rcases hcells : level.currentRow.cells with _ | ⟨newest, older⟩
  · right
    refine ⟨Or.inl rfl, ?_⟩
    rw [grow, hcells]
  · by_cases hpending : level.pending = 0
    · left
      refine ⟨newest, older, rfl, hpending, ?_⟩
      simp only [grow, hcells, if_pos hpending]
    · right
      refine ⟨Or.inr hpending, ?_⟩
      simp only [grow, hcells, if_neg hpending]

/-- A raise makes the open row taller; right after a break, or without an open row, the next
one. -/
theorem raise_cases (level : Level) :
    (∃ row, level.openRow = some row ∧ level.lastMove ≠ .broke ∧
      level.raise =
        { level with
          openRow := some { row with height := max row.height (level.raiseRun + 2) }
          pending := level.pending + 1
          raiseRun := level.raiseRun + 1
          lastMove := .other }) ∨
    ((level.openRow = none ∨ level.lastMove = .broke) ∧
      level.raise =
        { level with
          pending := level.pending + 1
          raiseRun := level.raiseRun + 1
          nextHeight := max level.nextHeight (level.raiseRun + 2)
          lastMove := if level.lastMove = .broke then .broke else .other }) := by
  rcases hrow : level.openRow with _ | row <;> rcases hmove : level.lastMove
  · right
    simp [raise, hrow, hmove]
  · right
    simp [raise, hrow, hmove]
  · right
    simp [raise, hrow, hmove]
  · right
    simp [raise, hrow, hmove]
  · left
    exact ⟨row, rfl, by simp, by simp [raise, hrow, hmove]⟩
  · left
    exact ⟨row, rfl, by simp, by simp [raise, hrow, hmove]⟩

/-- A raise is no growth. -/
theorem lastMove_raise_ne (level : Level) : level.raise.lastMove ≠ .grew := by
  rcases level.raise_cases with ⟨row, -, -, hraise⟩ | ⟨-, hraise⟩
  · rw [hraise]
    simp
  · rw [hraise]
    dsimp only
    split
    · simp
    · simp

/-- A finished nested grid goes into the cell that the last move grew, and else into a cell of its
own. -/
theorem attach_cases (level : Level) (color : Option Color) (grid : Grid) :
    (∃ newest older, level.currentRow.cells = newest :: older ∧ level.lastMove = .grew ∧
      level.attach color grid =
        { level with
          openRow := some { level.currentRow with
            cells := { newest with color, nested := some grid } :: older }
          pending := 0
          raiseRun := 0
          lastMove := .other }) ∨
    ((level.currentRow.cells = [] ∨ level.lastMove ≠ .grew) ∧
      level.attach color grid =
        { level with
          openRow := some { level.currentRow with
            cells := ⟨1, color, some grid⟩ :: level.currentRow.cells }
          pending := 0
          raiseRun := 0
          lastMove := .other }) := by
  rcases hcells : level.currentRow.cells with _ | ⟨newest, older⟩
  · right
    refine ⟨Or.inl rfl, ?_⟩
    rcases hmove : level.lastMove <;> simp only [attach, hcells, hmove]
  · by_cases hmove : level.lastMove = .grew
    · left
      refine ⟨newest, older, rfl, hmove, ?_⟩
      simp only [attach, hcells, hmove]
    · right
      refine ⟨Or.inr hmove, ?_⟩
      rcases hother : level.lastMove <;> simp_all only [attach, not_true_eq_false]

/-! ### Nested grids and rows -/

/-- The grids held by the cells of a level are those in the current row and those in the rows
that are done. -/
theorem mem_nested_finish {level : Level} {grid : Grid} :
    grid ∈ level.finish.nested ↔
      (∃ cell ∈ level.currentRow.cells, cell.nested = some grid) ∨
        ∃ row ∈ level.done, ∃ cell ∈ row.cells, cell.nested = some grid := by
  have hholds : level.finish.Holds grid ↔
      ∃ row ∈ level.allRows, ∃ cell ∈ row.cells, cell.nested = some grid := by
    rw [Grid.holds_iff, rows_finish]
    simp only [List.mem_reverse]
  apply hholds.trans
  rcases h : level.openRow with _ | row
  · rw [allRows_of_none h, currentRow_of_none h]
    simp
  · rw [allRows_of_some h, currentRow_of_some h]
    simp [OpenRow.close]

/-- A level without rows is one on which nothing was placed. -/
theorem isEmpty_finish {level : Level} :
    level.finish.isEmpty ↔ level.openRow = none ∧ level.done = [] := by
  rcases h : level.openRow with _ | row
  · simp [Grid.isEmpty, h]
  · simp [Grid.isEmpty, h]

/-- Growing holds on to the nested grids. -/
@[simp] theorem mem_nested_grow {level : Level} {color : Option Color} {grid : Grid} :
    grid ∈ (level.grow color).finish.nested ↔ grid ∈ level.finish.nested := by
  rw [mem_nested_finish, mem_nested_finish]
  rcases level.grow_cases color with ⟨newest, older, hcells, -, hgrow⟩ | ⟨-, hgrow⟩
  · simp [hgrow, currentRow_of_some, hcells]
  · simp [hgrow, currentRow_of_some]

/-- Raising holds on to the nested grids. -/
@[simp] theorem mem_nested_raise {level : Level} {grid : Grid} :
    grid ∈ level.raise.finish.nested ↔ grid ∈ level.finish.nested := by
  rw [mem_nested_finish, mem_nested_finish]
  rcases level.raise_cases with ⟨row, hrow, -, hraise⟩ | ⟨-, hraise⟩
  · simp [hraise, currentRow_of_some hrow, currentRow_of_some]
  · rw [hraise]
    rcases hrow : level.openRow with _ | row
    · simp [currentRow_of_none, hrow]
    · simp [currentRow_of_some, hrow]

/-- A placed grid is held. -/
theorem mem_nested_attach_self (level : Level) (color : Option Color) (grid : Grid) :
    grid ∈ (level.attach color grid).finish.nested := by
  rw [mem_nested_finish]
  rcases level.attach_cases color grid with ⟨newest, older, -, -, hattach⟩ | ⟨-, hattach⟩
  · simp [hattach, currentRow_of_some]
  · simp [hattach, currentRow_of_some]

/-- Placing a grid adds no other one. -/
theorem mem_nested_of_attach {level : Level} {color : Option Color} {placed grid : Grid}
    (h : grid ∈ (level.attach color placed).finish.nested) :
    grid = placed ∨ grid ∈ level.finish.nested := by
  rw [mem_nested_finish] at h
  rw [mem_nested_finish]
  rcases level.attach_cases color placed with ⟨newest, older, hcells, -, hattach⟩ | ⟨-, hattach⟩
  · rw [hattach] at h
    rw [hcells]
    rcases h with ⟨cell, hcell, hgrid⟩ | hdone
    · rw [currentRow_of_some rfl] at hcell
      rcases List.mem_cons.mp hcell with rfl | holder
      · exact Or.inl (Option.some.inj hgrid).symm
      · exact Or.inr (Or.inl ⟨cell, List.mem_cons_of_mem _ holder, hgrid⟩)
    · exact Or.inr (Or.inr hdone)
  · rw [hattach] at h
    rcases h with ⟨cell, hcell, hgrid⟩ | hdone
    · rw [currentRow_of_some rfl] at hcell
      rcases List.mem_cons.mp hcell with rfl | holder
      · exact Or.inl (Option.some.inj hgrid).symm
      · exact Or.inr (Or.inl ⟨cell, holder, hgrid⟩)
    · exact Or.inr (Or.inr hdone)

/-- After growing there is a row. -/
theorem not_isEmpty_grow (level : Level) (color : Option Color) :
    ¬(level.grow color).finish.isEmpty := by
  rw [isEmpty_finish]
  rcases level.grow_cases color with ⟨newest, older, -, -, hgrow⟩ | ⟨-, hgrow⟩
  · simp [hgrow]
  · simp [hgrow]

/-- After placing a grid there is a row. -/
theorem not_isEmpty_attach (level : Level) (color : Option Color) (grid : Grid) :
    ¬(level.attach color grid).finish.isEmpty := by
  rw [isEmpty_finish]
  rcases level.attach_cases color grid with ⟨newest, older, -, -, hattach⟩ | ⟨-, hattach⟩
  · simp [hattach]
  · simp [hattach]

/-- Raising adds and takes no rows. -/
theorem isEmpty_raise (level : Level) : level.raise.finish.isEmpty ↔ level.finish.isEmpty := by
  rw [isEmpty_finish, isEmpty_finish]
  rcases level.raise_cases with ⟨row, hrow, -, hraise⟩ | ⟨-, hraise⟩
  · simp [hraise, hrow]
  · simp [hraise]

end Level

/-! ### Levels without colours -/

/-- A cell without its colour, and with the grid that it holds changed. -/
def Cell.erase (inside : Grid → Grid) (cell : Cell) : Cell :=
  ⟨cell.width, none, cell.nested.map inside⟩

/-- A row with all its cells erased. -/
def Row.erase (inside : Grid → Grid) (row : Row) : Row :=
  { row with cells := row.cells.map (Cell.erase inside) }

/-- An open row with all its cells erased. -/
def OpenRow.erase (inside : Grid → Grid) (row : OpenRow) : OpenRow :=
  { row with cells := row.cells.map (Cell.erase inside) }

namespace Level

/-- A level with all its cells erased, and with another ink. -/
def erase (inside : Grid → Grid) (ink : Ink) (level : Level) : Level :=
  { level with
    done := level.done.map (Row.erase inside)
    openRow := level.openRow.map (OpenRow.erase inside)
    ink }

variable (inside : Grid → Grid) (ink : Ink)

/-- What is erased twice is erased once, and the grids are changed one time after the other. -/
theorem erase_erase (level : Level) (inside' : Grid → Grid) (ink' : Ink) :
    (level.erase inside ink).erase inside' ink' = level.erase (inside' ∘ inside) ink' := by
  have hcell : Cell.erase inside' ∘ Cell.erase inside = Cell.erase (inside' ∘ inside) := by
    funext cell
    rw [Function.comp_apply, Cell.erase, Cell.erase, Option.map_map, Cell.erase]
  have hrow : Row.erase inside' ∘ Row.erase inside = Row.erase (inside' ∘ inside) := by
    funext row
    rw [Function.comp_apply, Row.erase, Row.erase, List.map_map, hcell, Row.erase]
  have hopen : OpenRow.erase inside' ∘ OpenRow.erase inside = OpenRow.erase (inside' ∘ inside) := by
    funext row
    rw [Function.comp_apply, OpenRow.erase, OpenRow.erase, List.map_map, hcell, OpenRow.erase]
  rw [erase, erase, List.map_map, Option.map_map, hrow, hopen, erase]

/-- The rows as they stand are erased. -/
theorem allRows_erase (level : Level) :
    (level.erase inside ink).allRows = level.allRows.map (Row.erase inside) := by
  unfold allRows erase
  rcases level.openRow with _ | row
  · rfl
  · simp [OpenRow.close, OpenRow.erase, Row.erase]

/-- Growth does not look at what is erased. -/
theorem erase_grow (level : Level) (color : Option Color) :
    (level.grow color).erase inside ink = (level.erase inside ink).grow none := by
  obtain ⟨done, openRow, pending, raiseRun, nextHeight, lastMove, before⟩ := level
  rcases openRow with _ | ⟨height, _ | ⟨newest, older⟩⟩
  · rfl
  · rfl
  · by_cases hpending : pending = 0
    · simp [grow, erase, currentRow, OpenRow.erase, Cell.erase, hpending]
    · simp [grow, erase, currentRow, OpenRow.erase, Cell.erase, hpending]

/-- Placing a grid does not look at what is erased. -/
theorem erase_attach (level : Level) (color : Option Color) (grid : Grid) :
    (level.attach color grid).erase inside ink =
      (level.erase inside ink).attach none (inside grid) := by
  obtain ⟨done, openRow, pending, raiseRun, nextHeight, lastMove, before⟩ := level
  rcases openRow with _ | ⟨height, _ | ⟨newest, older⟩⟩ <;> cases lastMove <;> rfl

/-- A raise does not look at what is erased. -/
theorem erase_raise (level : Level) :
    level.raise.erase inside ink = (level.erase inside ink).raise := by
  obtain ⟨done, openRow, pending, raiseRun, nextHeight, lastMove, before⟩ := level
  cases lastMove <;> cases openRow <;> rfl

/-- A break does not look at what is erased. -/
theorem erase_breakRow (level : Level) :
    level.breakRow.erase inside ink = (level.erase inside ink).breakRow := by
  unfold breakRow
  rw [allRows_erase]
  rfl

end Level

end Slab
