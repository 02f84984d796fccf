import Mathlib.Tactic.SplitIfs
import Slab.Compile
import Slab.Proofs.Soundness

/-!
# Which grids there are programs for

Compiled grids are solid, and packed inside (`scan_solid_packed`). But for colours that is all there
is to say about them: **`compile_image`** adds that every grid without colours that is solid and
packed inside is compiled from a program. `Grid.draft` writes that program, `Row.draft` and
`draftCells` the parts for rows and cells.

In a row that was raised, cells are set apart by raises. In an outermost row of height 1 a stray
close comes before the raise, which then reaches for the next row only. In a row of height 1
inside a grid neither will do: there each cell is begun by placing a grid, an empty one where the
cell has still to be widened.
-/

namespace Slab

/-- No cell of the grid or of a grid inside it has a colour. -/
def Grid.Colorless (grid : Grid) : Prop :=
  grid.Everywhere fun part => ∀ cell ∈ part.cells, cell.color = none

/-! ### The program of a grid -/

/-- What begins a cell behind another, and makes it as wide as it should be. -/
def leadUnits (outermost : Bool) (height width : Nat) : List Lexeme :=
  if outermost then .close :: .command .raise :: List.replicate width (.command .grow)
  else if 2 ≤ height then .command .raise :: List.replicate width (.command .grow)
  else if width = 1 then []
  else [.command .nest, .close] ++ List.replicate (width - 1) (.command .grow)

mutual

/-- The units that build a grid, on the outermost level or on another. -/
def Grid.draft (outermost : Bool) : Grid → List Lexeme
  | ⟨rows⟩ => draftRows outermost rows

/-- The units that build some rows. -/
def draftRows (outermost : Bool) : List Row → List Lexeme
  | [] => []
  | row :: rows => row.draft outermost ++ draftRows outermost rows

/-- The units that build a row: a break, the raises for its height, and its cells. -/
def Row.draft (outermost : Bool) : Row → List Lexeme
  | ⟨height, cells⟩ =>
    .command .breakRow :: (List.replicate (height - 1) (.command .raise) ++
      draftCells (List.replicate · (.command .grow)) (leadUnits outermost height) cells)

/-- The units that build some cells, where the first one is begun by `lead` and the others by
`next`. -/
def draftCells (lead next : Nat → List Lexeme) : List Cell → List Lexeme
  | [] => []
  | cell :: cells => lead cell.width ++ (cell.draftNested ++ draftCells next next cells)

/-- The units that place the grid of a cell, if it has one. -/
def Cell.draftNested : Cell → List Lexeme
  | ⟨_, _, none⟩ => []
  | ⟨_, _, some grid⟩ => .command .nest :: (grid.draft false ++ [.close])

end

/-- A grid is built row by row. -/
theorem Grid.draft_eq (grid : Grid) (outermost : Bool) :
    grid.draft outermost = draftRows outermost grid.rows := by
  obtain ⟨rows⟩ := grid
  rw [Grid.draft]

/-- No rows need no units. -/
@[simp] theorem draftRows_nil (outermost : Bool) : draftRows outermost [] = [] := by
  rw [draftRows]

/-- Rows are built one after another. -/
@[simp] theorem draftRows_cons (outermost : Bool) (row : Row) (rows : List Row) :
    draftRows outermost (row :: rows) = row.draft outermost ++ draftRows outermost rows := by
  rw [draftRows]

/-- No cells need no units. -/
@[simp] theorem draftCells_nil (lead next : Nat → List Lexeme) : draftCells lead next [] = [] := by
  rw [draftCells]

/-- Cells are built one after another. -/
@[simp] theorem draftCells_cons (lead next : Nat → List Lexeme) (cell : Cell) (cells : List Cell) :
    draftCells lead next (cell :: cells) =
      lead cell.width ++ (cell.draftNested ++ draftCells next next cells) := by
  rw [draftCells]

/-- A cell without a grid needs no units for it. -/
theorem Cell.draftNested_of_none {cell : Cell} (h : cell.nested = none) :
    cell.draftNested = [] := by
  obtain ⟨width, color, nested⟩ := cell
  obtain rfl : nested = none := h
  rw [Cell.draftNested]

/-- The grid of a cell is built as a nested program. -/
theorem Cell.draftNested_of_some {cell : Cell} {grid : Grid} (h : cell.nested = some grid) :
    cell.draftNested = .command .nest :: (grid.draft false ++ [.close]) := by
  obtain ⟨width, color, nested⟩ := cell
  obtain rfl : nested = some grid := h
  rw [Cell.draftNested]

/-! ### Its units can be written down -/

/-- What begins a cell can be written down. -/
theorem writable_leadUnits (outermost : Bool) (height width : Nat) :
    Writable (leadUnits outermost height width) := by
  have hgrow : ∀ n, Writable (List.replicate n (.command .grow)) :=
    writable_replicate (by decide) (by decide)
  unfold leadUnits
  split_ifs
  · exact ((hgrow width).command (by decide) (by decide)).close
  · exact (hgrow width).command (by decide) (by decide)
  · exact writable_nil
  · exact (hgrow (width - 1)).close.command (by decide) (by decide)

/-- Cells can be written down if their grids can. -/
theorem writable_draftCells {lead next : Nat → List Lexeme} (hlead : ∀ width, Writable (lead width))
    (hnext : ∀ width, Writable (next width)) {cells : List Cell}
    (hgrids : ∀ cell ∈ cells, ∀ grid, cell.nested = some grid → Writable (grid.draft false)) :
    Writable (draftCells lead next cells) := by
  induction cells generalizing lead with
  | nil =>
      rw [draftCells_nil]
      exact writable_nil
  | cons cell cells ih =>
      rw [List.forall_mem_cons] at hgrids
      have hnested : Writable cell.draftNested := by
        rcases h : cell.nested with _ | grid
        · rw [Cell.draftNested_of_none h]
          exact writable_nil
        · rw [Cell.draftNested_of_some h]
          refine Writable.command (by decide) (by decide) ?_
          exact (hgrids.1 grid h).append writable_nil.close
      rw [draftCells_cons]
      exact (hlead _).append (hnested.append (ih hnext hgrids.2))

/-- A solid row can be written down if its grids can. -/
theorem writable_draft_row {row : Row} (hsolid : row.Solid) (outermost : Bool)
    (hgrids : ∀ cell ∈ row.cells, ∀ grid, cell.nested = some grid → Writable (grid.draft false)) :
    Writable (row.draft outermost) := by
  obtain ⟨height, cells⟩ := row
  have hgrow : ∀ n, Writable (List.replicate n (.command .grow)) :=
    writable_replicate (by decide) (by decide)
  have hcells := writable_draftCells hgrow (writable_leadUnits outermost height) hgrids
  have hraises : Writable (List.replicate (height - 1) (.command .raise)) :=
    writable_replicate (by decide) (by decide) _
  have hbody := hraises.append hcells
  rw [Row.draft]
  -- the break is kept apart from what follows by a raise, or by the growth of the first cell
  rcases hheight : height - 1 with _ | n
  · rcases cells with _ | ⟨cell, cells⟩
    · exact absurd rfl hsolid.cells_ne_nil
    · obtain ⟨width, hwidth⟩ := Nat.exists_eq_add_of_le' (hsolid.width_pos cell List.mem_cons_self)
      rw [hheight, draftCells_cons, hwidth, List.replicate_succ] at hbody
      rw [draftCells_cons, hwidth, List.replicate_succ]
      exact hbody.breakRow (by decide)
  · rw [hheight, List.replicate_succ] at hbody
    rw [List.replicate_succ]
    exact hbody.breakRow (by decide)

/-- A grid that is solid everywhere can be written down. -/
theorem writable_draft (grid : Grid) (hsolid : grid.Solid) (outermost : Bool) :
    Writable (grid.draft outermost) := by
  induction grid using Grid.nested_induction generalizing outermost with
  | step grid ih =>
      obtain ⟨hrows, hinner⟩ := Grid.everywhere_iff.mp hsolid
      have hgrids : ∀ row ∈ grid.rows, ∀ cell ∈ row.cells, ∀ inner, cell.nested = some inner →
          Writable (inner.draft false) := by
        intro row hrow cell hcell inner h
        have hholds := Grid.holds_iff.mpr ⟨row, hrow, cell, hcell, h⟩
        exact ih inner hholds (hinner inner hholds) false
      rw [Grid.draft_eq]
      generalize grid.rows = rows at hrows hgrids
      clear ih hinner hsolid
      induction rows with
      | nil =>
          rw [draftRows_nil]
          exact writable_nil
      | cons row rows ih =>
          simp only [List.forall_mem_cons] at hrows hgrids
          rw [draftRows_cons]
          exact (writable_draft_row hrows.1 outermost hgrids.1).append (ih hrows.2 hgrids.2)

/-! ### Running them builds the grid -/

/-- A level in the middle of a row: nothing is pending, and no hue is active. -/
def Level.filling (rows : List Row) (height : Nat) (cells : List Cell) (nextHeight : Nat)
    (lastMove : LastMove) (lightness : Float) : Level where
  done := rows
  openRow := some ⟨height, cells⟩
  nextHeight := nextHeight
  lastMove := lastMove
  ink := ⟨none, lightness⟩

namespace Builder

variable {rows : List Row} {height nextHeight width : Nat} {older : List Cell}
  {lastMove : LastMove} {lightness : Float} {nested : Option Grid} {outer : List Suspended}

/-- Raises behind a break are for the next row. -/
theorem run_raises (level : Level) (n : Nat) :
    (⟨level.breakRow, outer⟩ : Builder).run (List.replicate n (.command .raise)) =
      ⟨{ level.breakRow with pending := n, raiseRun := n, nextHeight := n + 1 }, outer⟩ := by
  induction n with
  | zero => rfl
  | succ n ih =>
      have hmax : max (n + 1) (n + 2) = n + 1 + 1 := by omega
      rw [List.replicate_succ', run_append, ih]
      simp only [run_cons, run_nil, step, perform, modify, Level.raise, Level.breakRow, hmax]

/-- Growth widens the newest cell. -/
theorem run_grow (n : Nat) :
    (⟨.filling rows height (⟨width, none, nested⟩ :: older) nextHeight lastMove lightness, outer⟩ :
        Builder).run (List.replicate (n + 1) (.command .grow)) =
      ⟨.filling rows height (⟨width + n + 1, none, nested⟩ :: older) nextHeight .grew lightness,
        outer⟩ := by
  induction n generalizing width lastMove with
  | zero => rfl
  | succ n ih =>
      have hwidth : width + (n + 1) + 1 = width + 1 + n + 1 := by omega
      rw [List.replicate_succ, hwidth]
      exact ih

/-- Growth begins a cell where raises are pending or there is none. -/
theorem run_grow_new (outer : List Suspended) (level : Level)
    (hink : level.ink = ⟨none, lightness⟩)
    (hnew : level.currentRow.cells = [] ∨ level.pending ≠ 0) (n : Nat) :
    (⟨level, outer⟩ : Builder).run (List.replicate (n + 1) (.command .grow)) =
      ⟨.filling level.done level.currentRow.height
        (⟨n + 1, none, none⟩ :: level.currentRow.cells) level.nextHeight .grew lightness,
        outer⟩ := by
  have hgrow : level.grow level.ink.color? = .filling level.done level.currentRow.height
      (⟨1, none, none⟩ :: level.currentRow.cells) level.nextHeight .grew lightness := by
    rcases level.grow_cases level.ink.color? with ⟨newest, older, hcells, hpending, -⟩ | ⟨-, hgrow⟩
    · rcases hnew with hnone | hsome
      · exact absurd (hcells.symm.trans hnone) (by simp)
      · exact absurd hpending hsome
    · rw [hgrow, hink]
      rfl
  rw [List.replicate_succ, run_cons]
  show (⟨level.grow level.ink.color?, outer⟩ : Builder).run _ = _
  rw [hgrow]
  rcases n with _ | n
  · rfl
  · have hwidth : n + 1 + 1 = 1 + n + 1 := by omega
    rw [run_grow, hwidth]

/-- Running the units of a grid on a fresh level without hue builds the grid, whatever is open
around it. -/
def Builds (grid : Grid) : Prop :=
  ∀ (lightness : Float) (outer : List Suspended), ∃ level,
    (⟨.start ⟨none, lightness⟩, outer⟩ : Builder).run (grid.draft false) = ⟨level, outer⟩ ∧
      level.finish = grid

/-- The grid without rows is built. -/
theorem builds_empty : Builds ⟨[]⟩ := by
  intro lightness outer
  exact ⟨_, by rw [Grid.draft, draftRows_nil, run_nil], rfl⟩

/-- A nested program that builds a grid places it. -/
theorem run_nested {grid : Grid} (h : Builds grid) (level : Level)
    (hink : level.ink = ⟨none, lightness⟩) (outer : List Suspended) :
    (⟨level, outer⟩ : Builder).run (.command .nest :: (grid.draft false ++ [.close])) =
      ⟨level.attach none grid, outer⟩ := by
  have hsuspend : level.suspend = level := by
    obtain ⟨done, openRow, pending, raiseRun, next, move, ink⟩ := level
    obtain rfl : ink = ⟨none, lightness⟩ := hink
    rfl
  obtain ⟨built, hrun, hfinish⟩ := h lightness (⟨level.suspend, level.ink.color?⟩ :: outer)
  rw [run_cons, step_nest, Level.nestedStart, hink, run_append]
  rw [hink] at hrun
  rw [show (Ink.mk none lightness).spend = ⟨none, lightness⟩ from rfl, hrun, run_cons, run_nil,
    step_close_cons, hfinish, Suspended.resume, hsuspend]
  rfl

/-- Behind growth, what a cell should hold is placed in it. -/
theorem run_draftNested {cell : Cell} (hcolor : cell.color = none)
    (hbuilds : ∀ grid, cell.nested = some grid → Builds grid) :
    ∃ move, move ≠ .broke ∧ (cell.nested ≠ none → move = .other) ∧
      ∀ rows height older nextHeight lightness outer,
        (⟨.filling rows height (⟨cell.width, none, none⟩ :: older) nextHeight .grew lightness,
            outer⟩ : Builder).run cell.draftNested =
          ⟨.filling rows height (cell :: older) nextHeight move lightness, outer⟩ := by
  obtain ⟨width, color, nested⟩ := cell
  obtain rfl : color = none := hcolor
  rcases nested with _ | grid
  · refine ⟨.grew, by simp, by simp, ?_⟩
    intro rows height older nextHeight lightness outer
    rw [Cell.draftNested_of_none rfl, run_nil]
  · refine ⟨.other, by simp, by simp, ?_⟩
    intro rows height older nextHeight lightness outer
    rw [Cell.draftNested_of_some rfl, run_nested (hbuilds grid rfl) _ rfl]
    rfl

/-- Cells are built one after another if each is: `ok` says what the move before a cell may be. -/
theorem run_draftCells {next : Nat → List Lexeme} (ok : LastMove → Prop) {cells : List Cell}
    (hcell : ∀ cell ∈ cells, ∀ older nextHeight move, ok move → ∃ nextHeight' move', ok move' ∧
      (⟨.filling rows height older nextHeight move lightness, outer⟩ : Builder).run
          (next cell.width ++ cell.draftNested) =
        ⟨.filling rows height (cell :: older) nextHeight' move' lightness, outer⟩)
    (older : List Cell) (nextHeight : Nat) {move : LastMove} (hok : cells ≠ [] → ok move) :
    ∃ nextHeight' move',
      (⟨.filling rows height older nextHeight move lightness, outer⟩ : Builder).run
          (draftCells next next cells) =
        ⟨.filling rows height (cells.reverse ++ older) nextHeight' move' lightness, outer⟩ := by
  induction cells generalizing older nextHeight move with
  | nil => exact ⟨nextHeight, move, by rw [draftCells_nil]; rfl⟩
  | cons cell cells ih =>
      rw [List.forall_mem_cons] at hcell
      obtain ⟨between, after, hafter, hrun⟩ := hcell.1 older nextHeight move (hok (by simp))
      obtain ⟨nextHeight', move', hrest⟩ :=
        ih hcell.2 (cell :: older) between fun _ => hafter
      refine ⟨nextHeight', move', ?_⟩
      rw [draftCells_cons, ← List.append_assoc, run_append, hrun, hrest, List.reverse_cons,
        List.append_assoc]
      rfl

/-- On the outermost level, a stray close and a raise let the next cell begin without making the
row taller. -/
theorem run_lead_outermost (n : Nat) :
    (⟨.filling rows height older nextHeight lastMove lightness, []⟩ : Builder).run
        (leadUnits true height (n + 1)) =
      ⟨.filling rows height (⟨n + 1, none, none⟩ :: older) 2 .grew lightness, []⟩ := by
  rw [leadUnits, if_pos rfl, run_cons, step_close_nil, run_cons]
  exact run_grow_new []
    (Level.filling rows height older nextHeight lastMove lightness).strayClose.raise rfl
    (Or.inr (by simp [Level.strayClose, Level.raise])) n

/-- In a row that is taller than 1, a raise lets the next cell begin. -/
theorem run_lead_tall (hheight : 2 ≤ height) (hmove : lastMove ≠ .broke) (n : Nat) :
    (⟨.filling rows height older nextHeight lastMove lightness, outer⟩ : Builder).run
        (leadUnits false height (n + 1)) =
      ⟨.filling rows height (⟨n + 1, none, none⟩ :: older) nextHeight .grew lightness, outer⟩ := by
  have hraise : (Level.filling rows height older nextHeight lastMove lightness).raise =
      { Level.filling rows height older nextHeight .other lightness with
        pending := 1, raiseRun := 1 } := by
    have hmax : max height 2 = height := Nat.max_eq_left hheight
    rcases Level.raise_cases (.filling rows height older nextHeight lastMove lightness) with
      ⟨row, hopen, -, hraise⟩ | ⟨hnone | hbroke, -⟩
    · cases hopen
      rw [hraise]
      simp [Level.filling, hmax]
    · cases hnone
    · exact absurd hbroke hmove
  rw [leadUnits, if_neg (by simp), if_pos hheight, run_cons]
  show (⟨Level.raise _, outer⟩ : Builder).run _ = _
  rw [hraise]
  exact run_grow_new outer _ rfl (Or.inr (by simp)) n

/-- In a row of height 1, a cell that is to hold a grid begins with one, and behind its growth the
grid is replaced. -/
theorem run_lead_low {cell : Cell} {grid : Grid} (hheight : ¬2 ≤ height)
    (hcolor : cell.color = none)
    (hwidth : 1 ≤ cell.width) (hnested : cell.nested = some grid) (hbuilds : Builds grid) :
    (⟨.filling rows height older nextHeight .other lightness, outer⟩ : Builder).run
        (leadUnits false height cell.width ++ cell.draftNested) =
      ⟨.filling rows height (cell :: older) nextHeight .other lightness, outer⟩ := by
  obtain ⟨width, color, nested⟩ := cell
  obtain rfl : color = none := hcolor
  obtain rfl : nested = some grid := hnested
  rw [leadUnits, if_neg (by simp), if_neg hheight, Cell.draftNested_of_some rfl]
  by_cases hone : width = 1
  · subst hone
    rw [if_pos rfl, List.nil_append, run_nested hbuilds _ rfl]
    rfl
  · have hempty := run_nested builds_empty
      (.filling rows height older nextHeight .other lightness) rfl outer
    rw [Grid.draft, draftRows_nil, List.nil_append] at hempty
    obtain ⟨n, rfl⟩ : ∃ n, width = 1 + n + 1 := ⟨width - 2, by simp at hwidth; omega⟩
    have hsub : 1 + n + 1 - 1 = n + 1 := by omega
    rw [if_neg hone, hsub, List.append_assoc, run_append, hempty, run_append]
    show ((⟨.filling rows height (⟨1, none, some ⟨[]⟩⟩ :: older) nextHeight .other lightness,
      outer⟩ : Builder).run _).run _ = _
    rw [run_grow, run_nested hbuilds _ rfl]
    rfl

/-- Behind the first cell of a row the others are built, each begun in the way that goes with the
row: on another than the outermost level a row of height 1 must have a grid in each. -/
theorem run_draft_others {cells : List Cell} (hwidth : ∀ cell ∈ cells, 1 ≤ cell.width)
    (hcolor : ∀ cell ∈ cells, cell.color = none)
    (hbuilds : ∀ cell ∈ cells, ∀ grid, cell.nested = some grid → Builds grid) {outermost : Bool}
    (hwhere : outermost = true ∧ outer = [] ∨
      outermost = false ∧ (¬2 ≤ height → ∀ cell ∈ cells, cell.nested ≠ none))
    {move : LastMove} (hmove : move ≠ .broke)
    (hother : outermost = false → ¬2 ≤ height → cells ≠ [] → move = .other) :
    ∃ nextHeight' move',
      (⟨.filling rows height older nextHeight move lightness, outer⟩ : Builder).run
          (draftCells (leadUnits outermost height) (leadUnits outermost height) cells) =
        ⟨.filling rows height (cells.reverse ++ older) nextHeight' move' lightness, outer⟩ := by
  rcases hwhere with ⟨rfl, rfl⟩ | ⟨rfl, hfull⟩
  · refine run_draftCells (fun _ => True) ?_ older nextHeight fun _ => trivial
    intro cell hcell older nextHeight move _
    obtain ⟨w, hw⟩ := Nat.exists_eq_add_of_le' (hwidth cell hcell)
    obtain ⟨move', -, -, hrun⟩ := run_draftNested (hcolor cell hcell) (hbuilds cell hcell)
    refine ⟨2, move', trivial, ?_⟩
    rw [run_append, hw, run_lead_outermost, ← hw, hrun]
  by_cases hheight : 2 ≤ height
  · refine run_draftCells (· ≠ .broke) ?_ older nextHeight fun _ => hmove
    intro cell hcell older nextHeight move hok
    obtain ⟨w, hw⟩ := Nat.exists_eq_add_of_le' (hwidth cell hcell)
    obtain ⟨move', hmove', -, hrun⟩ := run_draftNested (hcolor cell hcell) (hbuilds cell hcell)
    refine ⟨nextHeight, move', hmove', ?_⟩
    rw [run_append, hw, run_lead_tall hheight hok, ← hw, hrun]
  · refine run_draftCells (· = .other) ?_ older nextHeight (hother rfl hheight)
    intro cell hcell older nextHeight move hok
    obtain rfl : move = .other := hok
    obtain ⟨grid, hgrid⟩ := Option.ne_none_iff_exists'.mp (hfull hheight cell hcell)
    refine ⟨nextHeight, .other, rfl, ?_⟩
    exact run_lead_low hheight (hcolor cell hcell) (hwidth cell hcell) hgrid
      (hbuilds cell hcell grid hgrid)

/-- A row without colours is built behind what there is, if the grids in it are; on another than
the outermost level, if it is packed. -/
theorem run_draft_row {row : Row} (hsolid : row.Solid)
    (hcolor : ∀ cell ∈ row.cells, cell.color = none)
    (hbuilds : ∀ cell ∈ row.cells, ∀ grid, cell.nested = some grid → Builds grid)
    {outermost : Bool} (hwhere : outermost = true ∧ outer = [] ∨ outermost = false ∧ row.Packed)
    {level : Level} (hink : level.ink = ⟨none, lightness⟩) :
    ∃ after, (⟨level, outer⟩ : Builder).run (row.draft outermost) = ⟨after, outer⟩ ∧
      after.allRows = row :: level.allRows ∧ after.ink = ⟨none, lightness⟩ := by
  obtain ⟨height, cells⟩ := row
  obtain ⟨n, rfl⟩ := Nat.exists_eq_add_of_le' hsolid.height_pos
  rcases cells with _ | ⟨first, cells⟩
  · exact absurd rfl hsolid.cells_ne_nil
  have hwidths := hsolid.width_pos
  simp only [List.forall_mem_cons] at hcolor hbuilds hwidths
  obtain ⟨w, hw⟩ := Nat.exists_eq_add_of_le' hwidths.1
  -- the first cell
  have hfirst := run_grow_new outer
    { level.breakRow with pending := n, raiseRun := n, nextHeight := n + 1 } hink (Or.inl rfl) w
  obtain ⟨move, hmove, hother, hheld⟩ := run_draftNested hcolor.1 hbuilds.1
  -- the others
  have hfull : Row.Packed ⟨n + 1, first :: cells⟩ → ¬2 ≤ n + 1 → cells ≠ [] →
      ∀ cell ∈ first :: cells, cell.nested ≠ none := by
    intro hpacked hlow hcells
    have hlength := List.length_pos_iff.mpr hcells
    exact hpacked (by simp; omega) (by simp; omega)
  have hcells : outermost = true ∧ outer = [] ∨
      outermost = false ∧ (¬2 ≤ n + 1 → ∀ cell ∈ cells, cell.nested ≠ none) := by
    refine hwhere.imp id ?_
    rintro ⟨hinner, hpacked⟩
    refine ⟨hinner, fun hlow cell hcell => ?_⟩
    exact hfull hpacked hlow (List.ne_nil_of_mem hcell) cell (List.mem_cons_of_mem _ hcell)
  have hplaced : outermost = false → ¬2 ≤ n + 1 → cells ≠ [] → move = .other := by
    intro hinner hlow hnonempty
    rcases hwhere with ⟨houtermost, -⟩ | ⟨-, hpacked⟩
    · exact absurd (houtermost.symm.trans hinner) (by decide)
    · exact hother (hfull hpacked hlow hnonempty first List.mem_cons_self)
  obtain ⟨nextHeight', move', hothers⟩ :=
    run_draft_others hwidths.2 hcolor.2 hbuilds.2 hcells hmove hplaced
  refine ⟨.filling level.allRows (n + 1) (cells.reverse ++ [first]) nextHeight' move' lightness,
    ?_, ?_, rfl⟩
  · rw [Row.draft, draftCells_cons, Nat.add_sub_cancel, run_cons]
    show (⟨level.breakRow, outer⟩ : Builder).run _ = _
    rw [run_append, run_raises, run_append, hw, hfirst, run_append, ← hw]
    show (((⟨.filling level.allRows (n + 1) [⟨first.width, none, none⟩] (n + 1) .grew lightness,
      outer⟩ : Builder).run _).run _) = _
    rw [hheld, hothers]
  · rw [Level.allRows_of_some rfl]
    simp [OpenRow.close, Level.filling]

/-- Rows without colours are built one after another. -/
theorem run_draftRows (outermost : Bool) (outer : List Suspended) {rows : List Row}
    (hsolid : ∀ row ∈ rows, row.Solid)
    (hcolor : ∀ row ∈ rows, ∀ cell ∈ row.cells, cell.color = none)
    (hbuilds : ∀ row ∈ rows, ∀ cell ∈ row.cells, ∀ grid, cell.nested = some grid → Builds grid)
    (hwhere : outermost = true ∧ outer = [] ∨ outermost = false ∧ ∀ row ∈ rows, row.Packed)
    (level : Level) (hink : level.ink = ⟨none, lightness⟩) :
    ∃ after, (⟨level, outer⟩ : Builder).run (draftRows outermost rows) = ⟨after, outer⟩ ∧
      after.allRows = rows.reverse ++ level.allRows := by
  induction rows generalizing level with
  | nil => exact ⟨level, by rw [draftRows_nil, run_nil], rfl⟩
  | cons row rows ih =>
      simp only [List.forall_mem_cons] at hsolid hcolor hbuilds hwhere
      have hrow := hwhere.imp id fun h => And.intro h.1 h.2.1
      have hrows := hwhere.imp id fun h => And.intro h.1 h.2.2
      obtain ⟨between, hrun, hall, hink'⟩ :=
        run_draft_row hsolid.1 hcolor.1 hbuilds.1 hrow hink
      obtain ⟨after, hrest, hafter⟩ := ih hsolid.2 hcolor.2 hbuilds.2 hrows between hink'
      refine ⟨after, ?_, ?_⟩
      · rw [draftRows_cons, run_append, hrun, hrest]
      · rw [hafter, hall, List.reverse_cons, List.append_assoc]
        rfl

/-- A grid without colours, solid and packed everywhere, is built by its units. -/
theorem builds_of_sealed (grid : Grid) (hsealed : grid.Sealed)
    (hcolor : grid.Colorless) : Builds grid := by
  induction grid using Grid.nested_induction with
  | step grid ih =>
      intro lightness outer
      obtain ⟨hrows, hsealed⟩ := Grid.sealed_iff.mp hsealed
      obtain ⟨hcells, hcolor⟩ := Grid.everywhere_iff.mp hcolor
      have hsolid : ∀ row ∈ grid.rows, row.Solid := by
        intro row hrow
        exact (hrows row hrow).1
      have hpacked : ∀ row ∈ grid.rows, row.Packed := by
        intro row hrow
        exact (hrows row hrow).2
      have hbuilds : ∀ row ∈ grid.rows, ∀ cell ∈ row.cells, ∀ inner, cell.nested = some inner →
          Builds inner := by
        intro row hrow cell hcell inner hinner
        have hholds := Grid.holds_iff.mpr ⟨row, hrow, cell, hcell, hinner⟩
        exact ih inner hholds (hsealed inner hholds) (hcolor inner hholds)
      obtain ⟨after, hrun, hafter⟩ := run_draftRows false outer hsolid
        (Grid.forall_cells_iff.mp hcells) hbuilds (Or.inr ⟨rfl, hpacked⟩)
        (.start ⟨none, lightness⟩) rfl
      rw [Grid.draft_eq]
      exact ⟨after, hrun, Level.finish_eq (hafter.trans (List.append_nil _))⟩

end Builder

/-- A grid without colours is scanned from the text of its units, if it is solid and packed
inside. -/
theorem scan_spell_draft {grid : Grid} (hsolid : grid.Solid) (hpacked : grid.Packed)
    (hcolor : grid.Colorless) (lightness : Float) :
    scan (spell (grid.draft true)) ⟨none, lightness⟩ = grid := by
  obtain ⟨hrows, hsealed⟩ := Grid.solid_packed_iff.mp ⟨hsolid, hpacked⟩
  obtain ⟨hcells, hcolor⟩ := Grid.everywhere_iff.mp hcolor
  have hbuilds : ∀ row ∈ grid.rows, ∀ cell ∈ row.cells, ∀ inner, cell.nested = some inner →
      Builder.Builds inner := by
    intro row hrow cell hcell inner hinner
    have hholds := Grid.holds_iff.mpr ⟨row, hrow, cell, hcell, hinner⟩
    exact Builder.builds_of_sealed inner (hsealed inner hholds) (hcolor inner hholds)
  obtain ⟨after, hrun, hafter⟩ := Builder.run_draftRows true [] hrows
    (Grid.forall_cells_iff.mp hcells) hbuilds (Or.inl ⟨rfl, rfl⟩) (.start ⟨none, lightness⟩) rfl
  rw [scan_eq, (writable_draft grid hsolid true).lexemes_spell, Grid.draft_eq]
  show ((⟨.start ⟨none, lightness⟩, []⟩ : Builder).run _).unwind.finish = grid
  rw [hrun, Builder.unwind_nil]
  exact Level.finish_eq (hafter.trans (List.append_nil _))

/-- **The image of compiling, but for colours**: whatever the program and the options, no row of
the compiled grid or of one inside it is empty, no weight is 0, and inside it, rows of height 1
with several cells hold a grid in each cell; and every such grid without colours is compiled from
some program. -/
theorem compile_image :
    (∀ (program : String) (options : CompileOptions),
      (compile program options).Solid ∧ (compile program options).Packed) ∧
    ∀ grid : Grid, grid.Solid → grid.Packed → grid.Colorless →
      ∃ program : String, compile program = grid := by
  constructor
  · intro program options
    exact scan_solid_packed _ _
  · intro grid hsolid hpacked hcolor
    have hwritable := writable_draft grid hsolid true
    have hplain : ¬isRecursive (spell (grid.draft true)) := by
      intro hrec
      have hcount := count_lexemes .recurse (by decide) (spell (grid.draft true))
      rw [hwritable.lexemes_spell, List.count_eq_zero.mpr hwritable.noRecurse] at hcount
      exact List.count_eq_zero.mp hcount.symm (List.contains_iff_mem.mp hrec)
    refine ⟨String.ofList (spell (grid.draft true)), ?_⟩
    show scan (if isRecursive (String.ofList _).toList then _ else _) _ = grid
    rw [String.toList_ofList, if_neg hplain]
    exact scan_spell_draft hsolid hpacked hcolor 1

/-- A cell next to another, and in it two cells side by side in a row of height 1. -/
def twoInOne : Grid :=
  ⟨[⟨1, [⟨2, none, some ⟨[⟨1, [⟨1, none, some ⟨[]⟩⟩, ⟨3, none, some ⟨[]⟩⟩]⟩]⟩⟩, ⟨1, none, none⟩]⟩]⟩

/-- There is a program for the two cells in one. -/
theorem compile_image_twoInOne :
    twoInOne.Solid ∧ twoInOne.Packed ∧ twoInOne.Colorless ∧
      ∃ program : String, compile program = twoInOne := by
  let inner : Grid := ⟨[⟨1, [⟨1, none, some ⟨[]⟩⟩, ⟨3, none, some ⟨[]⟩⟩]⟩]⟩
  have hempty : ∀ P : Grid → Prop, P ⟨[]⟩ → Grid.Everywhere P ⟨[]⟩ := by
    intro P h
    refine Grid.everywhere_iff.mpr ⟨h, ?_⟩
    intro held hheld
    exact absurd hheld List.not_mem_nil
  have hinner : ∀ P : Grid → Prop, P inner → P ⟨[]⟩ → inner.Everywhere P := by
    intro P h hnone
    refine Grid.everywhere_iff.mpr ⟨h, List.forall_mem_cons.mpr ⟨hempty P hnone, ?_⟩⟩
    exact List.forall_mem_singleton.mpr (hempty P hnone)
  have houter : ∀ P : Grid → Prop, P twoInOne → P inner → P ⟨[]⟩ → twoInOne.Everywhere P := by
    intro P h hone hnone
    refine Grid.everywhere_iff.mpr ⟨h, ?_⟩
    exact List.forall_mem_singleton.mpr (hinner P hone hnone)
  have hsolid : twoInOne.Solid := by
    refine houter _ ?_ ?_ (by simp)
    · simpa [twoInOne] using ⟨by simp, by simp, by simp⟩
    · simpa [inner] using ⟨by simp, by simp, by simp⟩
  have hpacked : twoInOne.Packed := by
    refine Grid.inside_iff.mpr (List.forall_mem_singleton.mpr (hinner _ ?_ (by simp)))
    simp [inner, Row.Packed]
  have hcolor : twoInOne.Colorless := by
    refine houter _ ?_ ?_ (by simp [Grid.cells])
    · simp [twoInOne, Grid.cells]
    · simp [inner, Grid.cells]
  exact ⟨hsolid, hpacked, hcolor, compile_image.2 twoInOne hsolid hpacked hcolor⟩

end Slab
