import Mathlib.Algebra.GroupWithZero.Nat
import Mathlib.Algebra.Order.BigOperators.Group.List
import Mathlib.Algebra.Order.Group.Nat
import Slab.Proofs.Depth
import Slab.Proofs.Tree

/-!
# Visiting a tree in any order

`Grid.depth` and `Grid.cellCount` keep the grids still to be visited in a list. `VisitStep` visits
one of them, whichever it is, so that pending grids of different parents and levels may take turns
in every possible way. A step changes nothing about where the two loops will end
(`deepestFrom_step`, `cellCountFrom_step`) and no way of taking steps goes on forever
(`VisitStep.wellFounded`), so every order gives the same depth and the same number of cells: those
that the recursion over the tree gives, `depth_eq` and `cellCount_eq`. What depth and number of
cells have to do with each other is by induction over the tree.
-/

namespace Slab

/-! ### Working off what waits -/

section

variable {α β : Type} {visit : α → β → α} {inside : β → List β}

/-- One of the waiting items is visited, and what is inside it waits in its place. -/
inductive VisitStep (visit : α → β → α) (inside : β → List β) : α × List β → α × List β → Prop
  /-- Any of the waiting items may be the one. -/
  | visit (result : α) (before after : List β) (item : β) :
      VisitStep visit inside (result, before ++ item :: after)
        (visit result item, before ++ inside item ++ after)

/-- Waiting items are visited one after the other. -/
def VisitRun (visit : α → β → α) (inside : β → List β) (start stop : α × List β) : Prop :=
  Relation.ReflTransGen (VisitStep visit inside) start stop

/-- If what is inside an item is smaller than the item, no run goes on forever. -/
theorem VisitStep.wellFounded (size : β → Nat)
    (hsize : ∀ item, ((inside item).map size).sum < size item) :
    WellFounded fun stop start => VisitStep visit inside start stop := by
  refine Subrelation.wf ?_ (measure fun state : α × List β => (state.2.map size).sum).wf
  rintro _ _ ⟨result, before, after, item⟩
  have hinside := hsize item
  show ((before ++ inside item ++ after).map size).sum < ((before ++ item :: after).map size).sum
  simp only [List.map_append, List.map_cons, List.sum_append, List.sum_cons]
  omega

variable {final : α → List β → α}

/-- Where visits never change what is still to come out, a run does not change it either. -/
theorem VisitRun.final_eq
    (hstep : ∀ result before item after, final result (before ++ item :: after) =
      final (visit result item) (before ++ inside item ++ after))
    {start stop : α × List β} (h : VisitRun visit inside start stop) :
    final start.1 start.2 = final stop.1 stop.2 := by
  induction h with
  | refl => rfl
  | tail _ hlast ih =>
      obtain ⟨result, before, after, item⟩ := hlast
      exact ih.trans (hstep result before item after)

/-- So a run that has nothing left to visit has come to just that, and there is such a run. -/
theorem visitRun_iff (hwf : WellFounded fun stop start => VisitStep visit inside start stop)
    (hnil : ∀ result, final result [] = result)
    (hstep : ∀ result before item after, final result (before ++ item :: after) =
      final (visit result item) (before ++ inside item ++ after))
    (result stop : α) (waiting : List β) :
    VisitRun visit inside (result, waiting) (stop, []) ↔ stop = final result waiting := by
  constructor
  · intro h
    rw [← hnil stop]
    exact (h.final_eq hstep).symm
  · rintro rfl
    induction hstate : (result, waiting) using hwf.induction generalizing result waiting with
    | h state ih =>
        subst hstate
        rcases waiting with _ | ⟨item, waiting⟩
        · rw [hnil]
          exact .refl
        · have hfirst : VisitStep visit inside (result, item :: waiting)
              (visit result item, inside item ++ waiting) := .visit result [] waiting item
          have hrest := ih _ hfirst _ _ rfl
          have hsame : final result (item :: waiting) =
              final (visit result item) (inside item ++ waiting) := hstep result [] item waiting
          rw [hsame]
          exact .head hfirst hrest

end

namespace Grid

/-- The size of several grids is the sum of their sizes. -/
theorem totalSize_eq_sum (grids : List Grid) : totalSize grids = (grids.map sizeOf).sum := by
  induction grids with
  | nil => rfl
  | cons grid grids ih => rw [totalSize_cons, ih, List.map_cons, List.sum_cons]

/-! ### Depth -/

/-- Visiting a grid for the greatest level: a grid without rows does not count. -/
def visitDepth (deepest : Nat) (item : Grid × Nat) : Nat :=
  if item.1.isEmpty then deepest else max deepest item.2

/-- The grids in the cells of a grid, one level deeper. -/
def nestedBelow (item : Grid × Nat) : List (Grid × Nat) :=
  item.1.nested.map (·, item.2 + 1)

/-- A grid without rows holds no grids. -/
theorem nested_of_isEmpty {grid : Grid} (h : grid.isEmpty) : grid.nested = [] := by
  have hrows : grid.rows = [] := List.isEmpty_iff.mp h
  simp [nested, cells, hrows]

/-- The first of the waiting grids is visited like any other. -/
theorem deepestFrom_cons (deepest : Nat) (item : Grid × Nat) (pending : List (Grid × Nat)) :
    deepestFrom deepest (item :: pending) =
      deepestFrom (visitDepth deepest item) (nestedBelow item ++ pending) := by
  obtain ⟨grid, level⟩ := item
  by_cases hempty : grid.isEmpty
  · rw [deepestFrom_cons_of_isEmpty hempty, visitDepth, if_pos hempty, nestedBelow,
      nested_of_isEmpty hempty]
    rfl
  · rw [deepestFrom_cons_of_not_isEmpty hempty, visitDepth, if_neg hempty]
    rfl

/-- What a grid shows may be added before others are visited or afterwards. -/
theorem deepestFrom_visitDepth (deepest : Nat) (item : Grid × Nat) (pending : List (Grid × Nat)) :
    deepestFrom (visitDepth deepest item) pending =
      visitDepth (deepestFrom deepest pending) item := by
  unfold visitDepth
  split
  · rfl
  · rw [Nat.max_comm, deepestFrom_max, Nat.max_comm]

/-- Whichever grid is visited next, the greatest level is the same in the end. -/
theorem deepestFrom_step (deepest : Nat) (before : List (Grid × Nat)) (item : Grid × Nat)
    (after : List (Grid × Nat)) :
    deepestFrom deepest (before ++ item :: after) =
      deepestFrom (visitDepth deepest item) (before ++ nestedBelow item ++ after) := by
  rw [deepestFrom_append, deepestFrom_cons, List.append_assoc, deepestFrom_append _ before,
    deepestFrom_visitDepth deepest item before]

/-! ### Number of cells -/

/-- With nothing left to visit, the cells counted so far are all. -/
@[simp] theorem cellCountFrom_nil (count : Nat) : cellCountFrom count [] = count := by
  rw [cellCountFrom]

/-- A grid adds its own cells, and the grids that it holds are to be visited. -/
theorem cellCountFrom_cons (count : Nat) (grid : Grid) (pending : List Grid) :
    cellCountFrom count (grid :: pending) =
      cellCountFrom (count + grid.cells.length) (grid.nested ++ pending) := by
  rw [cellCountFrom]

/-- The cells counted so far may be added at the end. -/
theorem cellCountFrom_add (more count : Nat) (pending : List Grid) :
    cellCountFrom (more + count) pending = more + cellCountFrom count pending := by
  fun_induction cellCountFrom count pending with
  | case1 count => rw [cellCountFrom_nil]
  | case2 count grid pending ih => rw [cellCountFrom_cons, Nat.add_assoc, ih]

/-- What is to be visited can be worked off piece by piece. -/
theorem cellCountFrom_append (count : Nat) (pending more : List Grid) :
    cellCountFrom count (pending ++ more) = cellCountFrom (cellCountFrom count pending) more := by
  fun_induction cellCountFrom count pending with
  | case1 count => rfl
  | case2 count grid pending ih =>
      rw [List.cons_append, cellCountFrom_cons, ← List.append_assoc, ih]

/-- Grids to be visited contribute their numbers of cells. -/
theorem cellCountFrom_eq (count : Nat) (pending : List Grid) :
    cellCountFrom count pending = count + (pending.map cellCount).sum := by
  induction pending generalizing count with
  | nil => rw [cellCountFrom_nil]; rfl
  | cons grid pending ih =>
      have hgrid : cellCountFrom count [grid] = count + grid.cellCount :=
        cellCountFrom_add count 0 [grid]
      rw [← List.singleton_append, cellCountFrom_append, hgrid, ih, List.map_append,
        List.sum_append, List.map_singleton, List.sum_singleton, Nat.add_assoc]

/-- Visiting a grid for its cells. -/
def visitCells (count : Nat) (grid : Grid) : Nat :=
  count + grid.cells.length

/-- Whichever grid is visited next, the number of cells is the same in the end. -/
theorem cellCountFrom_step (count : Nat) (before : List Grid) (grid : Grid) (after : List Grid) :
    cellCountFrom count (before ++ grid :: after) =
      cellCountFrom (visitCells count grid) (before ++ grid.nested ++ after) := by
  have hlater : cellCountFrom (visitCells count grid) before =
      cellCountFrom count before + grid.cells.length := by
    rw [visitCells, Nat.add_comm, cellCountFrom_add, Nat.add_comm]
  rw [cellCountFrom_append, cellCountFrom_cons, List.append_assoc, cellCountFrom_append _ before,
    hlater]

/-! ### The recursion over the tree -/

/-- A grid without rows has depth 0, and any other is one deeper than the deepest in its cells. -/
theorem depth_eq (grid : Grid) :
    grid.depth = if grid.rows = [] then 0 else 1 + (grid.nested.map depth).foldr max 0 := by
  split
  · next h => exact depth_of_isEmpty (List.isEmpty_iff.mpr h)
  · next h =>
      rw [depth_of_not_isEmpty (mt List.isEmpty_iff.mp h), Nat.add_comm]
      rfl

/-- The cells of a grid are its own and those of the grids in them. -/
theorem cellCount_eq (grid : Grid) :
    grid.cellCount = grid.cells.length + (grid.nested.map cellCount).sum := by
  rw [cellCount, cellCountFrom_cons, Nat.zero_add, List.append_nil, cellCountFrom_eq]

/-- Only a grid without rows has depth 0. -/
theorem depth_eq_zero_iff {grid : Grid} : grid.depth = 0 ↔ grid.rows = [] := by
  rw [depth_eq]
  split
  · next h => exact iff_of_true rfl h
  · next h => exact iff_of_false (by omega) h

/-- A grid counts the cells of each grid that it holds, and the cell that holds it. -/
theorem Holds.cellCount_lt {outer inner : Grid} (h : outer.Holds inner) :
    inner.cellCount < outer.cellCount := by
  obtain ⟨cell, hcell, -⟩ := List.mem_filterMap.mp h
  have hcells : 0 < outer.cells.length := List.length_pos_of_mem hcell
  have hinner : inner.cellCount ≤ (outer.nested.map cellCount).sum :=
    List.le_sum_of_mem (List.mem_map_of_mem h)
  rw [cellCount_eq outer]
  omega

/-- A grid is one deeper at most than it has cells. -/
theorem depth_le_cellCount_add_one (grid : Grid) : grid.depth ≤ grid.cellCount + 1 := by
  induction grid using nested_induction with
  | step grid ih =>
      rw [depth_eq]
      split
      · exact Nat.zero_le _
      · have hmax : (grid.nested.map depth).foldr max 0 ≤ grid.cellCount := by
          refine foldr_max_le_iff.mpr (List.forall_mem_map.mpr ?_)
          intro inner hinner
          exact Nat.le_trans (ih inner hinner) (Holds.cellCount_lt hinner)
        omega

/-- No row is empty, in the grid and in all grids inside it. -/
def Filled (grid : Grid) : Prop :=
  grid.Everywhere fun part => ∀ row ∈ part.rows, row.cells ≠ []

/-- Without empty rows, a grid is no deeper than it has cells. -/
theorem Filled.depth_le_cellCount {grid : Grid} (h : grid.Filled) :
    grid.depth ≤ grid.cellCount := by
  induction grid using nested_induction with
  | step grid ih =>
      obtain ⟨hrows, hinside⟩ := everywhere_iff.mp h
      rw [depth_eq]
      split
      · exact Nat.zero_le _
      · next hne =>
          obtain ⟨row, hrow⟩ := List.exists_mem_of_ne_nil grid.rows hne
          obtain ⟨cell, hcell⟩ := List.exists_mem_of_ne_nil row.cells (hrows row hrow)
          have hcells : 0 < grid.cells.length :=
            List.length_pos_of_mem (List.mem_flatMap.mpr ⟨row, hrow, hcell⟩)
          have hpos : 0 < grid.cellCount := by
            rw [cellCount_eq]
            omega
          have hmax : (grid.nested.map depth).foldr max 0 ≤ grid.cellCount - 1 := by
            refine foldr_max_le_iff.mpr (List.forall_mem_map.mpr ?_)
            intro inner hinner
            have hinnerLe := ih inner hinner (hinside inner hinner)
            have hlt := Holds.cellCount_lt hinner
            omega
          omega

/-! ### All of it -/

/-- What the two loops over a tree come to. -/
structure TraversalsAgree (grid : Grid) : Prop where
  /-- Depth is the recursion over the tree. -/
  depth : grid.depth = if grid.rows = [] then 0 else 1 + (grid.nested.map Grid.depth).foldr max 0
  /-- So is the number of cells. -/
  cellCount : grid.cellCount = grid.cells.length + (grid.nested.map Grid.cellCount).sum
  /-- Only a grid without rows has depth 0. -/
  depth_eq_zero : grid.depth = 0 ↔ grid.rows = []
  /-- A grid is one deeper at most than it has cells. -/
  depth_le : grid.depth ≤ grid.cellCount + 1
  /-- If no row is empty, it is no deeper than it has cells. -/
  depth_le_of_filled : grid.Filled → grid.depth ≤ grid.cellCount
  /-- In whatever order grids are visited, depth comes out, and nothing else. -/
  depth_anyOrder : ∀ stop,
    VisitRun visitDepth nestedBelow (0, [(grid, 1)]) (stop, []) ↔ stop = grid.depth
  /-- The same goes for the number of cells. -/
  cellCount_anyOrder : ∀ stop, VisitRun visitCells nested (0, [grid]) (stop, []) ↔
    stop = grid.cellCount

/-- What is inside a grid is smaller than it. -/
theorem sum_nested_lt (grid : Grid) : (grid.nested.map sizeOf).sum < sizeOf grid := by
  rw [← totalSize_eq_sum]
  exact grid.nested_sizeOf_lt

/-- Visiting grids for their levels comes to an end. -/
theorem wellFounded_visitDepth :
    WellFounded fun stop start => VisitStep visitDepth nestedBelow start stop := by
  refine VisitStep.wellFounded (fun item => sizeOf item.1) ?_
  rintro ⟨grid, level⟩
  simpa [nestedBelow, Function.comp_def] using grid.sum_nested_lt

/-- Visiting grids for their cells comes to an end. -/
theorem wellFounded_visitCells :
    WellFounded fun stop start => VisitStep visitCells nested start stop :=
  VisitStep.wellFounded sizeOf sum_nested_lt

/-- **The loops agree with the recursion**, whatever the order of visits, and no order of visits
goes on forever. -/
theorem traversals_agree :
    (WellFounded fun stop start => VisitStep visitDepth nestedBelow start stop) ∧
      (WellFounded fun stop start => VisitStep visitCells nested start stop) ∧
      ∀ grid : Grid, grid.TraversalsAgree := by
  refine ⟨wellFounded_visitDepth, wellFounded_visitCells, ?_⟩
  intro grid
  exact {
    depth := grid.depth_eq
    cellCount := grid.cellCount_eq
    depth_eq_zero := depth_eq_zero_iff
    depth_le := grid.depth_le_cellCount_add_one
    depth_le_of_filled := Filled.depth_le_cellCount
    depth_anyOrder := fun stop =>
      visitRun_iff wellFounded_visitDepth deepestFrom_nil deepestFrom_step 0 stop _
    cellCount_anyOrder := fun stop =>
      visitRun_iff wellFounded_visitCells cellCountFrom_nil cellCountFrom_step 0 stop _ }

/-- A cell with an empty grid, and next to it one with a grid of one cell. -/
def twoInside : Grid :=
  ⟨[⟨1, [⟨1, none, some ⟨[]⟩⟩, ⟨2, none, some ⟨[⟨1, [⟨1, none, none⟩]⟩]⟩⟩]⟩]⟩

/-- A grid with nothing but an empty row is one deeper than it has cells. Where rows have cells,
also those of the grids inside, a grid is not. -/
theorem traversals_agree_twoInside :
    (⟨[⟨1, []⟩]⟩ : Grid).depth = (⟨[⟨1, []⟩]⟩ : Grid).cellCount + 1 ∧
      twoInside.Filled ∧ twoInside.depth ≤ twoInside.cellCount := by
  have hbare := traversals_agree.2.2 ⟨[⟨1, []⟩]⟩
  have hempty : Filled ⟨[]⟩ := by
    refine everywhere_iff.mpr ⟨by simp, ?_⟩
    exact fun inner hinner => absurd hinner List.not_mem_nil
  have hone : Filled ⟨[⟨1, [⟨1, none, none⟩]⟩]⟩ := by
    refine everywhere_iff.mpr ⟨by simp, ?_⟩
    exact fun inner hinner => absurd hinner List.not_mem_nil
  have htwo : twoInside.Filled := by
    refine everywhere_iff.mpr ⟨by simp [twoInside], List.forall_mem_cons.mpr ⟨hempty, ?_⟩⟩
    exact List.forall_mem_singleton.mpr hone
  refine ⟨?_, htwo, (traversals_agree.2.2 twoInside).depth_le_of_filled htwo⟩
  rw [hbare.depth, hbare.cellCount]
  rfl

end Grid

end Slab
