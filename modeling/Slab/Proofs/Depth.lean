import Slab.Grid

/-!
# Depth as a recursion over the tree

`Grid.depth` visits a tree with a list of what is still to be visited. Here it is a recursion:
a grid without rows has depth 0, and any other is one deeper than the deepest grid that its cells
hold (`depth_of_isEmpty`, `depth_of_not_isEmpty`). What makes the two agree is that the list can be
worked off piece by piece (`deepestFrom_append`), that the greatest level so far can wait
(`deepestFrom_max`), and that one level more for all means one level more in the end
(`deepestFrom_succ`).
-/

namespace Slab

/-- The greatest of some numbers is within a bound if all are. -/
theorem foldr_max_le_iff {ns : List Nat} {n : Nat} : ns.foldr max 0 ≤ n ↔ ∀ m ∈ ns, m ≤ n := by
  induction ns with
  | nil => simp
  | cons m ns ih => rw [List.foldr_cons, Nat.max_le, ih, List.forall_mem_cons]

namespace Grid

/-- With nothing left to visit, the greatest level so far is the answer. -/
@[simp] theorem deepestFrom_nil (deepest : Nat) : deepestFrom deepest [] = deepest := by
  rw [deepestFrom]

/-- A grid without rows is passed over. -/
theorem deepestFrom_cons_of_isEmpty {grid : Grid} (h : grid.isEmpty) (deepest level : Nat)
    (pending : List (Grid × Nat)) :
    deepestFrom deepest ((grid, level) :: pending) = deepestFrom deepest pending := by
  rw [deepestFrom, if_pos h]

/-- A grid with rows counts, and the grids that it holds are to be visited. -/
theorem deepestFrom_cons_of_not_isEmpty {grid : Grid} (h : ¬grid.isEmpty) (deepest level : Nat)
    (pending : List (Grid × Nat)) :
    deepestFrom deepest ((grid, level) :: pending) =
      deepestFrom (max deepest level) (grid.nested.map (·, level + 1) ++ pending) := by
  rw [deepestFrom, if_neg h]

/-- What is to be visited can be worked off piece by piece. -/
theorem deepestFrom_append (deepest : Nat) (pending more : List (Grid × Nat)) :
    deepestFrom deepest (pending ++ more) = deepestFrom (deepestFrom deepest pending) more := by
  fun_induction deepestFrom deepest pending with
  | case1 deepest => rfl
  | case2 deepest grid level pending hempty ih =>
      rw [List.cons_append, deepestFrom_cons_of_isEmpty hempty, ih]
  | case3 deepest grid level pending hempty ih =>
      rw [List.cons_append, deepestFrom_cons_of_not_isEmpty hempty, ← List.append_assoc, ih]

/-- The greatest level so far may be compared at the end. -/
theorem deepestFrom_max (least deepest : Nat) (pending : List (Grid × Nat)) :
    deepestFrom (max least deepest) pending = max least (deepestFrom deepest pending) := by
  fun_induction deepestFrom deepest pending with
  | case1 deepest => simp
  | case2 deepest grid level pending hempty ih =>
      rw [deepestFrom_cons_of_isEmpty hempty, ih]
  | case3 deepest grid level pending hempty ih =>
      rw [deepestFrom_cons_of_not_isEmpty hempty, Nat.max_assoc, ih]

/-- One level more for every grid is one level more in the end. -/
theorem deepestFrom_succ (deepest : Nat) (pending : List (Grid × Nat)) :
    deepestFrom (deepest + 1) (pending.map fun (grid, level) => (grid, level + 1)) =
      deepestFrom deepest pending + 1 := by
  fun_induction deepestFrom deepest pending with
  | case1 deepest => simp
  | case2 deepest grid level pending hempty ih =>
      rw [List.map_cons, deepestFrom_cons_of_isEmpty hempty, ih]
  | case3 deepest grid level pending hempty ih =>
      rw [List.map_cons, deepestFrom_cons_of_not_isEmpty hempty, ← ih, List.map_append,
        List.map_map, Nat.add_max_add_right]
      rfl

/-- The greatest depth among some grids. -/
def maxDepth (grids : List Grid) : Nat :=
  (grids.map depth).foldr max 0

/-- The greatest of some depths is within a bound if all are. -/
theorem maxDepth_le_iff {grids : List Grid} {d : Nat} :
    maxDepth grids ≤ d ↔ ∀ grid ∈ grids, grid.depth ≤ d := by
  unfold maxDepth
  rw [foldr_max_le_iff, List.forall_mem_map]

/-- Grids visited on level 1 contribute their depths. -/
theorem deepestFrom_zero_map_one (grids : List Grid) :
    deepestFrom 0 (grids.map (·, 1)) = maxDepth grids := by
  induction grids with
  | nil => simp [maxDepth]
  | cons grid grids ih =>
      have hsplit := deepestFrom_append 0 [(grid, 1)] (grids.map (·, 1))
      have hdepth : deepestFrom 0 [(grid, 1)] = max grid.depth 0 := by simp [depth]
      rw [hdepth, deepestFrom_max, ih] at hsplit
      exact hsplit

/-- A grid without rows has depth 0. -/
theorem depth_of_isEmpty {grid : Grid} (h : grid.isEmpty) : grid.depth = 0 := by
  rw [depth, deepestFrom_cons_of_isEmpty h, deepestFrom_nil]

/-- A grid with rows is one deeper than the deepest grid that its cells hold. -/
theorem depth_of_not_isEmpty {grid : Grid} (h : ¬grid.isEmpty) :
    grid.depth = maxDepth grid.nested + 1 := by
  have hsucc := deepestFrom_succ 0 (grid.nested.map (·, 1))
  rw [deepestFrom_zero_map_one, List.map_map] at hsucc
  rw [depth, deepestFrom_cons_of_not_isEmpty h, List.append_nil]
  exact hsucc

/-- Grids all of one depth have that depth as their greatest, if there is one at all. -/
theorem maxDepth_of_forall_eq {grids : List Grid} {d : Nat} (hne : grids ≠ [])
    (h : ∀ grid ∈ grids, grid.depth = d) : maxDepth grids = d := by
  induction grids with
  | nil => exact absurd rfl hne
  | cons grid grids ih =>
      have hgrid : grid.depth = d := h grid List.mem_cons_self
      have hcons : maxDepth (grid :: grids) = max grid.depth (maxDepth grids) := rfl
      rw [hcons, hgrid]
      rcases grids with _ | ⟨next, grids⟩
      · simp [maxDepth]
      · rw [ih (by simp) fun other hother => h other (List.mem_cons_of_mem _ hother)]
        exact Nat.max_self d

end Grid

end Slab
