import Mathlib.Logic.Relation
import Slab.Proofs.Lookup

/-!
# Drawing is looking up points

`Canvas.DrawStep` draws one of the waiting grids, whichever it is, and `Canvas.drawAll` is one way
to take such steps until no grid waits. `Canvas.Awaits` is what a step keeps: the colour a point is
to have is the one looked up in a waiting grid or, if there is none, the one it has. A step keeps it
because the cells of a grid do not share points and a nested grid stays in its cell. So all ways to
draw a grid end in the same canvas, the one that looking up its points gives (`drawIn_eq_lookup`).
-/

namespace Slab

namespace Grid

variable {grid : Grid} {rect : Rect} {x y : Nat}

/-- The cell of a point is found from either end. -/
theorem find?_placed (grid : Grid) (rect : Rect) (x y : Nat) :
    (grid.placed rect).reverse.find? (·.2.Contains x y) = grid.cellAt? rect x y := by
  symm
  cases hfind : (grid.placed rect).reverse.find? (·.2.Contains x y) with
  | none =>
      apply cellAt?_eq_none_iff.mpr
      intro placement hmem hpoint
      have hnot := List.find?_eq_none.mp hfind placement (List.mem_reverse.mpr hmem)
      exact hnot (decide_eq_true hpoint)
  | some placement =>
      obtain ⟨cell, area⟩ := placement
      apply cellAt?_iff_placed.mpr
      refine ⟨List.mem_reverse.mp (List.mem_of_find?_eq_some hfind), ?_⟩
      simpa using List.find?_some hfind

/-- The grids in the cells of a grid, with the rectangles they are laid out over, as they join
the waiting ones. -/
def nestedPlacements (grid : Grid) (rect : Rect) : List (Grid × Rect) :=
  (grid.placed rect).reverse.filterMap nestedPlacement?

/-- A nested grid is laid out inside the area of its cell. -/
theorem mem_nestedPlacements_iff {placement : Grid × Rect} :
    placement ∈ grid.nestedPlacements rect ↔
      ∃ cell area, (cell, area) ∈ grid.placed rect ∧
        cell.nested.map (·, area.inset) = some placement := by
  simp only [nestedPlacements, List.mem_filterMap, List.mem_reverse, Prod.exists,
    nestedPlacement?]

/-- What is looked up in a nested grid is what is looked up in the grid around it. -/
theorem lookup_of_mem_nestedPlacements {placement : Grid × Rect} {color : Color}
    (hmem : placement ∈ grid.nestedPlacements rect)
    (h : placement.1.lookup placement.2 x y = some color) : grid.lookup rect x y = some color := by
  obtain ⟨cell, area, hplaced, hnested⟩ := mem_nestedPlacements_iff.mp hmem
  obtain ⟨inner, hinner, rfl⟩ := Option.map_eq_some_iff.mp hnested
  have hpoint : area.Contains x y := Rect.contains_of_inset (contains_of_lookup h)
  rw [lookup_of_cellAt? (cellAt?_iff_placed.mpr ⟨hplaced, hpoint⟩), hinner, Option.bind_some, h,
    Option.getD_some]

/-- Where no nested grid has a colour for a point, its cell has one. -/
theorem lookup_of_forall_nestedPlacements
    (h : ∀ placement ∈ grid.nestedPlacements rect, placement.1.lookup placement.2 x y = none) :
    grid.lookup rect x y =
      (grid.cellAt? rect x y).map fun (cell, _) => cell.color.getD .neutral := by
  cases hcell : grid.cellAt? rect x y with
  | none => exact lookup_of_cellAt?_eq_none hcell
  | some placement =>
      obtain ⟨cell, area⟩ := placement
      rw [lookup_of_cellAt? hcell, Option.map_some]
      cases hinner : cell.nested with
      | none => rfl
      | some inner =>
          have hmem : (inner, area.inset) ∈ grid.nestedPlacements rect := by
            refine mem_nestedPlacements_iff.mpr ⟨cell, area, (cellAt?_iff_placed.mp hcell).1, ?_⟩
            rw [hinner, Option.map_some]
          rw [Option.bind_some, h _ hmem, Option.getD_none]

end Grid

namespace Canvas

variable {width height : Nat}

/-! ### Drawing in any order -/

/-- One of the waiting grids is drawn, and the grids in its cells wait in its place. -/
inductive DrawStep :
    Canvas width height × List (Grid × Rect) → Canvas width height × List (Grid × Rect) → Prop
  /-- Any of the waiting grids may be the one. -/
  | draw (canvas : Canvas width height) (before after : List (Grid × Rect)) (grid : Grid)
      (rect : Rect) :
      DrawStep (canvas, before ++ (grid, rect) :: after)
        (canvas.fillCells (grid.placed rect), before ++ grid.nestedPlacements rect ++ after)

/-- Waiting grids are drawn one after the other. -/
def DrawRun (start stop : Canvas width height × List (Grid × Rect)) : Prop :=
  Relation.ReflTransGen DrawStep start stop

/-- Drawing the latest of the waiting grids first is one of the ways. -/
theorem drawRun_drawAll (canvas : Canvas width height) (waiting : List (Grid × Rect)) :
    DrawRun (canvas, waiting) (canvas.drawAll waiting, []) := by
  fun_induction drawAll canvas waiting with
  | case1 canvas => exact .refl
  | case2 canvas grid rect waiting ih => exact .head (.draw canvas [] waiting grid rect) ih

/-! ### What a step keeps -/

/-- The colour that a point is to have: one looked up in a waiting grid or, if there is none, the
one it has. -/
def Awaits (state : Canvas width height × List (Grid × Rect)) (x y : Nat) (color : Color) : Prop :=
  (∃ placement ∈ state.2, placement.1.lookup placement.2 x y = some color) ∨
    (∀ placement ∈ state.2, placement.1.lookup placement.2 x y = none) ∧ state.1.get x y = color

variable {x y : Nat}

/-- A grid gives a point the colour of its cell. -/
theorem get_fillCells_placed (canvas : Canvas width height) (hx : x < width) (hy : y < height)
    (grid : Grid) (rect : Rect) :
    (canvas.fillCells (grid.placed rect)).get x y =
      ((grid.cellAt? rect x y).map fun (cell, _) => cell.color.getD .neutral).getD
        (canvas.get x y) := by
  rw [get_fillCells canvas hx hy, Grid.find?_placed]
  cases grid.cellAt? rect x y <;> rfl

variable {start stop : Canvas width height × List (Grid × Rect)} {color : Color}

/-- The colour a point is to have after a step is the one it was to have before. -/
theorem DrawStep.awaits (h : DrawStep start stop) (hx : x < width) (hy : y < height)
    (hstop : Awaits stop x y color) : Awaits start x y color := by
  obtain ⟨canvas, before, after, grid, rect⟩ := h
  rcases hstop with ⟨placement, hmem, hlookup⟩ | ⟨hnone, hget⟩
  · left
    rcases List.mem_append.mp hmem with hmem | hafter
    · rcases List.mem_append.mp hmem with hbefore | hnested
      · exact ⟨placement, List.mem_append_left _ hbefore, hlookup⟩
      · refine ⟨(grid, rect), List.mem_append_right _ List.mem_cons_self, ?_⟩
        exact Grid.lookup_of_mem_nestedPlacements hnested hlookup
    · exact ⟨placement, List.mem_append_right _ (List.mem_cons_of_mem _ hafter), hlookup⟩
  · -- no grid that waits now has a colour for the point, so it has the one from the cells or is
    -- as it was
    have hlookup : grid.lookup rect x y =
        (grid.cellAt? rect x y).map fun (cell, _) => cell.color.getD .neutral := by
      apply Grid.lookup_of_forall_nestedPlacements
      intro placement hmem
      exact hnone placement (List.mem_append_left _ (List.mem_append_right _ hmem))
    simp only [get_fillCells_placed canvas hx hy, ← hlookup] at hget
    cases hgrid : grid.lookup rect x y with
    | some found =>
        left
        refine ⟨(grid, rect), List.mem_append_right _ List.mem_cons_self, ?_⟩
        rw [← hget, hgrid, Option.getD_some]
    | none =>
        right
        refine ⟨?_, by rw [← hget, hgrid, Option.getD_none]⟩
        intro placement hmem
        rcases List.mem_append.mp hmem with hbefore | hmem
        · exact hnone placement (List.mem_append_left _ (List.mem_append_left _ hbefore))
        · rcases List.mem_cons.mp hmem with rfl | hafter
          · exact hgrid
          · exact hnone placement (List.mem_append_right _ hafter)

/-- The colour a point is to have stays the same all along. -/
theorem DrawRun.awaits (h : DrawRun start stop) (hx : x < width) (hy : y < height)
    (hstop : Awaits stop x y color) : Awaits start x y color := by
  induction h with
  | refl => exact hstop
  | tail _ hstep ih => exact ih (hstep.awaits hx hy hstop)

/-- However a grid is drawn, a point ends with the colour looked up or else with the one it had. -/
theorem DrawRun.get_eq {canvas final : Canvas width height} {grid : Grid} {rect : Rect}
    (h : DrawRun (canvas, [(grid, rect)]) (final, [])) (hx : x < width) (hy : y < height) :
    final.get x y = (grid.lookup rect x y).getD (canvas.get x y) := by
  have hfinal : Awaits (final, []) x y (final.get x y) := by
    refine Or.inr ⟨?_, rfl⟩
    intro placement hmem
    exact absurd hmem List.not_mem_nil
  rcases h.awaits hx hy hfinal with ⟨placement, hmem, hlookup⟩ | ⟨hnone, hget⟩
  · obtain rfl := List.mem_singleton.mp hmem
    rw [hlookup, Option.getD_some]
  · rw [hnone _ (List.mem_singleton.mpr rfl), Option.getD_none]
    exact hget.symm

/-! ### The drawn canvas -/

/-- Drawing a grid over a rectangle gives each point of the canvas the colour looked up for it and
leaves the others as they were, in particular those outside the rectangle. Whatever the order in
which the nested grids are drawn, the canvas is the same in the end. -/
theorem drawIn_eq_lookup (canvas : Canvas width height) (grid : Grid) (rect : Rect) :
    (∀ x y, x < width → y < height →
        (canvas.drawIn grid rect).get x y = (grid.lookup rect x y).getD (canvas.get x y)) ∧
      (∀ x y, ¬rect.Contains x y → (canvas.drawIn grid rect).get x y = canvas.get x y) ∧
      ∀ final, DrawRun (canvas, [(grid, rect)]) (final, []) ↔ final = canvas.drawIn grid rect := by
  have hrun : DrawRun (canvas, [(grid, rect)]) (canvas.drawIn grid rect, []) :=
    drawRun_drawAll canvas [(grid, rect)]
  refine ⟨?_, ?_, ?_⟩
  · intro x y hx hy
    exact hrun.get_eq hx hy
  · intro x y houtside
    by_cases hpoint : x < width ∧ y < height
    · rw [hrun.get_eq hpoint.1 hpoint.2]
      cases hlookup : grid.lookup rect x y with
      | none => rfl
      | some color => exact absurd (Grid.contains_of_lookup hlookup) houtside
    · rw [get_of_outside _ hpoint, get_of_outside _ hpoint]
  · intro final
    constructor
    · intro hfinal
      apply ext_get
      intro x y hx hy
      rw [hfinal.get_eq hx hy, hrun.get_eq hx hy]
    · rintro rfl
      exact hrun

/-- A pale cell with a grid of one cell in it. -/
def framed : Grid :=
  ⟨[⟨1, [⟨1, some .pale, some ⟨[⟨1, [⟨1, none, none⟩]⟩]⟩⟩]⟩]⟩

/-- Where there is room the outer cell frames the inner one. -/
theorem drawIn_eq_lookup_framed :
    ((blank 5 4).drawIn framed ⟨0, 0, 4, 4⟩).get 0 0 = .pale ∧
      ((blank 5 4).drawIn framed ⟨0, 0, 4, 4⟩).get 2 1 = .neutral ∧
      ((blank 5 4).drawIn framed ⟨0, 0, 4, 4⟩).get 4 1 = .background := by
  obtain ⟨hpoints, houtside, -⟩ := drawIn_eq_lookup (blank 5 4) framed ⟨0, 0, 4, 4⟩
  refine ⟨?_, ?_, ?_⟩
  · rw [hpoints 0 0 (by decide) (by decide), Grid.lookup_of_cellAt? rfl, Option.bind_some,
      Grid.lookup_of_cellAt?_eq_none rfl]
    rfl
  · rw [hpoints 2 1 (by decide) (by decide), Grid.lookup_of_cellAt? rfl, Option.bind_some,
      Grid.lookup_of_cellAt? rfl]
    rfl
  · rw [houtside 4 1 (by decide)]
    rfl

end Canvas

end Slab
