import Mathlib.Algebra.Order.BigOperators.Group.List
import Mathlib.Algebra.Order.Group.Nat
import Slab.Compile
import Slab.Proofs.Drawing
import Slab.Proofs.Soundness

/-!
# Compiled grids cover their rectangle

In a solid grid no row is empty and no weight is 0. So the pieces of its rows tile the lines of a
rectangle, those of the cells of a row its columns, and each point has a cell
(`Grid.exists_cellAt?`), however many rows and cells there are. A grid inside may leave points out,
but these have the colour of the cell around it. Compiled grids are solid: **`compile_covers`** says
that drawing one paints its rectangle all over, so that nothing shows through of what was there.
-/

namespace Slab

namespace Grid

variable {grid : Grid} {rect : Rect} {x y : Nat}

/-- Weights that are not 0 do not add up to 0. -/
theorem sum_weights_pos {α : Type} {items : List α} {weight : α → Nat} (hne : items ≠ [])
    (h : ∀ item ∈ items, 1 ≤ weight item) : 0 < (items.map weight).sum := by
  apply List.sum_pos
  · rwa [List.forall_mem_map]
  · rwa [ne_eq, List.map_eq_nil_iff]

/-- Every point of the rectangle has a cell, if the grid has rows and they are solid. -/
theorem exists_cellAt? (hne : ¬grid.isEmpty) (hsolid : ∀ row ∈ grid.rows, row.Solid)
    (h : rect.Contains x y) : ∃ placement, grid.cellAt? rect x y = some placement := by
  obtain ⟨hcolumns, hlines⟩ := h
  have hrows : 0 < (grid.rows.map (·.height)).sum :=
    sum_weights_pos (by simpa [isEmpty] using hne) fun row hrow => (hsolid row hrow).height_pos
  obtain ⟨row, lines, hrow, hy⟩ := Span.exists_mem_zip_share grid.rows (·.height) hrows hlines
  have hline : row.Solid := hsolid row (List.of_mem_zip hrow).1
  have hcells : 0 < (row.cells.map (·.width)).sum :=
    sum_weights_pos hline.cells_ne_nil hline.width_pos
  obtain ⟨cell, columns, hcell, hx⟩ :=
    Span.exists_mem_zip_share row.cells (·.width) hcells hcolumns
  refine ⟨(cell, Rect.ofSpans columns lines), cellAt?_iff.mpr ⟨?_, hx, hy⟩⟩
  exact mem_areas_iff.mpr ⟨row, lines, hrow, columns, hcell, rfl⟩

/-- A cell of the grid, or of one inside it at any depth, has the colour. -/
def HasColor (grid : Grid) (color : Color) : Prop :=
  ∃ part, Relation.ReflTransGen Holds grid part ∧ ∃ cell ∈ part.cells, cell.color = some color

/-- A colour inside a grid in a cell is one inside the grid. -/
theorem HasColor.of_holds {inner : Grid} {color : Color} (hinner : grid.Holds inner)
    (h : inner.HasColor color) : grid.HasColor color := by
  obtain ⟨part, hpart, hcell⟩ := h
  exact ⟨part, .head hinner hpart, hcell⟩

/-- What is looked up is neutral or the colour of a cell. -/
theorem hasColor_of_lookup {color : Color} (h : grid.lookup rect x y = some color) :
    color = .neutral ∨ grid.HasColor color := by
  induction grid using nested_induction generalizing rect color with
  | step grid ih =>
      rcases hcell : grid.cellAt? rect x y with _ | ⟨cell, area⟩
      · rw [lookup_of_cellAt?_eq_none hcell] at h
        exact nomatch h
      rw [lookup_of_cellAt? hcell, Option.some_inj] at h
      rcases hinside : cell.nested.bind (·.lookup area.inset x y) with _ | found
      · -- the cell itself gives the colour
        rw [hinside, Option.getD_none] at h
        rcases hown : cell.color with _ | own
        · rw [hown, Option.getD_none] at h
          exact Or.inl h.symm
        · rw [hown, Option.getD_some] at h
          exact Or.inr ⟨grid, .refl, cell, mem_cells_of_cellAt? hcell, by rw [hown, h]⟩
      · obtain ⟨inner, hinner, hlookup⟩ := Option.bind_eq_some_iff.mp hinside
        have hholds : grid.Holds inner := holds_of_cellAt? hcell hinner
        rw [hinside, Option.getD_some] at h
        exact (ih inner hholds (h ▸ hlookup)).imp_right (.of_holds hholds)

/-- Every point of the rectangle has a colour, if the grid has rows and they are solid. -/
theorem exists_lookup (hne : ¬grid.isEmpty) (hsolid : ∀ row ∈ grid.rows, row.Solid)
    (h : rect.Contains x y) : ∃ color, grid.lookup rect x y = some color := by
  obtain ⟨⟨cell, area⟩, hcell⟩ := exists_cellAt? hne hsolid h
  exact ⟨_, lookup_of_cellAt? hcell⟩

end Grid

namespace Canvas

variable {width height : Nat} {grid : Grid}

/-- A point of the canvas takes the colour looked up for it, which there is exactly in the
rectangle. -/
theorem get_drawIn_of_solid (hne : ¬grid.isEmpty) (hsolid : grid.Solid)
    (canvas : Canvas width height) (rect : Rect) {x y : Nat} (hx : x < width) (hy : y < height) :
    (canvas.drawIn grid rect).get x y =
      if rect.Contains x y then (grid.lookup rect x y).getD .neutral else canvas.get x y := by
  have hdrawn : (canvas.drawIn grid rect).get x y =
      (grid.lookup rect x y).getD (canvas.get x y) :=
    (drawRun_drawAll canvas [(grid, rect)]).get_eq hx hy
  rw [hdrawn]
  by_cases hpoint : rect.Contains x y
  · obtain ⟨color, hlookup⟩ := Grid.exists_lookup hne (Grid.everywhere_iff.mp hsolid).1 hpoint
    rw [if_pos hpoint, hlookup, Option.getD_some, Option.getD_some]
  · rw [if_neg hpoint]
    rcases hlookup : grid.lookup rect x y with _ | color
    · rfl
    · exact absurd (Grid.contains_of_lookup hlookup) hpoint

end Canvas

/-- **A compiled grid covers its rectangle.** If it has any rows, there is a picture that drawing it
over a rectangle puts in the place of all that was there, on any canvas and as far as that
reaches. Drawing it once more changes nothing, and all colours in the picture are neutral or from
cells of the grid. -/
theorem compile_covers {program : String} {options : CompileOptions}
    (hne : ¬(compile program options).isEmpty) (rect : Rect) :
    let grid := compile program options
    ∃ picture : Nat → Nat → Color,
      (∀ (width height : Nat) (canvas : Canvas width height),
        (∀ x y, x < width → y < height →
          (canvas.drawIn grid rect).get x y =
            if rect.Contains x y then picture x y else canvas.get x y) ∧
        (canvas.drawIn grid rect).drawIn grid rect = canvas.drawIn grid rect) ∧
      ∀ x y, rect.Contains x y →
        picture x y = .neutral ∨ grid.HasColor (picture x y) := by
  intro grid
  have hsolid : grid.Solid := (scan_solid_packed _ _).1
  refine ⟨fun x y => (grid.lookup rect x y).getD .neutral, ?_, ?_⟩
  · intro width height canvas
    have hdrawn : ∀ (canvas : Canvas width height) x y, x < width → y < height →
        (canvas.drawIn grid rect).get x y =
          if rect.Contains x y then (grid.lookup rect x y).getD .neutral else canvas.get x y :=
      fun canvas x y hx hy => canvas.get_drawIn_of_solid hne hsolid rect hx hy
    refine ⟨hdrawn canvas, Canvas.ext_get ?_⟩
    intro x y hx hy
    rw [hdrawn _ x y hx hy, hdrawn canvas x y hx hy]
    split_ifs <;> rfl
  · intro x y hpoint
    obtain ⟨color, hlookup⟩ := Grid.exists_lookup hne (Grid.everywhere_iff.mp hsolid).1 hpoint
    have hpicture : (grid.lookup rect x y).getD .neutral = color := by
      rw [hlookup, Option.getD_some]
    simp only [hpicture]
    exact Grid.hasColor_of_lookup hlookup

/-- Three rows on two lines: one of them gets none, and still nothing shows through. -/
theorem compile_covers_threeRows :
    let grid := compile "iBbSiBBBi" { allowExpansion := false }
    let rect : Rect := ⟨1, 0, 2, 2⟩
    let painted : Canvas 3 2 := (Canvas.blank 3 2).fill ⟨0, 0, 3, 2⟩ ⟨1, 2, 3⟩
    ¬grid.isEmpty ∧
      (painted.drawIn grid rect).get 2 1 = ((Canvas.blank 3 2).drawIn grid rect).get 2 1 ∧
      (painted.drawIn grid rect).get 0 1 = painted.get 0 1 ∧
      (painted.drawIn grid rect).drawIn grid rect = painted.drawIn grid rect ∧
      ((painted.drawIn grid rect).get 2 1 = .neutral ∨
        grid.HasColor ((painted.drawIn grid rect).get 2 1)) := by
  intro grid rect painted
  have hne : ¬(compile "iBbSiBBBi" { allowExpansion := false }).isEmpty := by decide +kernel
  obtain ⟨picture, hdrawn, hcolors⟩ := compile_covers hne rect
  have hinside : rect.Contains 2 1 := by decide
  have houtside : ¬rect.Contains 0 1 := by decide
  have hpainted := (hdrawn 3 2 painted).1 2 1 (by decide) (by decide)
  have hblank := (hdrawn 3 2 (.blank 3 2)).1 2 1 (by decide) (by decide)
  have hleft := (hdrawn 3 2 painted).1 0 1 (by decide) (by decide)
  rw [if_pos hinside] at hpainted hblank
  rw [if_neg houtside] at hleft
  refine ⟨hne, hpainted.trans hblank.symm, hleft, (hdrawn 3 2 painted).2, ?_⟩
  rw [hpainted]
  exact hcolors 2 1 hinside

end Slab
