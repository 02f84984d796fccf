import Mathlib.Logic.Relation
import Slab.Grid

/-!
# Grids as trees

`Grid.Holds` relates a grid to those in its own cells. `Grid.Everywhere P` says that `P` is true
of a grid and of all grids inside it, at any depth, and `Grid.Inside P` that it is true of those
inside; `everywhere_iff` and `inside_iff` unfold them by one level. `nested_induction` is the
induction over the tree.
-/

namespace Slab

namespace Grid

/-- A cell of the outer grid holds the inner one. -/
def Holds (outer inner : Grid) : Prop :=
  inner ∈ outer.nested

/-- A grid in a cell of another is smaller. -/
theorem Holds.sizeOf_lt {outer inner : Grid} (h : outer.Holds inner) :
    sizeOf inner < sizeOf outer := by
  refine Nat.lt_of_le_of_lt ?_ outer.nested_sizeOf_lt
  obtain ⟨before, after, hsplit⟩ := List.append_of_mem h
  rw [hsplit, totalSize_append, totalSize_cons]
  omega

/-- Induction over a tree: from the grids in the cells of a grid to the grid. -/
@[elab_as_elim]
theorem nested_induction {motive : Grid → Prop}
    (step : ∀ grid : Grid, (∀ inner, grid.Holds inner → motive inner) → motive grid)
    (grid : Grid) : motive grid := by
  induction hn : sizeOf grid using Nat.strongRecOn generalizing grid with
  | ind n ih =>
      subst hn
      apply step
      intro inner hinner
      exact ih (sizeOf inner) hinner.sizeOf_lt inner rfl

/-- A grid is held if a cell of a row is what holds it. -/
theorem holds_iff {outer inner : Grid} :
    outer.Holds inner ↔ ∃ row ∈ outer.rows, ∃ cell ∈ row.cells, cell.nested = some inner := by
  simp only [Holds, nested, cells, List.mem_filterMap, List.mem_flatMap]
  constructor
  · rintro ⟨cell, ⟨row, hrow, hcell⟩, hinner⟩
    exact ⟨row, hrow, cell, hcell, hinner⟩
  · rintro ⟨row, hrow, cell, hcell, hinner⟩
    exact ⟨cell, ⟨row, hrow, hcell⟩, hinner⟩

/-- The cells of a grid are those of its rows. -/
theorem forall_cells_iff {P : Cell → Prop} {grid : Grid} :
    (∀ cell ∈ grid.cells, P cell) ↔ ∀ row ∈ grid.rows, ∀ cell ∈ row.cells, P cell :=
  List.forall_mem_flatMap

/-- Something is true of a grid and of all grids inside it, at any depth. -/
def Everywhere (P : Grid → Prop) (grid : Grid) : Prop :=
  ∀ part, Relation.ReflTransGen Holds grid part → P part

/-- Something is true of all grids inside a grid, at any depth. -/
def Inside (P : Grid → Prop) (grid : Grid) : Prop :=
  ∀ part, Relation.TransGen Holds grid part → P part

variable {P : Grid → Prop} {grid : Grid}

/-- The grids inside a grid are those in its cells and all inside them. -/
theorem inside_iff : grid.Inside P ↔ ∀ inner, grid.Holds inner → inner.Everywhere P := by
  constructor
  · intro h inner hinner part hpart
    exact h part (Relation.TransGen.head' hinner hpart)
  · intro h part hpart
    obtain ⟨inner, hinner, hrest⟩ := Relation.TransGen.head'_iff.mp hpart
    exact h inner hinner part hrest

/-- Everywhere means in the grid itself and in those inside it. -/
theorem everywhere_iff_inside : grid.Everywhere P ↔ P grid ∧ grid.Inside P := by
  constructor
  · intro h
    exact ⟨h grid .refl, fun part hpart => h part hpart.to_reflTransGen⟩
  · rintro ⟨hgrid, hinside⟩ part hpart
    rcases Relation.reflTransGen_iff_eq_or_transGen.mp hpart with rfl | hpart
    · exact hgrid
    · exact hinside part hpart

/-- Everywhere means in the grid itself and everywhere in those in its cells. -/
theorem everywhere_iff :
    grid.Everywhere P ↔ P grid ∧ ∀ inner, grid.Holds inner → inner.Everywhere P := by
  rw [everywhere_iff_inside, inside_iff]

end Grid

end Slab
