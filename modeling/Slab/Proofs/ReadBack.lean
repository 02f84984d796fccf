import Slab.Proofs.Brackets
import Slab.Proofs.Weights

/-!
# Grids are read back

The reader of grids gives back every grid whose weights fit 32 bits from its text in any layout, if
the brackets of the text are within what the reader still allows, and otherwise calls the text
malformed (`gives_gridText`). The induction is over the tree: cells from the grids that they hold,
rows from cells, the grid from its rows.
-/

namespace Slab

namespace Json

open Reader

namespace Layout

variable {layout : Layout} {n : Nat}

/-! ### Cells -/

section

variable {nested : Option Grid} {level : Nat}

/-- The member for the grid that a cell holds tells that grid, and no member that there is none. -/
theorem fieldsGive_nestedMember (width : Nat) (color : Option Color)
    (h : ∀ inner, nested = some inner →
      (gridReader n).Gives (layout.gridText level inner) inner (inner.nesting ≤ n)) :
    FieldsGive layout (CellFields.read (gridReader n)) ⟨some width, color.map some, none⟩
      (layout.nestedMember level nested) ⟨some width, color.map some, nested.map some⟩
      (∀ inner, nested = some inner → inner.nesting ≤ n) := by
  rcases nested with _ | inner
  · rw [nestedMember]
    apply (FieldsGive.nil _).congr
    simp
  · have hfront : ∃ tail, layout.gridText level inner = '[' :: tail := by
      obtain ⟨rows⟩ := inner
      rw [gridText]
      rcases layout.rowTexts (level + 1) rows with _ | ⟨text, texts⟩
      · exact ⟨_, rfl⟩
      · exact ⟨_, rfl⟩
    obtain ⟨tail, htail⟩ := hfront
    have hgrid := h inner rfl
    rw [nestedMember, htail]
    rw [htail] at hgrid
    have hvalue := (hgrid.nullable (by decide) (by decide)).map fun value =>
      ({ width := some width, color := color.map some, nested := some value } : CellFields)
    refine (FieldsGive.cons (by decide) ?_ hvalue (FieldsGive.nil _)).congr ?_
    · rfl
    · simp

/-- The members of a cell tell the cell. -/
theorem fieldsGive_cell {width : Nat} (color : Option Color) (hwidth : width < 2 ^ 32)
    (h : ∀ inner, nested = some inner →
      (gridReader n).Gives (layout.gridText level inner) inner (inner.nesting ≤ n)) :
    FieldsGive layout (CellFields.read (gridReader n)) {}
      (layout.member "width" (decimal width) ::
        (layout.colorMember color ++ layout.nestedMember level nested))
      ⟨some width, color.map some, nested.map some⟩
      (∀ inner, nested = some inner → inner.nesting ≤ n) := by
  have hmore : FieldsGive layout (CellFields.read (gridReader n)) ⟨some width, none, none⟩
      (layout.colorMember color ++ layout.nestedMember level nested)
      ⟨some width, color.map some, nested.map some⟩
      (∀ inner, nested = some inner → inner.nesting ≤ n) := by
    have hnested := fieldsGive_nestedMember width color h
    rcases color with _ | color
    · exact hnested
    · have hvalue := ((gives_color color).nullable (by decide) (by decide)).map fun value =>
        ({ width := some width, color := some value } : CellFields)
      refine (FieldsGive.cons (by decide) ?_ hvalue hnested).congr ?_
      · rfl
      · simp
  have hvalue := (gives_weight hwidth).map fun value =>
    ({ width := some value } : CellFields)
  refine (FieldsGive.cons (by decide) ?_ hvalue hmore).congr ?_
  · rfl
  · simp

/-- A cell is given back. -/
theorem gives_cell (hlayout : layout.Blanks) {width : Nat} (color : Option Color)
    (hwidth : width < 2 ^ 32)
    (h : ∀ n, ∀ inner, nested = some inner →
      (gridReader n).Gives (layout.gridText (level + 1) inner) inner (inner.nesting ≤ n)) (n : Nat) :
    (cellReader n).Gives
      (layout.block level '\x7b' '\x7d' (layout.member "width" (decimal width) ::
        (layout.colorMember color ++ layout.nestedMember (level + 1) nested)))
      ⟨width, color, nested⟩ ((⟨width, color, nested⟩ : Cell).nesting ≤ n) := by
  rcases n with _ | n
  · rw [cellReader, cellOf]
    apply (gives_record_none .cell _ _).congr
    have hbrace := (⟨width, color, nested⟩ : Cell).one_le_nesting
    exact iff_of_false id (by omega)
  · rw [cellReader, cellOf]
    have hcell : CellFields.toCell ⟨some width, color.map some, nested.map some⟩ =
        .ok ⟨width, color, nested⟩ := by
      cases color <;> cases nested <;> rfl
    have hnesting : (⟨width, color, nested⟩ : Cell).nesting ≤ n + 1 ↔
        ∀ inner, nested = some inner → inner.nesting ≤ n := Cell.nesting_le_iff
    refine (gives_record hlayout (fieldsGive_cell color hwidth (h n)) (by simp) hcell ?_).congr
      hnesting.symm
    intro text
    unfold cellInObject
    rcases members (CellFields.read (gridReader n)) {} text with fault | ⟨known, rest⟩
    · rfl
    · rfl

end

/-- The texts of cells are objects. -/
theorem head?_of_mem_cellTexts {cells : List Cell} {level : Nat} {text : List Char}
    (h : text ∈ layout.cellTexts level cells) : text.head? = some '\x7b' := by
  induction cells with
  | nil => cases h
  | cons cell cells ih =>
      obtain ⟨width, color, nested⟩ := cell
      rw [cellTexts] at h
      rcases List.mem_cons.mp h with rfl | h
      · rfl
      · exact ih h

/-- The texts of cells are given back, if those of the grids that they hold are. -/
theorem gives_cellTexts (hlayout : layout.Blanks) {cells : List Cell}
    (hwidths : ∀ cell ∈ cells, cell.width < 2 ^ 32)
    (h : ∀ cell ∈ cells, ∀ inner, cell.nested = some inner → ∀ level n,
      (gridReader n).Gives (layout.gridText level inner) inner (inner.nesting ≤ n)) (level : Nat) :
    List.Forall₂ (fun text cell => (cellReader n).Gives text cell (cell.nesting ≤ n))
      (layout.cellTexts level cells) cells := by
  induction cells with
  | nil => exact .nil
  | cons cell cells ih =>
      obtain ⟨hwidth, hmore⟩ := List.forall_mem_cons.mp hwidths
      obtain ⟨hcell, hcells⟩ := List.forall_mem_cons.mp h
      obtain ⟨width, color, nested⟩ := cell
      rw [cellTexts]
      exact .cons (gives_cell hlayout color hwidth (fun n inner hinner => hcell inner hinner _ n) n)
        (ih hmore hcells)

/-! ### Rows -/

/-- The cells of a row are given back together. -/
theorem gives_cells (hlayout : layout.Blanks) {row : Row}
    (hwidths : ∀ cell ∈ row.cells, cell.width < 2 ^ 32)
    (h : ∀ cell ∈ row.cells, ∀ inner, cell.nested = some inner → ∀ level n,
      (gridReader n).Gives (layout.gridText level inner) inner (inner.nesting ≤ n))
    (level n : Nat) :
    (cellsReader n).Gives (layout.block level '[' ']' (layout.cellTexts (level + 1) row.cells))
      row.cells (row.nesting ≤ n + 1) := by
  rcases n with _ | n
  · rw [cellsReader]
    apply (gives_array_none _ _).congr
    have hbrace := row.two_le_nesting
    exact iff_of_false id (by omega)
  · rw [cellsReader]
    exact (gives_array hlayout (gives_cellTexts hlayout hwidths h (level + 1))
      (fun text htext => head?_of_mem_cellTexts htext)).congr Row.nesting_le_iff.symm

/-- A row is given back, if the grids that its cells hold are. -/
theorem gives_row (hlayout : layout.Blanks) {row : Row} (hheight : row.height < 2 ^ 32)
    (hwidths : ∀ cell ∈ row.cells, cell.width < 2 ^ 32)
    (h : ∀ cell ∈ row.cells, ∀ inner, cell.nested = some inner → ∀ level n,
      (gridReader n).Gives (layout.gridText level inner) inner (inner.nesting ≤ n))
    (level n : Nat) :
    (rowReader n).Gives
      (layout.block level '\x7b' '\x7d' [layout.member "height" (decimal row.height),
        layout.member "cells"
          (layout.block (level + 1) '[' ']' (layout.cellTexts (level + 2) row.cells))])
      row (row.nesting ≤ n) := by
  rcases n with _ | n
  · rw [rowReader, rowOf]
    apply (gives_record_none .row _ _).congr
    have hbrace := row.two_le_nesting
    exact iff_of_false id (by omega)
  · rw [rowReader, rowOf]
    have hcells := (gives_cells hlayout hwidths h (level + 1) n).map fun value =>
      ({ height := some row.height, cells := some value } : RowFields)
    have hvalue := (gives_weight hheight).map fun value => ({ height := some value } : RowFields)
    have hfields : FieldsGive layout (RowFields.read (cellsReader n)) {}
        [layout.member "height" (decimal row.height), layout.member "cells"
          (layout.block (level + 1) '[' ']' (layout.cellTexts (level + 2) row.cells))]
        ⟨some row.height, some row.cells⟩ (row.nesting ≤ n + 1) := by
      refine (FieldsGive.cons (by decide) ?_ hvalue
        (FieldsGive.cons (by decide) ?_ hcells (FieldsGive.nil _))).congr ?_
      · rfl
      · rfl
      · simp
    have hrow : RowFields.toRow ⟨some row.height, some row.cells⟩ = .ok row := by
      obtain ⟨height, cells⟩ := row
      rfl
    refine gives_record hlayout hfields (by simp) hrow ?_
    intro text
    unfold rowInObject
    rcases members (RowFields.read (cellsReader n)) {} text with fault | ⟨known, rest⟩
    · rfl
    · rfl

/-- The texts of rows are objects. -/
theorem head?_of_mem_rowTexts {rows : List Row} {level : Nat} {text : List Char}
    (h : text ∈ layout.rowTexts level rows) : text.head? = some '\x7b' := by
  induction rows with
  | nil => cases h
  | cons row rows ih =>
      obtain ⟨height, cells⟩ := row
      rw [rowTexts] at h
      rcases List.mem_cons.mp h with rfl | h
      · rfl
      · exact ih h

/-- The texts of rows are given back, if those of the grids that their cells hold are. -/
theorem gives_rowTexts (hlayout : layout.Blanks) {rows : List Row}
    (hweights : ∀ row ∈ rows, row.height < 2 ^ 32 ∧ ∀ cell ∈ row.cells, cell.width < 2 ^ 32)
    (h : ∀ row ∈ rows, ∀ cell ∈ row.cells, ∀ inner, cell.nested = some inner → ∀ level n,
      (gridReader n).Gives (layout.gridText level inner) inner (inner.nesting ≤ n)) (level : Nat) :
    List.Forall₂ (fun text row => (rowReader n).Gives text row (row.nesting ≤ n))
      (layout.rowTexts level rows) rows := by
  induction rows with
  | nil => exact .nil
  | cons row rows ih =>
      obtain ⟨⟨hheight, hwidths⟩, hmore⟩ := List.forall_mem_cons.mp hweights
      obtain ⟨hrow, hrows⟩ := List.forall_mem_cons.mp h
      obtain ⟨height, cells⟩ := row
      rw [rowTexts]
      exact .cons (gives_row hlayout hheight hwidths hrow level n) (ih hmore hrows)

/-! ### Grids -/

/-- **A grid is given back** from its text in any layout, if the brackets are within what the
reader allows. -/
theorem gives_gridText (hlayout : layout.Blanks) {grid : Grid} (hfits : grid.Fits) :
    ∀ level n, (gridReader n).Gives (layout.gridText level grid) grid (grid.nesting ≤ n) := by
  induction grid using Grid.nested_induction with
  | step grid ih =>
      intro level n
      obtain ⟨hweights, hinside⟩ := Grid.everywhere_iff.mp hfits
      have hnested : ∀ row ∈ grid.rows, ∀ cell ∈ row.cells, ∀ inner, cell.nested = some inner →
          ∀ level n,
            (gridReader n).Gives (layout.gridText level inner) inner (inner.nesting ≤ n) := by
        intro row hrow cell hcell inner hinner
        have hholds : grid.Holds inner := Grid.holds_iff.mpr ⟨row, hrow, cell, hcell, hinner⟩
        exact ih inner hholds (hinside inner hholds)
      obtain ⟨rows⟩ := grid
      rw [gridText]
      rcases n with _ | n
      · rw [gridReader]
        apply ((gives_array_none _ _).map Grid.mk).congr
        have hbracket := (⟨rows⟩ : Grid).one_le_nesting
        exact iff_of_false id (by omega)
      · rw [gridReader]
        exact ((gives_array hlayout (gives_rowTexts hlayout hweights hnested (level + 1))
          (fun text htext => head?_of_mem_rowTexts htext)).map Grid.mk).congr
            Grid.nesting_le_iff.symm

end Layout

end Json

end Slab
