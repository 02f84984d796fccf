import Slab.Proofs.Depth
import Slab.Proofs.Parts
import Slab.Proofs.Soundness

/-!
# How deep brackets nest

`Json.nesting` is the greatest number of arrays and objects that are open at a time in a JSON
text, read off its characters. For the text of a grid, in any layout, it is a recursion over the
tree: one bracket for the grid, two for each row and its cells, one for each cell
(`nests_gridText`). So it is about four times the depth (`four_mul_depth_le_nesting`,
`nesting_le_four_mul_depth`).
-/

namespace Slab

/-! ### Brackets of a text -/

namespace Json

/-- The greatest number of brackets open at a time in the rest of a text, where so many are open
already; brackets in a string do not count. -/
def nestingFrom : Bool → Nat → List Char → Nat
  | _, depth, [] => depth
  | true, depth, '\\' :: _ :: rest => nestingFrom true depth rest
  | true, depth, c :: rest => nestingFrom (c != '"') depth rest
  | false, depth, c :: rest =>
    if c = '"' then nestingFrom true depth rest
    else if c = '[' ∨ c = '\x7b' then nestingFrom false (depth + 1) rest
    else if c = ']' ∨ c = '\x7d' then max depth (nestingFrom false (depth - 1) rest)
    else nestingFrom false depth rest

/-- The greatest number of arrays and objects open at a time in a JSON text. -/
def nesting (text : List Char) : Nat :=
  nestingFrom false 0 text

/-- What is open already counts. -/
theorem le_nestingFrom (quoted : Bool) (depth : Nat) (text : List Char) :
    depth ≤ nestingFrom quoted depth text := by
  fun_induction nestingFrom quoted depth text with
  | case1 => exact Nat.le_refl _
  | case2 _ _ _ ih => exact ih
  | case3 _ _ _ _ ih => exact ih
  | case4 _ _ ih => exact ih
  | case5 _ _ _ _ _ ih => omega
  | case6 _ _ _ _ _ _ ih => exact Nat.le_max_left _ _
  | case7 _ _ _ _ _ _ ih => exact ih

/-- A piece of a text closes all brackets that it opens, and has at most so many open at a time. -/
def Nests (piece : List Char) (n : Nat) : Prop :=
  ∀ depth rest, nestingFrom false depth (piece ++ rest) =
    max (depth + n) (nestingFrom false depth rest)

/-- Such a piece by itself. -/
theorem Nests.nesting_eq {piece : List Char} {n : Nat} (h : Nests piece n) : nesting piece = n := by
  have hpiece := h 0 []
  rw [List.append_nil] at hpiece
  unfold nesting
  rw [hpiece, nestingFrom]
  omega

/-- The empty piece opens nothing. -/
theorem nests_nil : Nests [] 0 := by
  intro depth rest
  have hle := le_nestingFrom false depth rest
  rw [List.nil_append]
  omega

/-- One piece after another. -/
theorem Nests.append {piece more : List Char} {n m : Nat} (h : Nests piece n)
    (hmore : Nests more m) : Nests (piece ++ more) (max n m) := by
  intro depth rest
  rw [List.append_assoc, h, hmore]
  omega

/-- The character is no quote and no bracket. -/
def Unbracketed (c : Char) : Prop :=
  c ≠ '"' ∧ c ≠ '[' ∧ c ≠ '\x7b' ∧ c ≠ ']' ∧ c ≠ '\x7d'

instance (c : Char) : Decidable (Unbracketed c) :=
  inferInstanceAs (Decidable (c ≠ '"' ∧ c ≠ '[' ∧ c ≠ '\x7b' ∧ c ≠ ']' ∧ c ≠ '\x7d'))

/-- Characters without brackets and quotes open nothing. -/
theorem nests_of_unbracketed {piece : List Char} (h : ∀ c ∈ piece, Unbracketed c) :
    Nests piece 0 := by
  induction piece with
  | nil => exact nests_nil
  | cons c piece ih =>
      obtain ⟨hquote, hsquare, hcurly, hsquare', hcurly'⟩ := h c List.mem_cons_self
      intro depth rest
      rw [List.cons_append, nestingFrom, if_neg hquote, if_neg (by simp [hsquare, hcurly]),
        if_neg (by simp [hsquare', hcurly'])]
      exact ih (fun other hother => h other (List.mem_cons_of_mem c hother)) depth rest

/-- A character without bracket or quote opens nothing. -/
theorem nests_singleton {c : Char} (h : Unbracketed c) : Nests [c] 0 := by
  apply nests_of_unbracketed
  intro other hother
  rwa [List.mem_singleton.mp hother]

/-- A string opens nothing. -/
theorem nests_string {chars : List Char} (h : PlainText chars) :
    Nests ('"' :: (chars ++ ['"'])) 0 := by
  have hinside : ∀ depth rest, nestingFrom true depth (chars ++ '"' :: rest) =
      nestingFrom false depth rest := by
    intro depth rest
    induction chars with
    | nil =>
        rw [List.nil_append, nestingFrom]
        · rfl
        · simp
    | cons c chars ih =>
        obtain ⟨hquote, hescape, -⟩ := h c List.mem_cons_self
        rw [List.cons_append, nestingFrom]
        · rw [show (c != '"') = true by simpa using hquote]
          exact ih fun other hother => h other (List.mem_cons_of_mem c hother)
        · intro _ _ hc
          exact absurd hc hescape
  intro depth rest
  have hle := le_nestingFrom false depth rest
  rw [List.cons_append, List.append_assoc, nestingFrom, if_pos rfl, List.singleton_append, hinside]
  omega

/-- Brackets around a piece are one more. -/
theorem Nests.bracket {piece : List Char} {n : Nat} (h : Nests piece n) {opening closing : Char}
    (hopening : opening = '[' ∨ opening = '\x7b') (hclosing : closing = ']' ∨ closing = '\x7d') :
    Nests (opening :: (piece ++ [closing])) (n + 1) := by
  intro depth rest
  have hquote : opening ≠ '"' ∧ closing ≠ '"' ∧ ¬(closing = '[' ∨ closing = '\x7b') := by
    rcases hopening with rfl | rfl <;> rcases hclosing with rfl | rfl <;> decide
  rw [List.cons_append, List.append_assoc, nestingFrom, if_neg hquote.1, if_pos hopening, h,
    List.singleton_append, nestingFrom, if_neg hquote.2.1, if_neg hquote.2.2, if_pos hclosing]
  have hle := le_nestingFrom false depth rest
  rw [Nat.add_sub_cancel]
  omega

/-! ### Brackets of a layout -/

section

variable {layout : Layout} {n : Nat}

/-- Blanks open nothing. -/
theorem Blank.nests {gap : List Char} (h : Blank gap) : Nests gap 0 := by
  apply nests_of_unbracketed
  intro c hc
  have hblank : isBlank c := h c hc
  simp only [isBlank, Bool.or_eq_true, beq_iff_eq] at hblank
  rcases hblank with ((rfl | rfl) | rfl) | rfl <;> decide

/-- Digits open nothing. -/
theorem nests_decimal (m : Nat) : Nests (decimal m) 0 := by
  apply nests_of_unbracketed
  intro c hc
  have hdigit := isDigit_of_mem_decimal hc
  unfold Unbracketed
  refine ⟨?_, ?_, ?_, ?_, ?_⟩ <;>
    · rintro rfl
      exact absurd hdigit (by decide)

/-- A member opens what its value opens. -/
theorem Nests.member {value : List Char} (h : Nests value n) (hlayout : layout.Blanks)
    {key : String} (hkey : PlainText key.toList) : Nests (layout.member key value) n := by
  obtain ⟨blanks, hblanks, hcolon⟩ := hlayout.colon
  have hsplit : layout.member key value =
      ('"' :: (key.toList ++ ['"'])) ++ ([':'] ++ (blanks ++ value)) := by
    simp [Layout.member, hcolon]
  have hpoint : Nests [':'] 0 := nests_singleton (by decide)
  rw [hsplit]
  have hall := (nests_string hkey).append (hpoint.append (hblanks.nests.append h))
  rwa [Nat.zero_max, Nat.zero_max, Nat.zero_max] at hall

/-- Further items open what one of them opens. -/
theorem nests_tail (h : layout.Blanks) (level : Nat) {texts : List (List Char)} {ns : List Nat}
    (hitems : List.Forall₂ Nests texts ns) : Nests (layout.tail level texts) (ns.foldr max 0) := by
  induction hitems with
  | nil => exact nests_nil
  | @cons text n texts ns hitem hitems ih =>
      have hcomma : Nests [','] 0 := nests_singleton (by decide)
      have hall := hcomma.append (((h.gap (level + 1)).nests.append hitem).append ih)
      rw [Nat.zero_max, Nat.zero_max] at hall
      simpa [Layout.tail] using hall

/-- Items between brackets. -/
theorem nests_block (h : layout.Blanks) (level : Nat) {opening closing : Char}
    (hopening : opening = '[' ∨ opening = '\x7b') (hclosing : closing = ']' ∨ closing = '\x7d')
    {texts : List (List Char)} {ns : List Nat} (hitems : List.Forall₂ Nests texts ns) :
    Nests (layout.block level opening closing texts) (ns.foldr max 0 + 1) := by
  rcases hitems with _ | ⟨hitem, hitems⟩
  · exact nests_nil.bracket hopening hclosing
  · have hinside := (((h.gap (level + 1)).nests.append hitem).append
      (nests_tail h level hitems)).append (h.gap level).nests
    have hall := hinside.bracket hopening hclosing
    rw [Nat.zero_max, Nat.max_zero] at hall
    exact hall

end

end Json

/-! ### Brackets of a tree -/

mutual

/-- The greatest number of brackets open at a time in the text of a grid. -/
def Grid.nesting : Grid → Nat
  | ⟨rows⟩ => rowsNesting rows + 1

/-- The greatest number of brackets open at a time in the texts of some rows. -/
def rowsNesting : List Row → Nat
  | [] => 0
  | ⟨_, cells⟩ :: rows => max (cellsNesting cells + 2) (rowsNesting rows)

/-- The greatest number of brackets open at a time in the texts of some cells. -/
def cellsNesting : List Cell → Nat
  | [] => 0
  | ⟨_, _, nested⟩ :: cells => max (nestedNesting nested + 1) (cellsNesting cells)

/-- The greatest number of brackets open at a time in the text of the grid that a cell holds. -/
def nestedNesting : Option Grid → Nat
  | none => 0
  | some grid => grid.nesting

end

/-- The greatest number of brackets open at a time in the text of a row. -/
def Row.nesting (row : Row) : Nat :=
  cellsNesting row.cells + 2

/-- The greatest number of brackets open at a time in the text of a cell. -/
def Cell.nesting (cell : Cell) : Nat :=
  nestedNesting cell.nested + 1

/-- A grid has one bracket more than its rows. -/
theorem Grid.nesting_eq (grid : Grid) :
    grid.nesting = (grid.rows.map Row.nesting).foldr max 0 + 1 := by
  obtain ⟨rows⟩ := grid
  rw [Grid.nesting]
  induction rows with
  | nil => rfl
  | cons row rows ih =>
      obtain ⟨height, cells⟩ := row
      rw [rowsNesting]
      simp only [List.map_cons, List.foldr_cons] at ih ⊢
      rw [← Nat.add_right_cancel ih]
      rfl

/-- A row has two brackets more than its cells. -/
theorem Row.nesting_eq (row : Row) :
    row.nesting = (row.cells.map Cell.nesting).foldr max 0 + 2 := by
  obtain ⟨height, cells⟩ := row
  unfold Row.nesting
  induction cells with
  | nil => rfl
  | cons cell cells ih =>
      obtain ⟨width, color, nested⟩ := cell
      rw [cellsNesting]
      simp only [List.map_cons, List.foldr_cons] at ih ⊢
      rw [← Nat.add_right_cancel ih]
      rfl

/-- The brackets of a grid are within a bound if those of its rows are within one less. -/
theorem Grid.nesting_le_iff {grid : Grid} {n : Nat} :
    grid.nesting ≤ n + 1 ↔ ∀ row ∈ grid.rows, row.nesting ≤ n := by
  rw [grid.nesting_eq, Nat.add_le_add_iff_right, foldr_max_le_iff, List.forall_mem_map]

/-- The brackets of a row are within a bound if those of its cells are within two less. -/
theorem Row.nesting_le_iff {row : Row} {n : Nat} :
    row.nesting ≤ n + 2 ↔ ∀ cell ∈ row.cells, cell.nesting ≤ n := by
  rw [row.nesting_eq, Nat.add_le_add_iff_right, foldr_max_le_iff, List.forall_mem_map]

/-- The brackets of a cell are within a bound if those of its grid are within one less. -/
theorem Cell.nesting_le_iff {cell : Cell} {n : Nat} :
    cell.nesting ≤ n + 1 ↔ ∀ inner, cell.nested = some inner → inner.nesting ≤ n := by
  obtain ⟨width, color, nested⟩ := cell
  unfold Cell.nesting
  rcases nested with _ | inner
  · simp [nestedNesting]
  · simp [nestedNesting]

/-- A row has a bracket less than its grid. -/
theorem Row.nesting_add_one_le {row : Row} {grid : Grid} (h : row ∈ grid.rows) :
    row.nesting + 1 ≤ grid.nesting := by
  rw [grid.nesting_eq, Nat.add_le_add_iff_right]
  exact foldr_max_le_iff.mp (Nat.le_refl _) _ (List.mem_map_of_mem h)

/-- A cell has two brackets less than its row. -/
theorem Cell.nesting_add_two_le {cell : Cell} {row : Row} (h : cell ∈ row.cells) :
    cell.nesting + 2 ≤ row.nesting := by
  rw [row.nesting_eq, Nat.add_le_add_iff_right]
  exact foldr_max_le_iff.mp (Nat.le_refl _) _ (List.mem_map_of_mem h)

/-- A grid has a bracket. -/
theorem Grid.one_le_nesting (grid : Grid) : 1 ≤ grid.nesting := by
  rw [grid.nesting_eq]
  omega

/-- A row has a brace and a bracket. -/
theorem Row.two_le_nesting (row : Row) : 2 ≤ row.nesting := by
  rw [row.nesting_eq]
  omega

/-- A cell has a brace. -/
theorem Cell.one_le_nesting (cell : Cell) : 1 ≤ cell.nesting :=
  Nat.le_add_left 1 _

/-! ### The text of a tree -/

namespace Json.Layout

variable {layout : Layout}

/-- What is known of the texts of nested grids gives the texts of cells. -/
theorem nests_cellTexts (h : layout.Blanks) {cells : List Cell}
    (hnested : ∀ cell ∈ cells, ∀ inner, cell.nested = some inner →
      ∀ level, Nests (layout.gridText level inner) inner.nesting) (level : Nat) :
    List.Forall₂ Nests (layout.cellTexts level cells) (cells.map Cell.nesting) := by
  induction cells with
  | nil => exact .nil
  | cons cell cells ih =>
      obtain ⟨width, color, nested⟩ := cell
      rw [cellTexts]
      refine .cons ?_ (ih fun cell hcell => hnested cell (List.mem_cons_of_mem _ hcell))
      have hinner : ∃ ns, List.Forall₂ Nests (layout.nestedMember (level + 1) nested) ns ∧
          ns.foldr max 0 = nestedNesting nested := by
        rcases nested with _ | inner
        · exact ⟨[], .nil, rfl⟩
        · have hgrid := hnested _ List.mem_cons_self inner rfl (level + 1)
          refine ⟨[inner.nesting], .cons (hgrid.member h (by decide)) .nil, ?_⟩
          simp [nestedNesting]
      have hmore : ∃ ns, List.Forall₂ Nests
          (layout.colorMember color ++ layout.nestedMember (level + 1) nested) ns ∧
            ns.foldr max 0 = nestedNesting nested := by
        obtain ⟨ns, hns, hmax⟩ := hinner
        rcases color with _ | color
        · exact ⟨ns, hns, hmax⟩
        · have hcolor : Nests (colorText color) 0 := nests_string (plainText_chars color)
          refine ⟨0 :: ns, .cons (hcolor.member h (by decide)) hns, ?_⟩
          rw [List.foldr_cons, hmax, Nat.zero_max]
      obtain ⟨ns, hns, hmax⟩ := hmore
      have hwidth := (nests_decimal width).member h (show PlainText "width".toList by decide)
      have hall := nests_block h level (Or.inr rfl) (Or.inr rfl) (.cons hwidth hns)
      rw [List.foldr_cons, hmax, Nat.zero_max] at hall
      exact hall

/-- What is known of the texts of nested grids gives the texts of rows. -/
theorem nests_rowTexts (h : layout.Blanks) {rows : List Row}
    (hnested : ∀ row ∈ rows, ∀ cell ∈ row.cells, ∀ inner, cell.nested = some inner →
      ∀ level, Nests (layout.gridText level inner) inner.nesting) (level : Nat) :
    List.Forall₂ Nests (layout.rowTexts level rows) (rows.map Row.nesting) := by
  induction rows with
  | nil => exact .nil
  | cons row rows ih =>
      obtain ⟨height, cells⟩ := row
      rw [rowTexts]
      refine .cons ?_ (ih fun row hrow => hnested row (List.mem_cons_of_mem _ hrow))
      have hheight := (nests_decimal height).member h (show PlainText "height".toList by decide)
      have hcells := nests_block h (level + 1) (Or.inl rfl) (Or.inl rfl)
        (nests_cellTexts h (hnested _ List.mem_cons_self) (level + 2))
      have hmember := hcells.member h (show PlainText "cells".toList by decide)
      have hall := nests_block h level (Or.inr rfl) (Or.inr rfl)
        (.cons hheight (.cons hmember .nil))
      rw [List.foldr_cons, List.foldr_cons, List.foldr_nil, Nat.zero_max, Nat.max_zero] at hall
      rw [Row.nesting_eq]
      exact hall

/-- The text of a grid, in any layout, opens as many brackets as the tree tells. -/
theorem nests_gridText (h : layout.Blanks) (grid : Grid) :
    ∀ level, Nests (layout.gridText level grid) grid.nesting := by
  induction grid using Grid.nested_induction with
  | step grid ih =>
      intro level
      have hnested : ∀ row ∈ grid.rows, ∀ cell ∈ row.cells, ∀ inner, cell.nested = some inner →
          ∀ level, Nests (layout.gridText level inner) inner.nesting := by
        intro row hrow cell hcell inner hinner
        exact ih inner (Grid.holds_iff.mpr ⟨row, hrow, cell, hcell, hinner⟩)
      have hrows := nests_rowTexts h hnested (level + 1)
      rw [Grid.nesting_eq]
      obtain ⟨rows⟩ := grid
      rw [gridText]
      exact nests_block h level (Or.inl rfl) (Or.inl rfl) hrows

end Json.Layout

/-! ### Brackets and depth -/

namespace Grid

/-- A grid in a cell has four brackets around it. -/
theorem Holds.nesting_add_four_le {outer inner : Grid} (h : outer.Holds inner) :
    inner.nesting + 4 ≤ outer.nesting := by
  obtain ⟨row, hrow, cell, hcell, hinner⟩ := holds_iff.mp h
  have hcellNesting : cell.nesting = inner.nesting + 1 := by
    unfold Cell.nesting
    rw [hinner, nestedNesting]
  have hcellLe := Cell.nesting_add_two_le hcell
  have hrowLe := Row.nesting_add_one_le hrow
  omega

/-- A tree has at most four brackets for each level of depth, and one for a grid without rows at
the bottom. -/
theorem nesting_le_four_mul_depth (grid : Grid) : grid.nesting ≤ 4 * grid.depth + 1 := by
  induction grid using nested_induction with
  | step grid ih =>
      by_cases hempty : grid.isEmpty
      · have hrows : grid.rows = [] := List.isEmpty_iff.mp hempty
        rw [grid.nesting_eq, hrows]
        exact Nat.le_add_left _ _
      · have hdepths := maxDepth_le_iff.mp (Nat.le_refl (maxDepth grid.nested))
        rw [depth_of_not_isEmpty hempty, nesting_le_iff]
        intro row hrow
        rw [Nat.mul_add, show 4 * maxDepth grid.nested + 4 * 1 =
          4 * maxDepth grid.nested + 2 + 2 from rfl, Row.nesting_le_iff]
        intro cell hcell
        rw [Cell.nesting_le_iff]
        intro inner hinner
        have hholds : grid.Holds inner := holds_iff.mpr ⟨row, hrow, cell, hcell, hinner⟩
        have hle := ih inner hholds
        have hdepth := hdepths inner hholds
        omega

/-- Where no row is empty, a tree has at least four brackets for each level of depth. -/
theorem Solid.four_mul_depth_le_nesting {grid : Grid} (h : grid.Solid) :
    4 * grid.depth ≤ grid.nesting := by
  induction grid using nested_induction with
  | step grid ih =>
      by_cases hempty : grid.isEmpty
      · rw [depth_of_isEmpty hempty]
        exact Nat.zero_le _
      · obtain ⟨hrows, hinside⟩ := everywhere_iff.mp h
        have hfour : 4 ≤ grid.nesting := by
          have hsome : grid.rows ≠ [] := fun hnil => hempty (List.isEmpty_iff.mpr hnil)
          obtain ⟨row, hrow⟩ := List.exists_mem_of_ne_nil _ hsome
          obtain ⟨cell, hcell⟩ := List.exists_mem_of_ne_nil _ (hrows row hrow).cells_ne_nil
          have hcellLe := Cell.nesting_add_two_le hcell
          have hrowLe := Row.nesting_add_one_le hrow
          have hbrace := cell.one_le_nesting
          omega
        have hdepth : maxDepth grid.nested ≤ (grid.nesting - 4) / 4 := by
          rw [maxDepth_le_iff]
          intro inner hinner
          have hle := ih inner hinner (hinside inner hinner)
          have hfar := Holds.nesting_add_four_le hinner
          omega
        rw [depth_of_not_isEmpty hempty]
        omega

end Grid

end Slab
