import Slab.Proofs.Moves
import Slab.Proofs.Running

/-!
# Cells stay where they are

Rows and cells are only ever added behind those that a grid has, so a cell of a grid under
construction has a place that it keeps (`Grid.cell?`). A cell that a nested grid was put in
keeps its colour and that grid until growth widens it (`IsSet`): no other unit, and no grid placed
later, does anything to it (`IsSet.take`, `IsSet.hold`).
-/

namespace Slab

/-- The cell of a row and a column, counted from zero. -/
def Grid.cell? (grid : Grid) (row column : Nat) : Option Cell :=
  grid.rows[row]?.bind (·.cells[column]?)

namespace Level

variable {level : Level} {row column : Nat} {cell : Cell}

/-- The newest cell of the row that is open. -/
def newest? (level : Level) : Option Cell :=
  level.currentRow.cells.head?

/-- The place is that of the newest cell. -/
def Newest (level : Level) (row column : Nat) : Prop :=
  row = level.done.length ∧ column + 1 = level.currentRow.cells.length

/-- Growth would widen the cell in that place, and recolour it. -/
def Widens (level : Level) (row column : Nat) : Prop :=
  level.Newest row column ∧ level.pending = 0

/-- The cell is in its place, and a nested grid would not be put into it. -/
structure IsSet (level : Level) (row column : Nat) (cell : Cell) : Prop where
  /-- The cell is in its place. -/
  there : level.finish.cell? row column = some cell
  /-- It is not one that was just grown. -/
  keeps : level.lastMove = .grew → ¬level.Newest row column

/-- Growth writes its colour to the newest cell. -/
theorem color_newest?_grow (level : Level) (color : Option Color) :
    (level.grow color).newest?.map Cell.color = some color := by
  unfold newest?
  rcases level.grow_cases color with ⟨newest, older, hcells, -, hgrow⟩ | ⟨-, hgrow⟩
  · rw [hgrow, currentRow_of_some rfl]
    rfl
  · rw [hgrow, currentRow_of_some rfl]
    rfl

/-- A cell is in a row that is done, or in the current one. -/
theorem cell?_finish (level : Level) (row column : Nat) :
    level.finish.cell? row column =
      if row < level.done.length then level.done.reverse[row]?.bind (·.cells[column]?)
      else if row = level.done.length then level.currentRow.cells.reverse[column]?
      else none := by
  unfold Grid.cell?
  rw [rows_finish_eq_append]
  split
  · rw [List.getElem?_append_left (by simpa)]
  · rw [List.getElem?_append_right (by simp; omega), List.length_reverse]
    rcases level.currentRow_cases with hopen | ⟨hopen, hcurrent⟩
    · rw [hopen]
      split
      · simp [*, OpenRow.close]
      · rw [List.getElem?_eq_none (by simp; omega)]
        rfl
    · rw [hopen, hcurrent]
      simp

/-- The newest cell of an open row is the last cell in it. -/
theorem cell?_finish_of_openRow {current : OpenRow} {older : List Cell}
    (hopen : level.openRow = some current) (hcells : current.cells = cell :: older) :
    level.finish.cell? level.done.length older.length = some cell := by
  rw [cell?_finish, if_neg (Nat.lt_irrefl _), if_pos rfl, currentRow_of_some hopen, hcells]
  simp

/-- The cells of the current row are those of the open one. -/
theorem cells_currentRow_congr {after : Level} (h : after.openRow = level.openRow) :
    after.currentRow.cells = level.currentRow.cells := by
  unfold currentRow
  rw [h]
  rcases level.openRow with _ | current
  · rfl
  · rfl

/-- A cell in the current row is one of its cells. -/
theorem lt_length_of_cell? (h : level.finish.cell? row column = some cell)
    (hrow : row = level.done.length) : column < level.currentRow.cells.length := by
  rw [cell?_finish, if_neg (by omega), if_pos hrow] at h
  simpa using (List.getElem?_eq_some_iff.mp h).1

/-! ### Units that write no cell -/

/-- What leaves all cells alone, and does not pretend to have grown one, keeps a cell as it is. -/
theorem IsSet.of_cells {after : Level} (h : level.IsSet row column cell)
    (hdone : after.done = level.done) (hcells : after.currentRow.cells = level.currentRow.cells)
    (hmove : after.lastMove = .grew → level.lastMove = .grew) : after.IsSet row column cell := by
  constructor
  · rw [← h.there, cell?_finish, cell?_finish, hdone, hcells]
  · intro hgrew
    unfold Newest
    rw [hdone, hcells]
    exact h.keeps (hmove hgrew)

/-- A raise writes no cell. -/
theorem IsSet.raise (h : level.IsSet row column cell) : level.raise.IsSet row column cell := by
  rcases level.raise_cases with ⟨open', hopen, -, hraise⟩ | ⟨-, hraise⟩
  · apply h.of_cells
    · rw [hraise]
    · rw [hraise, currentRow_of_some rfl, currentRow_of_some hopen]
    · rw [hraise]
      simp
  · apply h.of_cells
    · rw [hraise]
    · apply cells_currentRow_congr
      rw [hraise]
    · rw [hraise]
      split
      · simp
      · simp

/-- A break moves a row, but only to where it stands already. -/
theorem IsSet.breakRow (h : level.IsSet row column cell) :
    level.breakRow.IsSet row column cell := by
  refine ⟨h.there, ?_⟩
  intro hgrew
  cases hgrew

/-! ### Units that write a cell -/

/-- A cell stays as it is when another is written: a new one, or the newest if that is not it. -/
theorem IsSet.put {after : Level} (h : level.IsSet row column cell)
    (hdone : after.done = level.done)
    (hcells : (∃ written, after.currentRow.cells = written :: level.currentRow.cells) ∨
      ¬level.Newest row column ∧ ∃ written newest older,
        level.currentRow.cells = newest :: older ∧ after.currentRow.cells = written :: older) :
    after.IsSet row column cell := by
  have hsame : row = level.done.length →
      after.currentRow.cells.reverse[column]? = level.currentRow.cells.reverse[column]? ∧
        column + 1 ≠ after.currentRow.cells.length := by
    intro hrow
    have hlt := lt_length_of_cell? h.there hrow
    rcases hcells with ⟨written, hwritten⟩ | ⟨hnot, written, newest, older, hbefore, hafter⟩
    · rw [hwritten, List.reverse_cons, List.getElem?_append_left (by simpa using hlt)]
      refine ⟨rfl, ?_⟩
      rw [List.length_cons]
      omega
    · have hne : column + 1 ≠ level.currentRow.cells.length := fun hnewest => hnot ⟨hrow, hnewest⟩
      rw [hbefore, List.length_cons] at hlt hne
      rw [hbefore, hafter, List.reverse_cons, List.reverse_cons,
        List.getElem?_append_left (by simp; omega), List.getElem?_append_left (by simp; omega)]
      refine ⟨rfl, ?_⟩
      rwa [List.length_cons]
  constructor
  · rw [← h.there, cell?_finish, cell?_finish, hdone]
    split
    · rfl
    · split
      · exact (hsame ‹_›).1
      · rfl
  · rintro - ⟨hrow, hnewest⟩
    rw [hdone] at hrow
    exact (hsame hrow).2 hnewest

/-- Growth writes another cell, if it does not widen this one. -/
theorem IsSet.grow (h : level.IsSet row column cell) (hkeep : ¬level.Widens row column)
    (color : Option Color) : (level.grow color).IsSet row column cell := by
  rcases level.grow_cases color with ⟨newest, older, hcells, hpending, hgrow⟩ | ⟨-, hgrow⟩
  · apply h.put
    · rw [hgrow]
    · right
      refine ⟨fun hnewest => hkeep ⟨hnewest, hpending⟩,
        { newest with width := newest.width + 1, color }, newest, older, hcells, ?_⟩
      rw [hgrow, currentRow_of_some rfl]
  · apply h.put
    · rw [hgrow]
    · left
      refine ⟨⟨1, color, none⟩, ?_⟩
      rw [hgrow, currentRow_of_some rfl]

/-- A grid is placed in another cell. -/
theorem IsSet.attach (h : level.IsSet row column cell) (color : Option Color) (grid : Grid) :
    (level.attach color grid).IsSet row column cell := by
  rcases level.attach_cases color grid with ⟨newest, older, hcells, hmove, hattach⟩ | ⟨-, hattach⟩
  · apply h.put
    · rw [hattach]
    · right
      refine ⟨h.keeps hmove, { newest with color, nested := some grid }, newest, older, hcells, ?_⟩
      rw [hattach, currentRow_of_some rfl]
  · apply h.put
    · rw [hattach]
    · left
      refine ⟨⟨1, color, some grid⟩, ?_⟩
      rw [hattach, currentRow_of_some rfl]

/-! ### What keeps a cell -/

/-- A cell stays as it is until growth widens it. -/
theorem IsSet.take (h : level.IsSet row column cell) (unit : Lexeme)
    (hkeep : unit = .command .grow ∨ unit = .command .recurse → ¬level.Widens row column) :
    (level.take unit).IsSet row column cell := by
  rcases unit with _ | command | char
  · refine h.of_cells rfl (cells_currentRow_congr rfl) ?_
    intro hgrew
    cases hgrew
  · cases command with
    | breakRow => exact h.breakRow
    | grow => exact h.grow (hkeep (Or.inl rfl)) _
    | recurse => exact h.grow (hkeep (Or.inr rfl)) _
    | raise => exact h.raise
    | nest => exact h.of_cells rfl rfl id
    | hue hue => exact h.of_cells rfl rfl id
    | lighten => exact h.of_cells rfl rfl id
    | modeShift => exact h.of_cells rfl rfl id
    | modeReset => exact h.of_cells rfl rfl id
  · exact h

/-- A cell stays as it is when a nested grid is put in another place. -/
theorem IsSet.hold (h : level.IsSet row column cell) (grid : Grid) :
    (level.hold grid).IsSet row column cell := by
  have hsuspend : level.suspend.IsSet row column cell := h.of_cells rfl rfl id
  exact hsuspend.attach _ grid

/-- The cell that a nested grid is put in has the colour of the `S` and holds the grid. -/
theorem isSet_hold (level : Level) (grid : Grid) :
    ∃ row column width,
      (level.hold grid).IsSet row column ⟨width, level.ink.color?, some grid⟩ := by
  unfold Level.hold
  rcases level.suspend.attach_cases level.ink.color? grid with
    ⟨newest, older, -, -, hattach⟩ | ⟨-, hattach⟩
  · refine ⟨level.done.length, older.length, newest.width, ?_, ?_⟩
    · rw [hattach]
      exact cell?_finish_of_openRow rfl rfl
    · rw [hattach]
      intro hgrew
      cases hgrew
  · refine ⟨level.done.length, level.suspend.currentRow.cells.length, 1, ?_, ?_⟩
    · rw [hattach]
      exact cell?_finish_of_openRow rfl rfl
    · rw [hattach]
      intro hgrew
      cases hgrew

end Level

/-! ### Growths -/

/-- The unit grows: it is a `b` or an `i`. -/
def Lexeme.IsGrowth (unit : Lexeme) : Prop :=
  unit = .command .grow ∨ unit = .command .recurse

/-- A growth before the unit does not count as the last move any more: the unit is a `B`, alone or
doubled, a `p` or an `S`. -/
def Lexeme.Interrupts (unit : Lexeme) : Prop :=
  unit = .close ∨ unit = .command .breakRow ∨ unit = .command .raise ∨ unit = .command .nest

instance (unit : Lexeme) : Decidable unit.IsGrowth :=
  inferInstanceAs (Decidable (_ ∨ _))

instance (unit : Lexeme) : Decidable unit.Interrupts :=
  inferInstanceAs (Decidable (_ ∨ _ ∨ _ ∨ _))

/-- What interrupts growth is none itself. -/
theorem Lexeme.Interrupts.not_isGrowth {unit : Lexeme} (h : unit.Interrupts) : ¬unit.IsGrowth := by
  rcases h with rfl | rfl | rfl | rfl <;> decide

/-- The last move is a growth right behind one, and remains so until it is interrupted. -/
theorem Level.lastMove_take_eq_grew_iff {level : Level} {unit : Lexeme}
    (hnest : unit ≠ .command .nest) :
    (level.take unit).lastMove = .grew ↔
      unit.IsGrowth ∨ ¬unit.Interrupts ∧ level.lastMove = .grew := by
  have hgrown : unit.IsGrowth → (level.take unit).lastMove = .grew := by
    rintro (rfl | rfl)
    · rfl
    · rfl
  have hinterrupted : unit.Interrupts → (level.take unit).lastMove ≠ .grew := by
    rintro (rfl | rfl | rfl | rfl)
    · rintro ⟨⟩
    · rintro ⟨⟩
    · exact level.lastMove_raise_ne
    · exact absurd rfl hnest
  have hother : ¬unit.IsGrowth → ¬unit.Interrupts →
      (level.take unit).lastMove = level.lastMove := by
    intro hgrowth hinterrupts
    rcases unit with _ | command | char
    · exact absurd (by decide) hinterrupts
    · cases command with
      | grow => exact absurd (by decide) hgrowth
      | recurse => exact absurd (by decide) hgrowth
      | breakRow => exact absurd (by decide) hinterrupts
      | raise => exact absurd (by decide) hinterrupts
      | _ => rfl
    · rfl
  by_cases hgrowth : unit.IsGrowth
  · exact iff_of_true (hgrown hgrowth) (Or.inl hgrowth)
  by_cases hinterrupts : unit.Interrupts
  · refine iff_of_false (hinterrupted hinterrupts) ?_
    rintro (hgrows | ⟨hnot, -⟩)
    · exact hgrowth hgrows
    · exact hnot hinterrupts
  · rw [hother hgrowth hinterrupts, or_iff_right hgrowth]
    exact (and_iff_right hinterrupts).symm

end Slab
