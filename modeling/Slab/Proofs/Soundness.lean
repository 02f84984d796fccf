import Slab.Proofs.Moves
import Slab.Proofs.Running
import Slab.Proofs.Tree

/-!
# What levels keep

Commands fill a level step by step, and some facts about it hold after each of them. `Level.Sound`
is what every level keeps: its rows are solid, that is, no weight is 0 and no row is empty, and
the flags about the last move can be trusted. `Level.Inner` is what a level keeps on top of that
while it is not the outermost one. There a `BB` ends the level, so a row is never left open behind a
break, and raises always reach the open row. Hence cells in a row of height 1 are not set apart
by raises, only by grids placed in them: such a row is packed.

`Builder.Sound` says so of all levels on the stack, and **`Builder.Sound.run`** that every unit
keeps it.
-/

namespace Slab

/-! ### Rows and grids -/

/-- No weight of the row is 0, and the row is not empty. -/
structure Row.Solid (row : Row) : Prop where
  /-- The height is not 0. -/
  height_pos : 1 ≤ row.height
  /-- There is a cell. -/
  cells_ne_nil : row.cells ≠ []
  /-- No width is 0. -/
  width_pos : ∀ cell ∈ row.cells, 1 ≤ cell.width

/-- If the row has height 1 and several cells, each of them holds a grid. -/
def Row.Packed (row : Row) : Prop :=
  row.height = 1 → 2 ≤ row.cells.length → ∀ cell ∈ row.cells, cell.nested ≠ none

/-- All rows of the grid and of the grids inside it are solid. -/
def Grid.Solid (grid : Grid) : Prop :=
  grid.Everywhere fun part => ∀ row ∈ part.rows, row.Solid

/-- All rows of the grids inside the grid are packed. -/
def Grid.Packed (grid : Grid) : Prop :=
  grid.Inside fun part => ∀ row ∈ part.rows, row.Packed

/-- All rows of the grid and of the grids inside it are solid and packed. -/
def Grid.Sealed (grid : Grid) : Prop :=
  grid.Everywhere fun part => ∀ row ∈ part.rows, row.Solid ∧ row.Packed

namespace Grid

/-- Below a sealed grid all is sealed. -/
theorem sealed_iff {grid : Grid} :
    grid.Sealed ↔ (∀ row ∈ grid.rows, row.Solid ∧ row.Packed) ∧
      ∀ inner, grid.Holds inner → inner.Sealed :=
  everywhere_iff

/-- A grid is sealed if everywhere all rows are solid and everywhere all rows are packed. -/
theorem sealed_iff_and {grid : Grid} :
    grid.Sealed ↔ grid.Solid ∧ grid.Everywhere fun part => ∀ row ∈ part.rows, row.Packed := by
  constructor
  · intro h
    constructor
    · intro part hpart row hrow
      exact (h part hpart row hrow).1
    · intro part hpart row hrow
      exact (h part hpart row hrow).2
  · rintro ⟨hsolid, hpacked⟩ part hpart row hrow
    exact ⟨hsolid part hpart row hrow, hpacked part hpart row hrow⟩

/-- Solid everywhere and packed inside means: rows that are solid, and cells that hold sealed
grids. -/
theorem solid_packed_iff {grid : Grid} :
    grid.Solid ∧ grid.Packed ↔ (∀ row ∈ grid.rows, row.Solid) ∧
      ∀ inner, grid.Holds inner → inner.Sealed := by
  have hsolid : grid.Solid ↔ (∀ row ∈ grid.rows, row.Solid) ∧
      ∀ inner, grid.Holds inner → inner.Solid := everywhere_iff
  have hpacked : grid.Packed ↔ ∀ inner, grid.Holds inner →
      inner.Everywhere fun part => ∀ row ∈ part.rows, row.Packed := inside_iff
  simp only [hsolid, hpacked, sealed_iff_and]
  constructor
  · rintro ⟨⟨hrows, hsolids⟩, hpackeds⟩
    refine ⟨hrows, ?_⟩
    intro inner hinner
    exact ⟨hsolids inner hinner, hpackeds inner hinner⟩
  · rintro ⟨hrows, hinners⟩
    exact ⟨⟨hrows, fun inner hinner => (hinners inner hinner).1⟩,
      fun inner hinner => (hinners inner hinner).2⟩

end Grid

/-- A row with a height and cells is solid if all its weights are. -/
theorem OpenRow.solid_close {row : OpenRow} (hheight : 1 ≤ row.height) (hcells : row.cells ≠ [])
    (hwidth : ∀ cell ∈ row.cells, 1 ≤ cell.width) : row.close.Solid where
  height_pos := hheight
  cells_ne_nil := by simpa [OpenRow.close] using hcells
  width_pos := by simpa [OpenRow.close] using hwidth

/-- An open row is closed as a packed one if it is packed itself. -/
theorem OpenRow.packed_close {row : OpenRow} :
    row.close.Packed ↔
      (row.height = 1 → 2 ≤ row.cells.length → ∀ cell ∈ row.cells, cell.nested ≠ none) := by
  simp [Row.Packed, OpenRow.close]

namespace Level

variable {level : Level}

/-! ### Every level -/

/-- What a level keeps. -/
structure Sound (level : Level) : Prop where
  /-- All rows are solid. -/
  rows : ∀ row ∈ level.allRows, row.Solid
  /-- The next row will have a height. -/
  nextHeight : 1 ≤ level.nextHeight
  /-- A cell that was just grown is there, and nothing is pending. -/
  grew : level.lastMove = .grew → level.openRow ≠ none ∧ level.pending = 0
  /-- The raises of the run that is being read are pending. -/
  raiseRun : level.raiseRun ≤ level.pending
  /-- The grids in the cells come from levels that were not the outermost one. -/
  held : ∀ inner, level.finish.Holds inner → inner.Sealed

/-- A level starts sound. -/
theorem sound_start (ink : Ink) : (Level.start ink).Sound where
  rows := by
    intro row hrow
    exact absurd hrow List.not_mem_nil
  nextHeight := Nat.le_refl 1
  grew := by
    intro h
    cases h
  raiseRun := Nat.le_refl 0
  held := by
    intro inner hinner
    exact absurd hinner List.not_mem_nil

/-- The open row is solid. -/
theorem Sound.openRow (h : level.Sound) {row : OpenRow} (hopen : level.openRow = some row) :
    row.close.Solid := by
  apply h.rows
  rw [allRows_of_some hopen]
  exact List.mem_cons_self

/-- The current row has a height and no cell of width 0. -/
theorem Sound.currentRow (h : level.Sound) :
    1 ≤ level.currentRow.height ∧ ∀ cell ∈ level.currentRow.cells, 1 ≤ cell.width := by
  rcases level.currentRow_cases with hopen | ⟨-, hfresh⟩
  · have hsolid := h.openRow hopen
    refine ⟨hsolid.height_pos, ?_⟩
    simpa [OpenRow.close] using hsolid.width_pos
  · rw [hfresh]
    exact ⟨h.nextHeight, by simp⟩

/-- A level whose current row is replaced keeps solid rows if the new one has solid cells. -/
theorem Sound.replaceRow (h : level.Sound) {after : Level} {row : OpenRow}
    (hopen : after.openRow = some row) (hdone : after.done = level.done)
    (hheight : 1 ≤ row.height) (hcells : row.cells ≠ [])
    (hwidth : ∀ cell ∈ row.cells, 1 ≤ cell.width) : ∀ row ∈ after.allRows, row.Solid := by
  apply forall_allRows_of_openRow h.rows hopen hdone
  exact OpenRow.solid_close hheight hcells hwidth

/-- Growth keeps a level sound. -/
theorem Sound.grow (h : level.Sound) (color : Option Color) : (level.grow color).Sound := by
  obtain ⟨hheight, hwidth⟩ := h.currentRow
  have hheld : ∀ inner, (level.grow color).finish.Holds inner → inner.Sealed := by
    intro inner hinner
    exact h.held inner (mem_nested_grow.mp hinner)
  rcases level.grow_cases color with ⟨newest, older, hcells, -, hgrow⟩ | ⟨-, hgrow⟩
  all_goals
    rw [hgrow] at hheld ⊢
    refine ⟨?_, h.nextHeight, fun _ => ⟨by simp, rfl⟩, Nat.le_refl 0, hheld⟩
    refine h.replaceRow rfl rfl hheight (by simp) ?_
    simp only [List.forall_mem_cons]
  · rw [hcells, List.forall_mem_cons] at hwidth
    exact ⟨Nat.le_add_left 1 _, hwidth.2⟩
  · exact ⟨Nat.le_refl 1, hwidth⟩

/-- Placing a grid that no outermost level built keeps a level sound. -/
theorem Sound.attach (h : level.Sound) (color : Option Color) {grid : Grid} (hgrid : grid.Sealed) :
    (level.attach color grid).Sound := by
  obtain ⟨hheight, hwidth⟩ := h.currentRow
  have hheld : ∀ inner, (level.attach color grid).finish.Holds inner → inner.Sealed := by
    intro inner hinner
    rcases mem_nested_of_attach hinner with rfl | hbefore
    · exact hgrid
    · exact h.held inner hbefore
  rcases level.attach_cases color grid with ⟨newest, older, hcells, -, hattach⟩ | ⟨-, hattach⟩
  all_goals
    rw [hattach] at hheld ⊢
    refine ⟨?_, h.nextHeight, by simp, Nat.le_refl 0, hheld⟩
    refine h.replaceRow rfl rfl hheight (by simp) ?_
    simp only [List.forall_mem_cons]
  · rw [hcells, List.forall_mem_cons] at hwidth
    exact hwidth
  · exact ⟨Nat.le_refl 1, hwidth⟩

/-- A raise keeps a level sound. -/
theorem Sound.raise (h : level.Sound) : level.raise.Sound := by
  have hrun := h.raiseRun
  have hheld : ∀ inner, level.raise.finish.Holds inner → inner.Sealed := by
    intro inner hinner
    exact h.held inner (mem_nested_raise.mp hinner)
  rcases level.raise_cases with ⟨row, hopen, -, hraise⟩ | ⟨hwhere, hraise⟩
  · have hsolid := h.openRow hopen
    rw [hraise] at hheld ⊢
    refine ⟨?_, h.nextHeight, by simp, by simp; omega, hheld⟩
    refine h.replaceRow rfl rfl (Nat.le_trans hsolid.height_pos (Nat.le_max_left _ _)) ?_ ?_
    · simpa [OpenRow.close] using hsolid.cells_ne_nil
    · simpa [OpenRow.close] using hsolid.width_pos
  · rw [hraise] at hheld ⊢
    refine ⟨h.rows, Nat.le_trans h.nextHeight (Nat.le_max_left _ _), ?_, by simp; omega, hheld⟩
    intro hgrew
    by_cases hbroke : level.lastMove = .broke <;> simp [hbroke] at hgrew

/-- A break keeps a level sound. -/
theorem Sound.breakRow (h : level.Sound) : level.breakRow.Sound :=
  ⟨h.rows, Nat.le_refl 1, by simp [Level.breakRow], Nat.le_refl 0, h.held⟩

/-- Every unit keeps a level sound. -/
theorem Sound.take (h : level.Sound) (unit : Lexeme) : (level.take unit).Sound := by
  rcases unit with _ | command | char
  · exact ⟨h.rows, Nat.le_refl 1, by simp [Level.take, strayClose], Nat.zero_le _, h.held⟩
  · cases command with
    | breakRow => exact h.breakRow
    | grow => exact h.grow _
    | recurse => exact h.grow _
    | raise => exact h.raise
    | nest => exact ⟨h.rows, h.nextHeight, h.grew, h.raiseRun, h.held⟩
    | _ => exact ⟨h.rows, h.nextHeight, h.grew, Nat.zero_le _, h.held⟩
  · exact h

/-! ### Levels inside others -/

/-- What a level keeps on top of that while it is not the outermost one. -/
structure Inner (level : Level) : Prop where
  /-- All rows are packed. -/
  rows : ∀ row ∈ level.allRows, row.Packed
  /-- After a break no row is open. -/
  broke : level.lastMove = .broke → level.openRow = none
  /-- Pending raises have made the open row taller. -/
  raised : ∀ row, level.openRow = some row → level.pending ≠ 0 → 2 ≤ row.height
  /-- In a row of height 1 only a cell that was just grown is without a grid. -/
  full : ∀ row, level.openRow = some row → row.height = 1 → level.lastMove ≠ .grew →
    ∀ cell ∈ row.cells, cell.nested ≠ none

/-- A level that starts inside another is an inner one. -/
theorem inner_start (ink : Ink) : (Level.start ink).Inner where
  rows := by
    intro row hrow
    exact absurd hrow List.not_mem_nil
  broke := by
    intro h
    cases h
  raised := by
    intro row h
    cases h
  full := by
    intro row h
    cases h

/-- The current row is packed. -/
theorem Inner.currentRow (h : level.Inner) : level.currentRow.close.Packed := by
  rcases level.currentRow_cases with hopen | ⟨-, hfresh⟩
  · apply h.rows
    rw [allRows_of_some hopen]
    exact List.mem_cons_self
  · rw [hfresh]
    intro _ htwo
    exact absurd htwo (by simp [OpenRow.close])

/-- If something is pending or placed last, a current row of height 1 lacks no grid. -/
theorem Inner.currentRow_full (h : level.Inner) (hheight : level.currentRow.height = 1)
    (hmove : level.lastMove ≠ .grew) : ∀ cell ∈ level.currentRow.cells, cell.nested ≠ none := by
  rcases level.currentRow_cases with hopen | ⟨-, hfresh⟩
  · exact h.full _ hopen hheight hmove
  · rw [hfresh]
    simp

/-- A level whose current row is replaced keeps packed rows if the new one lacks no grid. -/
theorem Inner.replaceRow (h : level.Inner) {after : Level} {row : OpenRow}
    (hopen : after.openRow = some row) (hdone : after.done = level.done)
    (hpacked : row.height = 1 → 2 ≤ row.cells.length → ∀ cell ∈ row.cells, cell.nested ≠ none) :
    ∀ row ∈ after.allRows, row.Packed := by
  apply forall_allRows_of_openRow h.rows hopen hdone
  exact OpenRow.packed_close.mpr hpacked

/-- Growth keeps an inner level what it is. A second cell is grown only in a row that was
raised. -/
theorem Inner.grow (h : level.Inner) (color : Option Color) : (level.grow color).Inner := by
  have hcurrent := OpenRow.packed_close.mp h.currentRow
  rcases level.grow_cases color with ⟨newest, older, hcells, -, hgrow⟩ | ⟨hwhy, hgrow⟩
  · rw [hgrow]
    refine ⟨h.replaceRow rfl rfl ?_, by simp, by simp, by simp⟩
    rw [hcells] at hcurrent
    simpa only [List.forall_mem_cons, List.length_cons] using hcurrent
  · rw [hgrow]
    refine ⟨h.replaceRow rfl rfl ?_, by simp, by simp, by simp⟩
    intro hheight htwo
    rcases level.currentRow_cases with hopen | ⟨-, hfresh⟩
    · rcases hwhy with hnone | hpending
      · simp [hnone] at htwo
      · have := h.raised _ hopen hpending
        simp at hheight
        omega
    · simp [hfresh] at htwo

/-- Placing a grid keeps an inner level what it is: it fills the cell that was just grown, or
comes with a cell of its own. -/
theorem Inner.attach (h : level.Inner) (color : Option Color) (grid : Grid) :
    (level.attach color grid).Inner := by
  have hcurrent := OpenRow.packed_close.mp h.currentRow
  have hfull : ∀ row, (level.attach color grid).openRow = some row → row.height = 1 →
      ∀ cell ∈ row.cells, cell.nested ≠ none := by
    rcases level.attach_cases color grid with ⟨newest, older, hcells, -, hattach⟩ | ⟨hwhy, hattach⟩
    · rw [hattach]
      rw [hcells] at hcurrent
      rintro row hrow hheight
      cases hrow
      rw [List.forall_mem_cons]
      refine ⟨by simp, ?_⟩
      rcases older with _ | ⟨next, older⟩
      · simp
      · have htwo : 2 ≤ (newest :: next :: older).length := by simp
        exact (List.forall_mem_cons.mp (hcurrent hheight htwo)).2
    · rw [hattach]
      rintro row hrow hheight
      cases hrow
      rw [List.forall_mem_cons]
      refine ⟨by simp, ?_⟩
      rcases hwhy with hnone | hmove
      · simp [hnone]
      · exact h.currentRow_full hheight hmove
  rcases level.attach_cases color grid with ⟨newest, older, hcells, -, hattach⟩ | ⟨hwhy, hattach⟩
  all_goals
    rw [hattach] at hfull ⊢
    refine ⟨h.replaceRow rfl rfl ?_, by simp, by simp, ?_⟩
    · intro hheight _
      exact hfull _ rfl hheight
    · intro row hrow hheight _
      exact hfull row hrow hheight

/-- A raise keeps an inner level what it is. -/
theorem Inner.raise (h : level.Inner) : level.raise.Inner := by
  rcases level.raise_cases with ⟨row, hopen, -, hraise⟩ | ⟨hwhere, hraise⟩
  · have hheight : 2 ≤ max row.height (level.raiseRun + 2) := by omega
    rw [hraise]
    refine ⟨h.replaceRow rfl rfl ?_, by simp, ?_, ?_⟩
    · intro hone
      simp at hone
      omega
    · intro other hother _
      cases hother
      exact hheight
    · intro other hother hone
      cases hother
      simp at hone
      omega
  · have hnone : level.openRow = none := hwhere.elim id h.broke
    rw [hraise]
    exact ⟨h.rows, fun _ => hnone, by simp [hnone], by simp [hnone]⟩

/-- A break keeps an inner level what it is. -/
theorem Inner.breakRow (h : level.Inner) : level.breakRow.Inner :=
  ⟨h.rows, fun _ => rfl, by rintro row ⟨⟩, by rintro row ⟨⟩⟩

/-- Every unit but a close keeps an inner level what it is. -/
theorem Inner.take (h : level.Inner) (unit : Lexeme) (hclose : unit ≠ .close) :
    (level.take unit).Inner := by
  rcases unit with _ | command | char
  · exact absurd rfl hclose
  · cases command with
    | breakRow => exact h.breakRow
    | grow => exact h.grow _
    | recurse => exact h.grow _
    | raise => exact h.raise
    | _ => exact ⟨h.rows, h.broke, h.raised, h.full⟩
  · exact h

/-- A finished inner level is a sealed grid. -/
theorem Sound.sealed_finish (h : level.Sound) (hinner : level.Inner) : level.finish.Sealed := by
  refine Grid.sealed_iff.mpr ⟨?_, h.held⟩
  intro row hrow
  have hmem : row ∈ level.allRows := List.mem_reverse.mp hrow
  exact ⟨h.rows row hmem, hinner.rows row hmem⟩

/-- A finished level is a solid grid, packed inside. -/
theorem Sound.finish (h : level.Sound) : level.finish.Solid ∧ level.finish.Packed := by
  refine Grid.solid_packed_iff.mpr ⟨?_, h.held⟩
  intro row hrow
  exact h.rows row (List.mem_reverse.mp hrow)

end Level

/-! ### The stack -/

/-- A level is sound above those that wait for it, all levels but the outermost are inner ones,
and those that wait are sound in turn. -/
def SoundAbove : List Suspended → Level → Prop
  | [], level => level.Sound
  | waiting :: outer, level => level.Sound ∧ level.Inner ∧ SoundAbove outer waiting.level

/-- All levels of a builder are sound, and all but the outermost are inner ones. -/
def Builder.Sound (builder : Builder) : Prop :=
  SoundAbove builder.outer builder.level

variable {level after : Level} {outer : List Suspended}

/-- The level on top is sound. -/
theorem SoundAbove.sound (h : SoundAbove outer level) : level.Sound := by
  rcases outer with _ | ⟨waiting, outer⟩
  · exact h
  · exact h.1

/-- The level on top may be changed if the change keeps what it was. -/
theorem SoundAbove.change (h : SoundAbove outer level) (hsound : after.Sound)
    (hinner : outer ≠ [] → level.Inner → after.Inner) : SoundAbove outer after := by
  rcases outer with _ | ⟨waiting, outer⟩
  · exact hsound
  · exact ⟨hsound, hinner (by simp) h.2.1, h.2.2⟩

/-- The grid of a level that is not the outermost can be put in its place. -/
theorem SoundAbove.resume {waiting : Suspended} (h : SoundAbove (waiting :: outer) level) :
    SoundAbove outer (waiting.resume level.finish) := by
  obtain ⟨hsound, hinner, hwaiting⟩ := h
  refine hwaiting.change (hwaiting.sound.attach _ (hsound.sealed_finish hinner)) ?_
  intro _ houter
  exact houter.attach _ _

namespace Builder

/-- A builder starts sound. -/
theorem sound_start (ink : Ink) : (Builder.start ink).Sound :=
  Level.sound_start ink

/-- Every unit keeps a builder sound. -/
theorem Sound.step {builder : Builder} (h : builder.Sound) (unit : Lexeme) :
    (builder.step unit).Sound := by
  obtain ⟨level, outer⟩ := builder
  by_cases hclose : unit = .close
  · subst hclose
    rcases outer with _ | ⟨waiting, outer⟩
    · exact Level.Sound.take h .close
    · exact SoundAbove.resume h
  by_cases hnest : unit = .command .nest
  · subst hnest
    refine ⟨Level.sound_start _, Level.inner_start _, ?_⟩
    refine SoundAbove.change h ((SoundAbove.sound h).take (.command .nest)) ?_
    intro _ hinner
    exact hinner.take (.command .nest) (by simp)
  · rw [step_eq_modify _ hclose hnest]
    refine SoundAbove.change h ((SoundAbove.sound h).take unit) ?_
    intro _ hinner
    exact hinner.take unit hclose

/-- **Runs keep a builder sound.** -/
theorem Sound.run {builder : Builder} (h : builder.Sound) (units : List Lexeme) :
    (builder.run units).Sound := by
  induction units generalizing builder with
  | nil => exact h
  | cons unit units ih => exact ih (h.step unit)

/-- When all that is open is closed, the outermost level is sound. -/
theorem Sound.unwind {builder : Builder} (h : builder.Sound) : builder.unwind.Sound := by
  obtain ⟨level, outer⟩ := builder
  induction outer generalizing level with
  | nil => exact h
  | cons waiting outer ih => exact ih _ (SoundAbove.resume h)

end Builder

/-- The rows of a scanned grid and of those inside are solid, and the rows inside are packed. -/
theorem scan_solid_packed (program : List Char) (ink : Ink) :
    (scan program ink).Solid ∧ (scan program ink).Packed :=
  ((Builder.sound_start ink).run (lexemes program)).unwind.finish

end Slab
