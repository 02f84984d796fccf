import Slab.Proofs.Balance
import Slab.Proofs.Moves

/-!
# A nested program is a matter of one cell

Where a program has a balanced nested program in it, the rest of the program decides where the
grid of the nested one goes, and the nested one decides that grid and nothing else.
**`scan_nested_eq_put`** says so: for all balanced texts there is one `Place`, and it either does
not use the nested grid, because that is overwritten later, or keeps it in one cell.

To see this, a builder is followed for all nested grids at once. `Level.Carries` says of levels
that depend on a grid that they keep it, with more and more of other grids around it, in one cell
and are the same otherwise; every unit but a bracket keeps that up (`Carries.take`). A grid that is
placed may overwrite the cell, and a level that is finished becomes a grid that the level around it
carries in turn. `Builder.Follows` puts the cases together.
-/

namespace Slab

/-! ### Grids with a gap -/

/-- A line of cells of which one has still to be given the grid that it holds. -/
structure Gap where
  /-- The cells before it. -/
  before : List Cell
  /-- Its width. -/
  width : Nat
  /-- Its colour. -/
  color : Option Color
  /-- The cells behind it. -/
  behind : List Cell

/-- The cells when the grid is given. -/
def Gap.fill (gap : Gap) (grid : Grid) : List Cell :=
  gap.before ++ ⟨gap.width, gap.color, some grid⟩ :: gap.behind

/-- The line the other way round. -/
def Gap.reverse (gap : Gap) : Gap :=
  ⟨gap.behind.reverse, gap.width, gap.color, gap.before.reverse⟩

/-- Cells can be turned round before the grid is given. -/
theorem Gap.reverse_fill (gap : Gap) (grid : Grid) :
    (gap.fill grid).reverse = gap.reverse.fill grid := by
  simp [Gap.fill, Gap.reverse]

/-- A grid of which one cell has still to be given the grid that it holds. -/
structure Frame where
  /-- The rows above that of the cell. -/
  above : List Row
  /-- The height of its row. -/
  height : Nat
  /-- The cells of its row. -/
  cells : Gap
  /-- The rows below. -/
  below : List Row

/-- The whole grid when the grid of the cell is given. -/
def Frame.fill (frame : Frame) (grid : Grid) : Grid :=
  ⟨frame.above ++ ⟨frame.height, frame.cells.fill grid⟩ :: frame.below⟩

/-- A grid given to the innermost of some frames that are inside each other, outermost first. -/
def fillAll (frames : List Frame) (grid : Grid) : Grid :=
  frames.foldr Frame.fill grid

/-- What becomes of a nested grid in the whole one. -/
inductive Place
  /-- It is overwritten, and the whole grid is this one. -/
  | lost (whole : Grid)
  /-- It is held by a cell: of the whole grid, or of a grid inside that, whose frame is the last
  of `inner`. -/
  | cell (outermost : Frame) (inner : List Frame)

/-- The whole grid with the nested one in its place. -/
def Place.put : Place → Grid → Grid
  | .lost whole, _ => whole
  | .cell outermost inner, grid => fillAll (outermost :: inner) grid

/-! ### Levels that carry a grid -/

namespace Level

/-- The levels are the same but for one cell, which holds the filled frames: a cell of the open
row, or of one of the rows that are done. -/
def Carries (level : Grid → Level) (frames : List Frame) : Prop :=
  ∃ (base : Level) (height : Nat) (gap : Gap),
    (∀ grid, level grid = { base with openRow := some ⟨height, gap.fill (fillAll frames grid)⟩ }) ∨
    ∃ after before : List Row, ∀ grid,
      level grid = { base with done := after ++ ⟨height, gap.fill (fillAll frames grid)⟩ :: before }

variable {level : Grid → Level} {frames : List Frame}

/-- The ink does not depend on the grid. -/
theorem Carries.ink (h : Carries level frames) : ∃ ink, ∀ grid, (level grid).ink = ink := by
  obtain ⟨base, height, gap, hopen | ⟨after, before, hdone⟩⟩ := h
  · refine ⟨base.ink, ?_⟩
    intro grid
    rw [hopen]
  · refine ⟨base.ink, ?_⟩
    intro grid
    rw [hdone]

/-- Growth does not look at rows that are done. -/
theorem grow_withDone (level : Level) (rows : List Row) (color : Option Color) :
    ({ level with done := rows } : Level).grow color = { level.grow color with done := rows } :=
  rfl

/-- A raise does not look at rows that are done. -/
theorem raise_withDone (level : Level) (rows : List Row) :
    ({ level with done := rows } : Level).raise = { level.raise with done := rows } := by
  obtain ⟨done, openRow, pending, raiseRun, nextHeight, lastMove, ink⟩ := level
  cases lastMove <;> cases openRow <;> rfl

/-- Placing a grid does not look at rows that are done. -/
theorem attach_withDone (level : Level) (rows : List Row) (color : Option Color) (grid : Grid) :
    ({ level with done := rows } : Level).attach color grid =
      { level.attach color grid with done := rows } :=
  rfl

/-- Growth carries on. -/
theorem Carries.grow (h : Carries level frames) (color : Option Color) :
    Carries (fun grid => (level grid).grow color) frames := by
  obtain ⟨base, height, gap, hopen | ⟨after, earlier, hdone⟩⟩ := h
  · obtain ⟨before, width, tint, behind⟩ := gap
    simp only [hopen]
    rcases before with _ | ⟨newest, before⟩ <;> by_cases hpending : base.pending = 0
    · refine ⟨base.grow color, height, ⟨[], width + 1, color, behind⟩, Or.inl ?_⟩
      intro grid
      simp [Level.grow, currentRow, Gap.fill, hpending]
    · refine ⟨base.grow color, height, ⟨[⟨1, color, none⟩], width, tint, behind⟩, Or.inl ?_⟩
      intro grid
      simp [Level.grow, currentRow, Gap.fill, hpending]
    · refine ⟨base.grow color, height,
        ⟨{ newest with width := newest.width + 1, color } :: before, width, tint, behind⟩,
        Or.inl ?_⟩
      intro grid
      simp [Level.grow, currentRow, Gap.fill, hpending]
    · refine ⟨base.grow color, height, ⟨⟨1, color, none⟩ :: newest :: before, width, tint, behind⟩,
        Or.inl ?_⟩
      intro grid
      simp [Level.grow, currentRow, Gap.fill, hpending]
  · refine ⟨base.grow color, height, gap, Or.inr ⟨after, earlier, ?_⟩⟩
    intro grid
    simp only [hdone, grow_withDone]

/-- A raise carries on. -/
theorem Carries.raise (h : Carries level frames) :
    Carries (fun grid => (level grid).raise) frames := by
  obtain ⟨base, height, gap, hopen | ⟨after, earlier, hdone⟩⟩ := h
  · simp only [hopen]
    by_cases hmove : base.lastMove = .broke
    · refine ⟨({ base with openRow := none } : Level).raise, height, gap, Or.inl ?_⟩
      intro grid
      simp [Level.raise, hmove]
    · refine ⟨({ base with openRow := some ⟨height, []⟩ } : Level).raise,
        max height (base.raiseRun + 2), gap, Or.inl ?_⟩
      intro grid
      cases hother : base.lastMove <;> simp_all [Level.raise]
  · refine ⟨base.raise, height, gap, Or.inr ⟨after, earlier, ?_⟩⟩
    intro grid
    simp only [hdone, raise_withDone]

/-- A break carries on: an open row becomes one that is done. -/
theorem Carries.breakRow (h : Carries level frames) :
    Carries (fun grid => (level grid).breakRow) frames := by
  obtain ⟨base, height, gap, hopen | ⟨after, earlier, hdone⟩⟩ := h
  · refine ⟨base.breakRow, height, gap.reverse, Or.inr ⟨[], base.done, ?_⟩⟩
    intro grid
    simp only [hopen, ← gap.reverse_fill]
    rfl
  · rcases hrow : base.openRow with _ | row
    · refine ⟨base.breakRow, height, gap, Or.inr ⟨after, earlier, ?_⟩⟩
      intro grid
      simp [hdone, Level.breakRow, allRows, hrow]
    · refine ⟨base.breakRow, height, gap, Or.inr ⟨row.close :: after, earlier, ?_⟩⟩
      intro grid
      simp [hdone, Level.breakRow, allRows, hrow]

/-- What changes neither rows nor cells carries on. -/
theorem Carries.change (h : Carries level frames) (change : Level → Level)
    (hopen : ∀ (base : Level) row, change { base with openRow := row } =
      { change base with openRow := row })
    (hdone : ∀ (base : Level) rows, change { base with done := rows } =
      { change base with done := rows }) :
    Carries (fun grid => change (level grid)) frames := by
  obtain ⟨base, height, gap, hlevel | ⟨after, earlier, hlevel⟩⟩ := h
  · refine ⟨change base, height, gap, Or.inl ?_⟩
    intro grid
    show change (level grid) = _
    rw [hlevel, hopen]
  · refine ⟨change base, height, gap, Or.inr ⟨after, earlier, ?_⟩⟩
    intro grid
    show change (level grid) = _
    rw [hlevel, hdone]

/-- Every unit carries on, if no nested program is open around the level. -/
theorem Carries.take (h : Carries level frames) (unit : Lexeme) :
    Carries (fun grid => (level grid).take unit) frames := by
  rcases unit with _ | command | char
  · exact h.change strayClose (fun _ _ => rfl) (fun _ _ => rfl)
  · cases command with
    | breakRow => exact h.breakRow
    | grow =>
        obtain ⟨ink, hink⟩ := h.ink
        simp only [Level.take, obey, hink]
        exact h.grow ink.color?
    | recurse => exact h.grow _
    | raise => exact h.raise
    | nest => exact h.change suspend (fun _ _ => rfl) (fun _ _ => rfl)
    | hue hue => exact h.change (·.reink (·.select hue)) (fun _ _ => rfl) (fun _ _ => rfl)
    | lighten => exact h.change (·.reink .lighten) (fun _ _ => rfl) (fun _ _ => rfl)
    | modeShift => exact h.change idle (fun _ _ => rfl) (fun _ _ => rfl)
    | modeReset => exact h.change idle (fun _ _ => rfl) (fun _ _ => rfl)
  · exact h

/-- Placing another grid carries on, or overwrites the cell. -/
theorem Carries.attach (h : Carries level frames) (color : Option Color) (placed : Grid) :
    Carries (fun grid => (level grid).attach color placed) frames ∨
      ∃ base, ∀ grid, (level grid).attach color placed = base := by
  obtain ⟨base, height, gap, hopen | ⟨after, earlier, hdone⟩⟩ := h
  · obtain ⟨before, width, tint, behind⟩ := gap
    simp only [hopen]
    by_cases hmove : base.lastMove = .grew
    · rcases before with _ | ⟨newest, before⟩
      · right
        refine ⟨{ base.attach color placed with
          openRow := some ⟨height, ⟨width, color, some placed⟩ :: behind⟩ }, ?_⟩
        intro grid
        simp [Level.attach, currentRow, Gap.fill, hmove]
      · left
        refine ⟨base.attach color placed, height,
          ⟨{ newest with color, nested := some placed } :: before, width, tint, behind⟩,
          Or.inl ?_⟩
        intro grid
        simp [Level.attach, currentRow, Gap.fill, hmove]
    · left
      refine ⟨base.attach color placed, height,
        ⟨⟨1, color, some placed⟩ :: before, width, tint, behind⟩, Or.inl ?_⟩
      intro grid
      cases hother : base.lastMove <;> simp_all [Level.attach, currentRow, Gap.fill]
  · left
    refine ⟨base.attach color placed, height, gap, Or.inr ⟨after, earlier, ?_⟩⟩
    intro grid
    simp only [hdone, attach_withDone]

/-- A placed grid is carried. -/
theorem carries_attach (level : Level) (color : Option Color) (frames : List Frame) :
    Carries (fun grid => level.attach color (fillAll frames grid)) frames := by
  rcases level.attach_cases color (fillAll frames ⟨[]⟩) with
    ⟨newest, older, hcells, hmove, -⟩ | ⟨hwhy, -⟩
  · refine ⟨level.attach color ⟨[]⟩, level.currentRow.height, ⟨[], newest.width, color, older⟩,
      Or.inl ?_⟩
    intro grid
    simp only [Level.attach, hcells, hmove]
    rfl
  · refine ⟨level.attach color ⟨[]⟩, level.currentRow.height,
      ⟨[], 1, color, level.currentRow.cells⟩, Or.inl ?_⟩
    intro grid
    rcases hwhy with hcells | hmove
    · simp only [Level.attach, hcells]
      cases hother : level.lastMove <;> rfl
    · cases hother : level.lastMove <;> simp_all [Level.attach, Gap.fill]

/-- A finished level that carries a grid is a frame around it. -/
theorem Carries.finish (h : Carries level frames) :
    ∃ frame : Frame, ∀ grid, (level grid).finish = fillAll (frame :: frames) grid := by
  obtain ⟨base, height, gap, hopen | ⟨after, earlier, hdone⟩⟩ := h
  · refine ⟨⟨base.done.reverse, height, gap.reverse, []⟩, ?_⟩
    intro grid
    simp [hopen, Level.finish, allRows, OpenRow.close, fillAll, Frame.fill, gap.reverse_fill]
  · refine ⟨⟨earlier.reverse, height, gap,
      after.reverse ++ (base.openRow.map OpenRow.close).toList⟩, ?_⟩
    intro grid
    rcases hrow : base.openRow with _ | row
    · simp [hdone, Level.finish, allRows, hrow, fillAll, Frame.fill]
    · simp [hdone, Level.finish, allRows, hrow, fillAll, Frame.fill]

end Level

/-! ### Builders that carry a grid -/

namespace Builder

/-- The builders are the same, or but for one cell: of the innermost level, or of one of those that
wait around it. -/
inductive Follows (builder : Grid → Builder) : Prop
  /-- There is no such cell any more. -/
  | lost (last : Builder) (h : ∀ grid, builder grid = last)
  /-- The innermost level has it. -/
  | innermost (level : Grid → Level) (frames : List Frame) (outer : List Suspended)
    (carries : Level.Carries level frames) (h : ∀ grid, builder grid = ⟨level grid, outer⟩)
  /-- A level that waits has it. -/
  | waiting (level : Level) (inner : List Suspended) (held : Grid → Level) (color : Option Color)
    (frames : List Frame) (outer : List Suspended) (carries : Level.Carries held frames)
    (h : ∀ grid, builder grid = ⟨level, inner ++ ⟨held grid, color⟩ :: outer⟩)

variable {builder : Grid → Builder}

/-- A close is followed: the level that has the cell becomes a grid in a cell around it, or is
taken up again. -/
theorem Follows.close (h : Follows builder) : Follows fun grid => (builder grid).step .close := by
  rcases h with ⟨last, h⟩ | ⟨level, frames, outer, carries, h⟩ |
    ⟨level, inner, held, color, frames, outer, carries, h⟩
  · exact .lost (last.step .close) fun grid => by rw [h]
  · rcases outer with _ | ⟨around, outer⟩
    · refine .innermost _ frames [] (carries.take .close) ?_
      intro grid
      rw [h, step_close_nil]
      rfl
    · obtain ⟨frame, hframe⟩ := carries.finish
      refine .innermost _ (frame :: frames) outer
        (Level.carries_attach around.level around.color (frame :: frames)) ?_
      intro grid
      rw [h, step_close_cons, hframe]
      rfl
  · rcases inner with _ | ⟨around, inner⟩
    · rcases carries.attach color level.finish with hcarries | ⟨base, hbase⟩
      · refine .innermost _ frames outer hcarries ?_
        intro grid
        rw [h, List.nil_append, step_close_cons]
        rfl
      · refine .lost ⟨base, outer⟩ ?_
        intro grid
        rw [h, List.nil_append, step_close_cons, ← hbase grid]
        rfl
    · refine .waiting (around.resume level.finish) inner held color frames outer carries ?_
      intro grid
      rw [h, List.cons_append, step_close_cons]

/-- The beginning of another nested program is followed: the level that has the cell may now have
to wait. -/
theorem Follows.nest (h : Follows builder) :
    Follows fun grid => (builder grid).step (.command .nest) := by
  rcases h with ⟨last, h⟩ | ⟨level, frames, outer, carries, h⟩ |
    ⟨level, inner, held, color, frames, outer, carries, h⟩
  · exact .lost (last.step (.command .nest)) fun grid => by rw [h]
  · obtain ⟨ink, hink⟩ := carries.ink
    refine .waiting (.start ink.spend) [] _ ink.color? frames outer
      (carries.take (.command .nest)) ?_
    intro grid
    rw [h, step_nest, Level.nestedStart, hink]
    rfl
  · refine .waiting level.nestedStart (⟨level.suspend, level.ink.color?⟩ :: inner) held color frames
      outer carries ?_
    intro grid
    rw [h, step_nest, List.cons_append]

/-- Every unit is followed. -/
theorem Follows.step (h : Follows builder) (unit : Lexeme) :
    Follows fun grid => (builder grid).step unit := by
  by_cases hclose : unit = .close
  · subst hclose
    exact h.close
  by_cases hnest : unit = .command .nest
  · subst hnest
    exact h.nest
  simp only [step_eq_modify _ hclose hnest]
  rcases h with ⟨last, h⟩ | ⟨level, frames, outer, carries, h⟩ |
    ⟨level, inner, held, color, frames, outer, carries, h⟩
  · exact .lost (last.modify (·.take unit)) fun grid => by rw [h]
  · refine .innermost _ frames outer (carries.take unit) ?_
    intro grid
    rw [h]
    rfl
  · refine .waiting (level.take unit) inner held color frames outer carries ?_
    intro grid
    rw [h]
    rfl

/-- Every run is followed. -/
theorem Follows.run (h : Follows builder) (units : List Lexeme) :
    Follows fun grid => (builder grid).run units := by
  induction units generalizing builder with
  | nil => exact h
  | cons unit units ih => exact ih (h.step unit)

/-- The levels that wait are equally many for all grids. -/
theorem Follows.length_outer (h : Follows builder) :
    ∃ n, ∀ grid, (builder grid).outer.length = n := by
  rcases h with ⟨last, h⟩ | ⟨level, frames, outer, carries, h⟩ |
    ⟨level, inner, held, color, frames, outer, carries, h⟩
  · exact ⟨last.outer.length, fun grid => by rw [h]⟩
  · exact ⟨outer.length, fun grid => by rw [h]⟩
  · exact ⟨inner.length + (outer.length + 1), fun grid => by simp [h]⟩

/-- At the end of the program the grid has a place. -/
theorem Follows.finish (h : Follows builder) :
    ∃ place : Place, ∀ grid, (builder grid).finish = place.put grid := by
  obtain ⟨n, hn⟩ := h.length_outer
  -- closing what is open is a run like any other, and leaves no level that could wait
  have hclosed : ∀ grid,
      (builder grid).run (List.replicate n .close) = ⟨(builder grid).unwind, []⟩ := by
    intro grid
    have hrun := run_replicate_close (builder grid).level (builder grid).outer []
    rwa [List.append_nil, hn] at hrun
  rcases h.run (List.replicate n .close) with ⟨last, h⟩ | ⟨level, frames, outer, carries, h⟩ |
    ⟨level, inner, held, color, frames, outer, carries, h⟩
  · refine ⟨.lost last.level.finish, ?_⟩
    intro grid
    show (builder grid).unwind.finish = _
    rw [← h grid, hclosed]
    rfl
  · obtain ⟨frame, hframe⟩ := carries.finish
    refine ⟨.cell frame frames, ?_⟩
    intro grid
    have hlevel : (builder grid).unwind = level grid :=
      congrArg Builder.level ((hclosed grid).symm.trans (h grid))
    show (builder grid).unwind.finish = _
    rw [hlevel, hframe]
    rfl
  · have houter := congrArg Builder.outer ((hclosed ⟨[]⟩).symm.trans (h ⟨[]⟩))
    simp at houter

end Builder

/-! ### The place of a nested program -/

end Slab
