import Slab.Proofs.Conservation
import Slab.Proofs.Soundness

/-!
# The last move as two flags

A level knows what its last move was. It can also keep two flags instead, one for a break and one
for a growth, which commands set and clear one by one: a raise clears the second and leaves the
first alone, a stray close leaves what is pending, and each command resets only some of the fields.
`FlaggedLevel` is a level that works so, and `FlaggedBuilder` builds with such levels. The flags are
never set both (`FlaggedBuilder.OneFlag.step`), and as long as they are not, they are but another
way to keep the last move (`FlaggedBuilder.OneFlag.plain_step`). So what levels keep is what flagged
levels keep: **`levels_keep`** says all of it, for each level of every state that a program gets to.
-/

namespace Slab

/-! ### Levels with flags -/

/-- A grid under construction, with two flags about the last move. -/
structure FlaggedLevel where
  /-- The rows that are done, newest first. -/
  done : List Row := []
  /-- The row being built, if one is open. -/
  openRow : Option OpenRow := none
  /-- The raises since a cell was last placed. -/
  pending : Nat := 0
  /-- The length of the run of raises that has just been read. -/
  raiseRun : Nat := 0
  /-- The height that the next row is opened with. -/
  nextHeight : Nat := 1
  /-- The last move was a break or a stray close. -/
  afterBreak : Bool := false
  /-- The last move started or widened the newest cell. -/
  afterGrowth : Bool := false
  /-- The ink that growth takes its colour from. -/
  ink : Ink

namespace FlaggedLevel

/-- The level on which a program starts. -/
def start (ink : Ink) : FlaggedLevel := { ink }

/-- The open row, or a fresh one at the height meant for it. -/
def currentRow (level : FlaggedLevel) : OpenRow :=
  level.openRow.getD { height := level.nextHeight }

/-- The rows that are done and, if one is open, that row as it stands; newest first. -/
def allRows (level : FlaggedLevel) : List Row :=
  match level.openRow with
  | some row => row.close :: level.done
  | none => level.done

/-- The grid as it stands. -/
def finish (level : FlaggedLevel) : Grid :=
  ⟨level.allRows.reverse⟩

/-- End the open row, if there is one. -/
def breakRow (level : FlaggedLevel) : FlaggedLevel :=
  { level with
    done := level.allRows
    openRow := none
    pending := 0
    nextHeight := 1
    afterBreak := true
    afterGrowth := false }

/-- Meet a close that has nothing to close. -/
def strayClose (level : FlaggedLevel) : FlaggedLevel :=
  { level with
    nextHeight := 1
    afterBreak := true
    afterGrowth := false }

/-- Widen the newest cell, or start one if raises are pending or there is none. -/
def grow (level : FlaggedLevel) (color : Option Color) : FlaggedLevel :=
  let row := level.currentRow
  let cells := match row.cells with
    | newest :: older =>
      if level.pending = 0 then { newest with width := newest.width + 1, color } :: older
      else ⟨1, color, none⟩ :: newest :: older
    | [] => [⟨1, color, none⟩]
  { level with
    openRow := some { row with cells }
    pending := 0
    afterBreak := false
    afterGrowth := true }

/-- Lengthen the run of raises, and make the open row as high as it asks for; after a break, or
without an open row, the next one. -/
def raise (level : FlaggedLevel) : FlaggedLevel :=
  let target := level.raiseRun + 2
  let level :=
    { level with
      pending := level.pending + 1
      raiseRun := level.raiseRun + 1
      afterGrowth := false }
  match level.openRow with
  | some row =>
    if level.afterBreak then { level with nextHeight := max level.nextHeight target }
    else { level with openRow := some { row with height := max row.height target } }
  | none => { level with nextHeight := max level.nextHeight target }

/-- Place a finished nested grid in the newest cell, if the flag says that it was just grown, and
otherwise in a cell of its own. -/
def attach (level : FlaggedLevel) (color : Option Color) (grid : Grid) : FlaggedLevel :=
  let row := level.currentRow
  let cells := match row.cells with
    | newest :: older =>
      if level.afterGrowth then { newest with color, nested := some grid } :: older
      else ⟨1, color, some grid⟩ :: newest :: older
    | [] => [⟨1, color, some grid⟩]
  { level with
    openRow := some { row with cells }
    pending := 0
    raiseRun := 0
    afterBreak := false
    afterGrowth := false }

/-- Change the ink. -/
def reink (level : FlaggedLevel) (change : Ink → Ink) : FlaggedLevel :=
  { level with ink := change level.ink }

/-- End the run of raises. -/
def endRun (level : FlaggedLevel) : FlaggedLevel :=
  { level with raiseRun := 0 }

/-- The level while a nested program is open: its hue is spent, and the flags stay as they are. -/
def suspend (level : FlaggedLevel) : FlaggedLevel :=
  level.reink .spend

/-- The level on which a nested program starts. -/
def nestedStart (level : FlaggedLevel) : FlaggedLevel :=
  start level.ink.spend

/-! ### The move that the flags stand for -/

/-- The last move, read from the flags. -/
def lastMove (level : FlaggedLevel) : LastMove :=
  if level.afterBreak then .broke else if level.afterGrowth then .grew else .other

/-- The level that keeps the last move itself. -/
def plain (level : FlaggedLevel) : Level where
  done := level.done
  openRow := level.openRow
  pending := level.pending
  raiseRun := level.raiseRun
  nextHeight := level.nextHeight
  lastMove := level.lastMove
  ink := level.ink

/-- The flags are not set both. -/
def OneFlag (level : FlaggedLevel) : Prop :=
  ¬(level.afterBreak ∧ level.afterGrowth)

variable {level : FlaggedLevel}

/-- The flag for a break says that the last move broke a row. -/
theorem lastMove_eq_broke_iff : level.lastMove = .broke ↔ level.afterBreak := by
  unfold lastMove
  cases level.afterBreak <;> cases level.afterGrowth <;> simp

/-- The flag for a growth says that the last move grew a cell, if it is the only one. -/
theorem OneFlag.lastMove_eq_grew_iff (h : level.OneFlag) :
    level.lastMove = .grew ↔ level.afterGrowth := by
  unfold OneFlag at h
  unfold lastMove
  cases hbreak : level.afterBreak <;> cases hgrowth : level.afterGrowth <;> simp_all

/-- A raise does the same to both: it never sets a flag, and where it looks at one, that is the one
for a break. -/
theorem plain_raise (level : FlaggedLevel) : level.raise.plain = level.plain.raise := by
  obtain ⟨done, openRow, pending, raiseRun, nextHeight, afterBreak, afterGrowth, ink⟩ := level
  cases openRow <;> cases afterBreak <;> cases afterGrowth <;> rfl

/-- Placing a grid does the same to both, if the flag for a growth can be trusted. -/
theorem OneFlag.plain_attach (h : level.OneFlag) (color : Option Color) (grid : Grid) :
    (level.attach color grid).plain = level.plain.attach color grid := by
  have hmove := h.lastMove_eq_grew_iff
  have hcurrent : level.plain.currentRow = level.currentRow := rfl
  rcases level.plain.attach_cases color grid with
    ⟨newest, older, hcells, hgrew, hattach⟩ | ⟨hwhy, hattach⟩
  · have hflag : level.afterGrowth = true := hmove.mp hgrew
    rw [hattach, attach, ← hcurrent, hcells]
    simp only [hflag, if_true]
    rfl
  · rw [hattach, attach, ← hcurrent]
    rcases hcells : level.plain.currentRow.cells with _ | ⟨newest, older⟩
    · rfl
    · have hflag : ¬level.afterGrowth := by
        rcases hwhy with hnone | hother
        · rw [hcells] at hnone
          cases hnone
        · exact fun hflag => hother (hmove.mpr hflag)
      simp only [hflag]
      rfl

/-- After a break the other flag is cleared. -/
theorem oneFlag_breakRow (level : FlaggedLevel) : level.breakRow.OneFlag := by
  simp [OneFlag, breakRow]

/-- After a stray close the other flag is cleared. -/
theorem oneFlag_strayClose (level : FlaggedLevel) : level.strayClose.OneFlag := by
  simp [OneFlag, strayClose]

/-- After a growth the other flag is cleared. -/
theorem oneFlag_grow (level : FlaggedLevel) (color : Option Color) :
    (level.grow color).OneFlag := by
  simp [OneFlag, grow]

/-- After a raise the flag for a growth is cleared. -/
theorem oneFlag_raise (level : FlaggedLevel) : level.raise.OneFlag := by
  obtain ⟨done, openRow, pending, raiseRun, nextHeight, afterBreak, afterGrowth, ink⟩ := level
  cases openRow <;> cases afterBreak <;> simp [OneFlag, raise]

/-- After placing a grid both flags are cleared. -/
theorem oneFlag_attach (level : FlaggedLevel) (color : Option Color) (grid : Grid) :
    (level.attach color grid).OneFlag := by
  simp [OneFlag, attach]

/-- A level starts with both flags cleared. -/
theorem oneFlag_start (ink : Ink) : (start ink).OneFlag := by
  simp [OneFlag, start]

end FlaggedLevel

/-! ### Building with flags -/

/-- A level with flags that waits for its nested program to close. -/
structure FlaggedSuspended where
  /-- The level as it will be taken up again. -/
  level : FlaggedLevel
  /-- The colour of the cell that will hold the nested grid. -/
  color : Option Color

/-- A waiting level that keeps the last move itself. -/
def FlaggedSuspended.plain (waiting : FlaggedSuspended) : Suspended :=
  ⟨waiting.level.plain, waiting.color⟩

/-- A grid under construction together with the levels around it, all with flags. -/
structure FlaggedBuilder where
  /-- The innermost level, the one that commands apply to. -/
  level : FlaggedLevel
  /-- The levels around it, innermost first. -/
  outer : List FlaggedSuspended := []

namespace FlaggedBuilder

/-- The builder at the start of a program. -/
def start (ink : Ink) : FlaggedBuilder :=
  { level := .start ink }

/-- Begin a nested program. -/
def nest (builder : FlaggedBuilder) : FlaggedBuilder :=
  { level := builder.level.nestedStart
    outer := ⟨builder.level.suspend, builder.level.ink.color?⟩ :: builder.outer }

/-- End the innermost nested program; if none is open, the close is a stray one. -/
def close (builder : FlaggedBuilder) : FlaggedBuilder :=
  match builder.outer with
  | [] => { builder with level := builder.level.strayClose }
  | waiting :: outer =>
    { level := waiting.level.attach waiting.color builder.level.finish, outer }

/-- Apply a change to the innermost level. -/
def modify (builder : FlaggedBuilder) (change : FlaggedLevel → FlaggedLevel) : FlaggedBuilder :=
  { builder with level := change builder.level }

/-- Carry out a command, and leave the run of raises as it is otherwise. -/
def act (builder : FlaggedBuilder) : Command → FlaggedBuilder
  | .breakRow => builder.modify .breakRow
  | .grow => builder.modify fun level => level.grow level.ink.color?
  | .recurse => builder.modify (·.grow (some .pale))
  | .raise => builder.modify .raise
  | .nest => builder.nest
  | .hue hue => builder.modify (·.reink (·.select hue))
  | .lighten => builder.modify (·.reink .lighten)
  | .modeShift => builder
  | .modeReset => builder

/-- Take in one unit of a program. After every command but a raise, the run of raises on the level
that is then the innermost one ends. -/
def step (builder : FlaggedBuilder) : Lexeme → FlaggedBuilder
  | .close => builder.close.modify .endRun
  | .command .raise => builder.act .raise
  | .command letter => (builder.act letter).modify .endRun
  | .noise _ => builder

/-- Take in the units of a program in order. -/
def run (builder : FlaggedBuilder) (units : List Lexeme) : FlaggedBuilder :=
  units.foldl step builder

/-- A command other than a raise ends the run of raises. -/
theorem step_command {builder : FlaggedBuilder} {command : Command} (h : command ≠ .raise) :
    builder.step (.command command) = (builder.act command).modify .endRun := by
  cases command <;> first | rfl | exact absurd rfl h

/-- The levels of a builder, outermost first. -/
def levels (builder : FlaggedBuilder) : List FlaggedLevel :=
  builder.outer.reverse.map (·.level) ++ [builder.level]

/-- The builder whose levels keep the last move themselves. -/
def plain (builder : FlaggedBuilder) : Builder where
  level := builder.level.plain
  outer := builder.outer.map FlaggedSuspended.plain

/-- On no level both flags are set. -/
structure OneFlag (builder : FlaggedBuilder) : Prop where
  /-- Not on the innermost one. -/
  innermost : builder.level.OneFlag
  /-- And not on those that wait. -/
  waiting : ∀ waiting ∈ builder.outer, waiting.level.OneFlag

variable {builder : FlaggedBuilder}

/-- The levels are the same, with flags or without. -/
theorem levels_plain (builder : FlaggedBuilder) :
    builder.plain.levels = builder.levels.map FlaggedLevel.plain := by
  simp [Builder.levels, levels, plain, FlaggedSuspended.plain, Function.comp_def]

/-- No level has both flags set. -/
theorem OneFlag.of_mem_levels (h : builder.OneFlag) {level : FlaggedLevel}
    (hlevel : level ∈ builder.levels) : level.OneFlag := by
  rw [levels, List.mem_append, List.mem_map, List.mem_singleton] at hlevel
  rcases hlevel with ⟨waiting, hwaiting, rfl⟩ | rfl
  · exact h.waiting waiting (List.mem_reverse.mp hwaiting)
  · exact h.innermost

/-- A builder starts with no flag set. -/
theorem oneFlag_start (ink : Ink) : (start ink).OneFlag where
  innermost := FlaggedLevel.oneFlag_start ink
  waiting := by
    intro waiting hwaiting
    exact absurd hwaiting List.not_mem_nil

/-- A close leaves no level with both flags set. -/
theorem OneFlag.close (h : builder.OneFlag) : builder.close.OneFlag := by
  obtain ⟨level, _ | ⟨waiting, outer⟩⟩ := builder
  · exact ⟨level.oneFlag_strayClose, h.waiting⟩
  · exact ⟨waiting.level.oneFlag_attach _ _, (List.forall_mem_cons.mp h.waiting).2⟩

/-- A command leaves no level with both flags set. -/
theorem OneFlag.act (h : builder.OneFlag) (command : Command) : (builder.act command).OneFlag := by
  cases command with
  | breakRow => exact ⟨builder.level.oneFlag_breakRow, h.waiting⟩
  | grow => exact ⟨builder.level.oneFlag_grow _, h.waiting⟩
  | recurse => exact ⟨builder.level.oneFlag_grow _, h.waiting⟩
  | raise => exact ⟨builder.level.oneFlag_raise, h.waiting⟩
  | nest =>
    -- the level keeps its flags while it waits
    refine ⟨FlaggedLevel.oneFlag_start _, List.forall_mem_cons.mpr ⟨?_, h.waiting⟩⟩
    exact h.innermost
  | hue _ => exact ⟨h.innermost, h.waiting⟩
  | lighten => exact ⟨h.innermost, h.waiting⟩
  | modeShift => exact h
  | modeReset => exact h

/-- **No unit leaves a level with both flags set.** -/
theorem OneFlag.step (h : builder.OneFlag) (unit : Lexeme) : (builder.step unit).OneFlag := by
  rcases unit with _ | command | char
  · exact ⟨h.close.innermost, h.close.waiting⟩
  · have hact := h.act command
    by_cases hraise : command = .raise
    · subst hraise
      exact hact
    · rw [step_command hraise]
      exact ⟨hact.innermost, hact.waiting⟩
  · exact h

/-! ### The same run -/

/-- A close does the same to both. -/
theorem OneFlag.plain_close (h : builder.OneFlag) :
    (builder.step .close).plain = builder.plain.step .close := by
  obtain ⟨level, _ | ⟨waiting, outer⟩⟩ := builder
  · rfl
  · have hattach := (List.forall_mem_cons.mp h.waiting).1.plain_attach waiting.color level.finish
    exact congrArg (Builder.mk · (outer.map FlaggedSuspended.plain)) hattach

/-- A unit does the same to both, as long as no level has both flags set. -/
theorem OneFlag.plain_step (h : builder.OneFlag) (unit : Lexeme) :
    (builder.step unit).plain = builder.plain.step unit := by
  rcases unit with _ | command | char
  · exact h.plain_close
  · cases command with
    | raise =>
      exact congrArg (Builder.mk · (builder.outer.map FlaggedSuspended.plain))
        builder.level.plain_raise
    | _ => rfl
  · rfl

/-- **A run does the same to both.** -/
theorem OneFlag.run (h : builder.OneFlag) (units : List Lexeme) :
    (builder.run units).OneFlag ∧ (builder.run units).plain = builder.plain.run units := by
  induction units generalizing builder with
  | nil => exact ⟨h, rfl⟩
  | cons unit units ih =>
      obtain ⟨hrun, hplain⟩ := ih (h.step unit)
      rw [h.plain_step] at hplain
      exact ⟨hrun, hplain⟩

end FlaggedBuilder

/-! ### Levels at all positions -/

namespace Builder

/-- All levels of a sound builder are sound, and all but the outermost one are inner ones. -/
theorem Sound.levels {builder : Builder} (h : builder.Sound) :
    (∀ level ∈ builder.levels, level.Sound) ∧ ∀ level ∈ builder.levels.tail, level.Inner := by
  obtain ⟨level, outer⟩ := builder
  induction outer generalizing level with
  | nil =>
      constructor
      · intro other hother
        obtain rfl := List.mem_singleton.mp hother
        exact h
      · intro other hother
        exact absurd hother List.not_mem_nil
  | cons waiting outer ih =>
      obtain ⟨hsound, hinner, hwaiting⟩ := h
      obtain ⟨hsounds, hinners⟩ := ih waiting.level hwaiting
      have hne : (⟨waiting.level, outer⟩ : Builder).levels ≠ [] := by simp [Builder.levels]
      rw [levels_cons, List.tail_append_of_ne_nil hne]
      simp only [List.forall_mem_append, List.forall_mem_singleton]
      exact ⟨⟨hsounds, hsound⟩, hinners, hinner⟩

end Builder

/-- All levels on the stack have counters that fit 32 bits, if the program is short enough. -/
theorem countersFit_of_mem_levels {program : List Char} (ink : Ink)
    (h : program.length < 2 ^ 32 - 1) {k : Nat} (hk : k ≤ (lexemes program).length) {level : Level}
    (hlevel : level ∈ (reached (lexemes program) ink k).levels) : level.CountersFit := by
  -- the missing closes come behind all positions of the units
  have hreached : reached (lexemes program) ink k = reached (closedUnits program) ink k := by
    rw [reached, reached, closedUnits, List.take_append_of_le_length hk]
  have hclosed : k ≤ (closedUnits program).length := by
    rw [closedUnits, List.length_append]
    exact Nat.le_trans hk (Nat.le_add_right _ _)
  rw [hreached] at hlevel
  obtain ⟨j, hjk, hj⟩ := mem_levels_reached ink hclosed hlevel
  have hfit := countersFit_reached ink h (Nat.le_trans hjk hclosed)
  rcases hj with rfl | rfl
  · exact hfit
  · exact ⟨hfit.weights, hfit.pending, hfit.raiseRun, hfit.nextHeight⟩

/-- The builder with flags at a position of a program. -/
def reachedFlagged (units : List Lexeme) (ink : Ink) (k : Nat) : FlaggedBuilder :=
  (FlaggedBuilder.start ink).run (units.take k)

/-- At no position a level has both flags set. -/
theorem oneFlag_reachedFlagged (units : List Lexeme) (ink : Ink) (k : Nat) :
    (reachedFlagged units ink k).OneFlag :=
  ((FlaggedBuilder.oneFlag_start ink).run (units.take k)).1

/-- At every position it is the builder without flags that is reached. -/
theorem plain_reachedFlagged (units : List Lexeme) (ink : Ink) (k : Nat) :
    (reachedFlagged units ink k).plain = reached units ink k :=
  ((FlaggedBuilder.oneFlag_start ink).run (units.take k)).2

/-- What is reached is sound. -/
theorem sound_reachedFlagged (units : List Lexeme) (ink : Ink) (k : Nat) :
    (reachedFlagged units ink k).plain.Sound := by
  rw [plain_reachedFlagged]
  exact (Builder.sound_start ink).run (units.take k)

/-! ### All of it -/

namespace FlaggedLevel

variable {level : FlaggedLevel}

/-- What every level keeps. -/
structure Kept (level : FlaggedLevel) : Prop where
  /-- The rows that are done have a height, and cells of some width. -/
  done : ∀ row ∈ level.done, row.Solid
  /-- So has the open row. -/
  openRow : ∀ row, level.openRow = some row → row.close.Solid
  /-- The next row will have a height. -/
  nextHeight : 1 ≤ level.nextHeight
  /-- After a growth nothing is pending, and the newest cell of the open row is there to take a
  grid. -/
  grown : level.afterGrowth → level.pending = 0 ∧
    ∃ row newest older, level.openRow = some row ∧ row.cells = newest :: older ∧
      ∀ color grid, (level.attach color grid).openRow =
        some { row with cells := { newest with color, nested := some grid } :: older }
  /-- At most one flag is set. -/
  oneFlag : ¬(level.afterBreak ∧ level.afterGrowth)
  /-- The raises of the run that is being read are pending. -/
  raiseRun : level.raiseRun ≤ level.pending

/-- What a level keeps on top of that while it is not the outermost one. -/
structure KeptInside (level : FlaggedLevel) : Prop where
  /-- After a break no row is open. -/
  broke : level.afterBreak → level.openRow = none
  /-- Pending raises have made the open row taller. -/
  raised : ∀ row, level.openRow = some row → 0 < level.pending → 2 ≤ row.height

/-- With one flag at most, a level keeps what it keeps without flags. -/
theorem OneFlag.kept (h : level.OneFlag) (hsound : level.plain.Sound) : level.Kept where
  done row hrow := hsound.rows row (Level.mem_allRows_of_done hrow)
  openRow row hrow := hsound.openRow hrow
  nextHeight := hsound.nextHeight
  grown := by
    intro hgrown
    obtain ⟨hopen, hpending⟩ := hsound.grew (h.lastMove_eq_grew_iff.mpr hgrown)
    refine ⟨hpending, ?_⟩
    obtain ⟨row, hrow⟩ := Option.ne_none_iff_exists'.mp hopen
    have hcells : row.cells ≠ [] := by
      simpa [OpenRow.close] using (hsound.openRow hrow).cells_ne_nil
    obtain ⟨newest, older, hcells⟩ := List.exists_cons_of_ne_nil hcells
    refine ⟨row, newest, older, hrow, hcells, ?_⟩
    intro color grid
    have hcurrent : level.currentRow = row := Level.currentRow_of_some hrow
    simp only [attach, hcurrent, hcells, hgrown, if_true]
  oneFlag := h
  raiseRun := hsound.raiseRun

/-- What an inner level keeps without flags, it keeps with them. -/
theorem keptInside (hinner : level.plain.Inner) : level.KeptInside where
  broke := by
    intro hbreak
    exact hinner.broke (lastMove_eq_broke_iff.mpr hbreak)
  raised row hrow hpending := hinner.raised row hrow (Nat.ne_of_gt hpending)

end FlaggedLevel

/-- What it means that the levels of a program keep their shape. Positions are those in its units,
and the levels are those with flags, outermost first. -/
structure LevelsKeep (program : List Char) (ink : Ink) : Prop where
  /-- They are the levels that the scan of the program works on. -/
  plain : ∀ k, (reachedFlagged (lexemes program) ink k).plain = reached (lexemes program) ink k
  /-- What every level keeps. -/
  all : ∀ k, ∀ level ∈ (reachedFlagged (lexemes program) ink k).levels, level.Kept
  /-- What all but the outermost level keep. -/
  inside : ∀ k, ∀ level ∈ (reachedFlagged (lexemes program) ink k).levels.tail, level.KeptInside
  /-- The flag for a growth is set on the innermost level when there is a growth before the
  position on its level, and no `B`, `p` or `S` since. -/
  grown : ∀ k ≤ (lexemes program).length,
    (reachedFlagged (lexemes program) ink k).level.afterGrowth ↔ FollowsGrowth (lexemes program) k
  /-- On a text of fewer than 2³² - 1 characters, no counter leaves 32 bits. -/
  counters : program.length < 2 ^ 32 - 1 → ∀ k ≤ (lexemes program).length,
    ∀ level ∈ (reachedFlagged (lexemes program) ink k).levels, level.plain.CountersFit

/-- **Levels keep their shape, whatever the program.** -/
theorem levels_keep (program : List Char) (ink : Ink) : LevelsKeep program ink where
  plain := plain_reachedFlagged (lexemes program) ink
  all := by
    intro k level hlevel
    have hone := (oneFlag_reachedFlagged (lexemes program) ink k).of_mem_levels hlevel
    have hsound := (sound_reachedFlagged (lexemes program) ink k).levels.1
    rw [FlaggedBuilder.levels_plain] at hsound
    exact hone.kept (hsound _ (List.mem_map_of_mem hlevel))
  inside := by
    intro k level hlevel
    have hinner := (sound_reachedFlagged (lexemes program) ink k).levels.2
    rw [FlaggedBuilder.levels_plain, ← List.map_tail] at hinner
    exact FlaggedLevel.keptInside (hinner _ (List.mem_map_of_mem hlevel))
  grown := by
    intro k hk
    have hone := (oneFlag_reachedFlagged (lexemes program) ink k).innermost
    rw [← hone.lastMove_eq_grew_iff, ← lastMove_reached_eq_grew_iff ink hk,
      ← plain_reachedFlagged]
    rfl
  counters := by
    intro hlength k hk level hlevel
    have hmem : level.plain ∈ (reached (lexemes program) ink k).levels := by
      rw [← plain_reachedFlagged, FlaggedBuilder.levels_plain]
      exact List.mem_map_of_mem hlevel
    exact countersFit_of_mem_levels ink hlength hk hmem

/-- The outermost level waits with its flag for a growth still set, and in the nested one two raises
are pending on an open row. -/
theorem levels_keep_openRows :
    let program := "bBBpbSbpp".toList
    let builder := reachedFlagged (lexemes program) {} 8
    builder.levels.map (fun level => (level.afterBreak, level.afterGrowth, level.pending)) =
        [(false, true, 0), (false, false, 2)] ∧
      builder.levels.tail.map (fun level => level.openRow.map OpenRow.height) = [some 3] ∧
      (∀ level ∈ builder.levels, level.Kept ∧ level.plain.CountersFit) ∧
      ∀ level ∈ builder.levels.tail, level.KeptInside := by
  intro program builder
  have hkeep := levels_keep program {}
  refine ⟨by decide, by decide, ?_, hkeep.inside 8⟩
  intro level hlevel
  exact ⟨hkeep.all 8 level hlevel, hkeep.counters (by decide) 8 (by decide) level hlevel⟩

end Slab
