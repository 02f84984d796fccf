import Mathlib.Data.List.Induction
import Slab.Proofs.Flat
import Slab.Proofs.Openers

/-!
# Heights

A raise asks for a height that is greater by one than the run of raises that it ends, and a level
only knows of raises that follow each other in the program (`raiseRun_reached`): characters that
mean nothing do not end a run, every other command does, and so does a bracket. So no row of any
level gets higher than the longest run of raises in the program says (`low_reached`). Raises that
are pending have been read, so they are within the number of raises (`pending_reached_le`).
-/

namespace Slab

/-! ### Commands of units -/

/-- The commands that a unit is made of. -/
def Lexeme.commands : Lexeme → List Command
  | .close => [.breakRow, .breakRow]
  | .command letter => [letter]
  | .noise _ => []

/-- The commands that some units are made of. -/
def commandsOf (units : List Lexeme) : List Command :=
  units.flatMap Lexeme.commands

/-- The units of a text are made of its commands. -/
theorem commandsOf_lexemes (text : List Char) : commandsOf (lexemes text) = commands text := by
  unfold commandsOf commands
  induction text using unit_induction with
  | nil => rfl
  | pair rest ih =>
      rw [lexemes_pair, List.flatMap_cons, ih]
      rfl
  | single c rest hB ih =>
      rw [lexemes_single hB, List.flatMap_cons, ih, List.filterMap_cons, Lexeme.ofChar]
      rcases Command.ofChar? c with _ | command
      · rfl
      · rfl

/-- No commands stand between a unit and those before it. -/
theorem commandsOf_take_succ {units : List Lexeme} {unit : Lexeme} {k : Nat}
    (h : units[k]? = some unit) :
    commandsOf (units.take (k + 1)) = commandsOf (units.take k) ++ unit.commands := by
  unfold commandsOf
  rw [List.take_add_one, h, List.flatMap_append, Option.toList_some, List.flatMap_singleton]

/-! ### Runs of raises -/

/-- The last run is one of the runs. -/
theorem lastRun_le_longestRun (commands : List Command) : lastRun commands ≤ longestRun commands := by
  induction commands using List.reverseRecOn with
  | nil => exact Nat.le_refl _
  | append_singleton commands command ih =>
      by_cases h : command = .raise
      · obtain ⟨hlast, hlongest⟩ := runs_concat_raise commands
        rw [h, hlast, hlongest]
        exact Nat.le_max_right _ _
      · rw [(runs_concat_of_ne commands h).1]
        exact Nat.zero_le _

/-- Commands whose last one is not a raise do not end in a run of raises. -/
theorem lastRun_eq_zero {commands : List Command} (h : commands.getLast? ≠ some .raise) :
    lastRun commands = 0 := by
  induction commands using List.reverseRecOn with
  | nil => rfl
  | append_singleton commands command _ =>
      rw [List.getLast?_concat] at h
      exact (runs_concat_of_ne commands fun hraise => h (congrArg some hraise)).1

/-- More commands make no run shorter. -/
theorem longestRun_le_append (commands more : List Command) :
    longestRun commands ≤ longestRun (commands ++ more) := by
  induction more using List.reverseRecOn with
  | nil => exact Nat.le_of_eq (by rw [List.append_nil])
  | append_singleton more command ih =>
      rw [← List.append_assoc]
      refine Nat.le_trans ih ?_
      by_cases h : command = .raise
      · rw [h, (runs_concat_raise _).2]
        exact Nat.le_max_left _ _
      · exact Nat.le_of_eq (runs_concat_of_ne _ h).2.symm

/-- A run of raises is no longer than all commands together. -/
theorem longestRun_le_length (commands : List Command) : longestRun commands ≤ commands.length := by
  induction commands using List.reverseRecOn with
  | nil => exact Nat.le_refl _
  | append_singleton commands command ih =>
      rw [List.length_append, List.length_singleton]
      by_cases h : command = .raise
      · have hlast := lastRun_le_longestRun commands
        rw [h, (runs_concat_raise commands).2]
        omega
      · rw [(runs_concat_of_ne commands h).2]
        omega

/-- Row breaks behind some commands do not raise anything. -/
theorem longestRun_append_breaks (commands : List Command) (n : Nat) :
    longestRun (commands ++ List.replicate n .breakRow) = longestRun commands := by
  induction n with
  | zero => rw [List.replicate_zero, List.append_nil]
  | succ n ih =>
      rw [List.replicate_succ', ← List.append_assoc, (runs_concat_of_ne _ (by decide)).2, ih]

variable {units : List Lexeme} {ink : Ink} {k n : Nat}

/-- The commands before a position have no longer run than all commands. -/
theorem longestRun_take_le (units : List Lexeme) (k : Nat) :
    longestRun (commandsOf (units.take k)) ≤ longestRun (commandsOf units) := by
  have hle := longestRun_le_append (commandsOf (units.take k)) (commandsOf (units.drop k))
  rwa [commandsOf, commandsOf, ← List.flatMap_append, List.take_append_drop] at hle

/-- A raise is counted in the run and among those that are pending. -/
theorem Level.raise_counts (level : Level) :
    level.raise.raiseRun = level.raiseRun + 1 ∧ level.raise.pending = level.pending + 1 := by
  rcases level.raise_cases with ⟨row, -, -, hraise⟩ | ⟨-, hraise⟩
  · rw [hraise]
    exact ⟨rfl, rfl⟩
  · rw [hraise]
    exact ⟨rfl, rfl⟩

/-- The run of raises that a level counts is the one that has just been read. -/
theorem raiseRun_reached (ink : Ink) (hk : k ≤ units.length) :
    (reached units ink k).level.raiseRun = lastRun (commandsOf (units.take k)) := by
  induction k, hk using position_induction with
  | start => rfl
  | nest k _ h _ =>
      rw [reached_level_nest h, commandsOf_take_succ h, Lexeme.commands,
        (runs_concat_of_ne _ (by decide)).1]
      rfl
  | close k s rest _ _ h hopen _ _ =>
      have hbreaks : Lexeme.close.commands = [.breakRow] ++ [.breakRow] := rfl
      rw [reached_level_close h hopen, commandsOf_take_succ h, hbreaks, ← List.append_assoc,
        (runs_concat_of_ne _ (by decide)).1]
      rfl
  | other k unit _ h hnest hstray ih =>
      rw [reached_level_other h hnest hstray, commandsOf_take_succ h]
      rcases unit with _ | command | char
      · have hbreaks : Lexeme.close.commands = [.breakRow] ++ [.breakRow] := rfl
        rw [hbreaks, ← List.append_assoc, (runs_concat_of_ne _ (by decide)).1]
        rfl
      · by_cases hraise : command = .raise
        · subst hraise
          rw [Lexeme.commands, (runs_concat_raise _).1, ← ih]
          exact (Level.raise_counts _).1
        · rw [Lexeme.commands, (runs_concat_of_ne _ hraise).1]
          cases command with
          | raise => exact absurd rfl hraise
          | nest => exact absurd rfl hnest
          | _ => rfl
      · rw [Lexeme.commands, List.append_nil]
        exact ih

/-! ### Bounded heights -/

/-- No row of the grid, nor of a grid inside it, is higher than the bound. -/
def Grid.Low (n : Nat) (grid : Grid) : Prop :=
  grid.Everywhere fun part => ∀ row ∈ part.rows, row.height ≤ n

namespace Level

/-- No row of the level is higher than the bound, and the next one will not be. -/
structure Low (n : Nat) (level : Level) : Prop where
  /-- The rows of the level. -/
  rows : ∀ row ∈ level.allRows, row.height ≤ n
  /-- The rows of the grids in its cells. -/
  held : ∀ inner, level.finish.Holds inner → inner.Low n
  /-- The height that the next row is opened with. -/
  nextHeight : level.nextHeight ≤ n

variable {level : Level}

/-- A level starts without rows. -/
theorem low_start (ink : Ink) (hn : 1 ≤ n) : (Level.start ink).Low n where
  rows _ hrow := absurd hrow List.not_mem_nil
  held _ hinner := absurd hinner List.not_mem_nil
  nextHeight := hn

/-- The grid of a level has the bound of the level. -/
theorem Low.finish (h : level.Low n) : level.finish.Low n := by
  refine Grid.everywhere_iff.mpr ⟨?_, h.held⟩
  intro row hrow
  exact h.rows row (List.mem_reverse.mp hrow)

/-- The current row has the bound of the level. -/
theorem Low.currentRow (h : level.Low n) : level.currentRow.height ≤ n := by
  rcases level.currentRow_cases with hopen | ⟨-, hfresh⟩
  · apply h.rows level.currentRow.close
    rw [allRows_of_some hopen]
    exact List.mem_cons_self
  · rw [hfresh]
    exact h.nextHeight

/-- A growth makes no row higher. -/
theorem Low.grow (h : level.Low n) (color : Option Color) : (level.grow color).Low n where
  rows := forall_allRows_of_openRow h.rows rfl rfl h.currentRow
  held inner hinner := h.held inner (mem_nested_grow.mp hinner)
  nextHeight := h.nextHeight

/-- Nor does placing a grid that is within the bound itself. -/
theorem Low.attach (h : level.Low n) (color : Option Color) {grid : Grid} (hgrid : grid.Low n) :
    (level.attach color grid).Low n where
  rows := forall_allRows_of_openRow h.rows rfl rfl h.currentRow
  held inner hinner := by
    rcases mem_nested_of_attach hinner with rfl | hbefore
    · exact hgrid
    · exact h.held inner hbefore
  nextHeight := h.nextHeight

/-- A raise makes a row as high as its run of raises asks for. -/
theorem Low.raise (h : level.Low n) (hrun : level.raiseRun + 2 ≤ n) : level.raise.Low n := by
  have hheld : ∀ inner, level.raise.finish.Holds inner → inner.Low n :=
    fun inner hinner => h.held inner (mem_nested_raise.mp hinner)
  rcases level.raise_cases with ⟨row, hopen, -, hraise⟩ | ⟨-, hraise⟩
  · have hheight := h.currentRow
    rw [currentRow_of_some hopen] at hheight
    rw [hraise] at hheld ⊢
    refine ⟨?_, hheld, h.nextHeight⟩
    exact forall_allRows_of_openRow h.rows rfl rfl (Nat.max_le.mpr ⟨hheight, hrun⟩)
  · rw [hraise] at hheld ⊢
    exact ⟨h.rows, hheld, Nat.max_le.mpr ⟨h.nextHeight, hrun⟩⟩

/-- All units keep the bound, raises as long as their run allows. -/
theorem Low.take (h : level.Low n) (hn : 1 ≤ n) {unit : Lexeme}
    (hrun : unit = .command .raise → level.raiseRun + 2 ≤ n) : (level.take unit).Low n := by
  rcases unit with _ | command | char
  · exact ⟨h.rows, h.held, hn⟩
  · cases command with
    | breakRow => exact ⟨h.rows, h.held, hn⟩
    | grow => exact h.grow _
    | recurse => exact h.grow _
    | raise => exact h.raise (hrun rfl)
    | _ => exact ⟨h.rows, h.held, h.nextHeight⟩
  · exact h

end Level

/-- No level has a row that is higher than the longest run of raises asks for. -/
theorem low_reached (ink : Ink) (hn : 1 + longestRun (commandsOf units) ≤ n)
    (hk : k ≤ units.length) : (reached units ink k).level.Low n := by
  have hone : 1 ≤ n := by omega
  induction k, hk using position_induction with
  | start => exact Level.low_start ink hone
  | nest k _ h _ =>
      rw [reached_level_nest h]
      exact Level.low_start _ hone
  | close k s rest _ _ h hopen ihs ihk =>
      have hsuspend : (reached units ink s).level.suspend.Low n :=
        ⟨ihs.rows, ihs.held, ihs.nextHeight⟩
      rw [reached_level_close h hopen]
      exact hsuspend.attach _ ihk.finish
  | other k unit hk h hnest hstray ih =>
      rw [reached_level_other h hnest hstray]
      refine ih.take hone ?_
      rintro rfl
      have hwith := longestRun_take_le units (k + 1)
      rw [commandsOf_take_succ h, Lexeme.commands, (runs_concat_raise _).2] at hwith
      rw [raiseRun_reached ink (Nat.le_of_lt hk)]
      omega

/-- The raises that are pending on a level are among those that have been read. -/
theorem pending_reached_le (ink : Ink) (hk : k ≤ units.length) :
    (reached units ink k).level.pending ≤ (units.take k).count (.command .raise) := by
  induction k, hk using position_induction with
  | start => exact Nat.le_refl _
  | nest k _ h _ =>
      rw [reached_level_nest h]
      exact Nat.zero_le _
  | close k s rest _ _ h hopen _ _ =>
      rw [reached_level_close h hopen]
      exact Nat.zero_le _
  | other k unit _ h hnest hstray ih =>
      rw [reached_level_other h hnest hstray, List.take_add_one, h, List.count_append,
        Option.toList_some]
      by_cases hraise : unit = .command .raise
      · subst hraise
        have hpending := (reached units ink k).level.raise_counts.2
        rw [List.count_singleton_self]
        exact Nat.le_trans (Nat.le_of_eq hpending) (Nat.succ_le_succ ih)
      · refine Nat.le_trans ?_ (Nat.le_trans ih (Nat.le_add_right _ _))
        rcases unit with _ | command | char
        · exact Nat.le_refl _
        · cases command with
          | raise => exact absurd rfl hraise
          | grow => exact Nat.zero_le _
          | recurse => exact Nat.zero_le _
          | breakRow => exact Nat.zero_le _
          | _ => exact Nat.le_refl _
        · exact Nat.le_refl _

end Slab
