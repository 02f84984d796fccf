import Slab.Proofs.Depth
import Slab.Proofs.Moves
import Slab.Proofs.Openers
import Slab.Proofs.Tally

/-!
# How deep a program can get

`mostOpen` is the largest number of nested programs that are open at a time. A grid that is placed
on a level comes from one level further in, so it is at most as deep as programs are open below the
place where it goes: what a level holds and what is open around it are together within `mostOpen`
all along (`depth_add_length_openers_le`). So the grid of a program is at most one deeper than that
(`depth_scan_le`). It need not be as deep: a grid may be replaced later, and a nested program may
place nothing.
-/

namespace Slab

/-! ### The peak of a tally -/

namespace Tally

/-- The largest number of programs open at a time, from a tally on. -/
def peak (tally : Tally) : List Lexeme → Nat
  | [] => tally.opened
  | unit :: units => max tally.opened ((tally.count unit).peak units)

/-- The peak is now or later. -/
@[simp] theorem peak_cons (tally : Tally) (unit : Lexeme) (units : List Lexeme) :
    tally.peak (unit :: units) = max tally.opened ((tally.count unit).peak units) := rfl

/-- What is open at first is within the peak. -/
theorem opened_le_peak (tally : Tally) (units : List Lexeme) : tally.opened ≤ tally.peak units := by
  cases units with
  | nil => exact Nat.le_refl _
  | cons unit units => exact Nat.le_max_left _ _

/-- The peak of units in two parts is in the one or in the other. -/
theorem peak_append (tally : Tally) (units more : List Lexeme) :
    tally.peak (units ++ more) = max (tally.peak units) ((tally.countAll units).peak more) := by
  induction units generalizing tally with
  | nil => exact (Nat.max_eq_right (opened_le_peak tally more)).symm
  | cons unit units ih => rw [List.cons_append, peak_cons, ih, peak_cons, countAll_cons,
      Nat.max_assoc]

/-- What is open between the units is within the peak. -/
theorem opened_countAll_take_le_peak (tally : Tally) (units : List Lexeme) (k : Nat) :
    (tally.countAll (units.take k)).opened ≤ tally.peak units := by
  have hparts := peak_append tally (units.take k) (units.drop k)
  rw [List.take_append_drop] at hparts
  rw [hparts]
  exact Nat.le_trans (opened_le_peak _ _) (Nat.le_max_right _ _)

/-- Closes do not raise the peak. -/
theorem peak_replicate_close (tally : Tally) (n : Nat) :
    tally.peak (List.replicate n .close) = tally.opened := by
  induction n generalizing tally with
  | zero => rfl
  | succ n ih =>
      rw [List.replicate_succ, peak_cons, ih]
      exact Nat.max_eq_left (Nat.sub_le _ _)

end Tally

/-- The largest number of nested programs of a program that are open at a time. -/
def mostOpen (program : List Char) : Nat :=
  ({} : Tally).peak (lexemes program)

/-! ### What a level holds -/

/-- No unit but a close brings in or takes away a grid. -/
theorem Level.mem_nested_take {level : Level} {unit : Lexeme} {grid : Grid} :
    grid ∈ (level.take unit).finish.nested ↔ grid ∈ level.finish.nested := by
  rcases unit with _ | command | char
  · exact Iff.rfl
  · cases command with
    | grow => exact mem_nested_grow
    | recurse => exact mem_nested_grow
    | raise => exact mem_nested_raise
    | _ => exact Iff.rfl
  · exact Iff.rfl

/-- A finished level is at most one deeper than the grids that it holds. -/
theorem Level.depth_finish_le {level : Level} {d : Nat}
    (h : ∀ grid ∈ level.finish.nested, grid.depth ≤ d) : level.finish.depth ≤ d + 1 := by
  by_cases hempty : level.finish.isEmpty
  · rw [Grid.depth_of_isEmpty hempty]
    exact Nat.zero_le _
  · rw [Grid.depth_of_not_isEmpty hempty]
    exact Nat.succ_le_succ (Grid.maxDepth_le_iff.mpr h)

variable {units : List Lexeme} {k : Nat}

/-- What is open at a position is within the peak. -/
theorem length_openers_le_peak (hk : k ≤ units.length) :
    (openers units k).length ≤ ({} : Tally).peak units := by
  have houter := congrArg List.length (reached_outer {} hk)
  rw [List.length_map] at houter
  rw [← houter]
  refine Nat.le_trans (Nat.le_of_eq ?_) (Tally.opened_countAll_take_le_peak {} units k)
  exact Builder.outer_length_run (.start {}) (units.take k)

/-- What a level holds is at most as deep as more programs may be open than are open around it. -/
theorem depth_add_length_openers_le (ink : Ink) (hk : k ≤ units.length) :
    ∀ grid ∈ (reached units ink k).level.finish.nested,
      grid.depth + (openers units k).length ≤ ({} : Tally).peak units := by
  induction k, hk using position_induction with
  | start =>
      intro grid hgrid
      exact absurd hgrid List.not_mem_nil
  | nest k _ h _ =>
      intro grid hgrid
      rw [reached_level_nest h] at hgrid
      exact absurd hgrid List.not_mem_nil
  | close k s rest hk hs h hopen ihs ih =>
      intro grid hgrid
      have hpeak := length_openers_le_peak (Nat.le_of_lt hk)
      rw [reached_level_close h hopen] at hgrid
      rw [(openers_cons hopen).1] at ihs
      rw [hopen, List.length_cons] at ih hpeak
      rw [openers_close h, hopen, List.tail_cons]
      rcases Level.mem_nested_of_attach hgrid with rfl | hbefore
      · have hdepth : (reached units ink k).level.finish.depth ≤
            ({} : Tally).peak units - (rest.length + 1) + 1 := by
          apply Level.depth_finish_le
          intro inner hinner
          have := ih inner hinner
          omega
        omega
      · exact ihs grid hbefore
  | other k unit hk h hnest hstray ih =>
      intro grid hgrid
      rw [reached_level_other h hnest hstray, Level.mem_nested_take] at hgrid
      rw [openers_of_stray (by simpa [h] using hnest) (by simpa [h] using hstray)]
      exact ih grid hgrid

/-- The closes that are missing at the end of a program do not raise the peak. -/
theorem peak_closedUnits (program : List Char) :
    ({} : Tally).peak (closedUnits program) = mostOpen program := by
  have hlast := Tally.opened_countAll_take_le_peak {} (lexemes program) (lexemes program).length
  rw [List.take_length] at hlast
  rw [closedUnits, Tally.peak_append, Tally.peak_replicate_close]
  exact Nat.max_eq_left hlast

/-- The grid of a program is at most one deeper than programs are open at a time. -/
theorem depth_scan_le (program : List Char) (ink : Ink) :
    (scan program ink).depth ≤ mostOpen program + 1 := by
  rw [scan_eq_reached, ← peak_closedUnits]
  apply Level.depth_finish_le
  intro grid hgrid
  exact Nat.le_trans (Nat.le_add_right _ _)
    (depth_add_length_openers_le ink (Nat.le_refl _) grid hgrid)

end Slab
