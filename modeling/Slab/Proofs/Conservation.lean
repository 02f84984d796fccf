import Slab.Proofs.Appending
import Slab.Proofs.Peak
import Slab.Proofs.Scoping
import Slab.Proofs.Soundness
import Slab.Proofs.Weights

/-!
# No growth is lost

The widths of a level add up to the growths that were carried out on it and the nested programs
whose grid was given a cell of its own there (`width_reached`). A nested program gets such a cell
unless its `S` comes after a growth (`FollowsGrowth`), for then the cell of that growth takes the
grid (`cells_reached_close`). Every grid inside another is what some level was at the close of its
program (`inside_reached`), so the law is one of all grids in the tree.

**`growthConserved`** puts this together with the bounds that it implies: all widths of the tree are
within the number of growths and `S`s in the program, no height is above what its longest run of
raises asks for, and so no counter of any level gets to 2³² on a text of fewer than 2³² - 1
characters.
-/

namespace Slab

variable {units : List Lexeme} {ink : Ink} {k s n : Nat} {rest : List Nat}

/-! ### Counting on one level -/

/-- The positions of some kind before a given one that are on the level with the given openers. -/
def countOn (units : List Lexeme) (opened : List Nat) (kind : Nat → Prop) [DecidablePred kind]
    (k : Nat) : Nat :=
  (List.range k).countP fun j => openers units j = opened ∧ kind j

section Counting

variable {kind : Nat → Prop} [DecidablePred kind]

/-- A position counts on its own level. -/
theorem countOn_succ (units : List Lexeme) (k : Nat) :
    countOn units (openers units k) kind (k + 1) =
      countOn units (openers units k) kind k + if kind k then 1 else 0 := by
  unfold countOn
  rw [List.range_succ, List.countP_append, List.countP_singleton]
  simp

/-- On a level that has just begun nothing counts yet. -/
theorem countOn_nest (units : List Lexeme) (opened : List Nat) (k : Nat) :
    countOn units (k :: opened) kind (k + 1) = 0 := by
  unfold countOn
  rw [List.countP_eq_zero]
  intro j hj
  have hnot : k ∉ openers units j := notMem_openers (Nat.le_of_lt_succ (List.mem_range.mp hj))
  rw [decide_eq_true_eq]
  rintro ⟨hopen, -⟩
  exact hnot (hopen ▸ List.mem_cons_self)

/-- Behind a program that has ended, what counts around it is what did before it, and its `S`. -/
theorem countOn_close (hopen : openers units k = s :: rest) :
    countOn units rest kind (k + 1) = countOn units rest kind s + if kind s then 1 else 0 := by
  have hinside : (List.range' (s + 1) (k - s)).countP
      (fun j => openers units j = rest ∧ kind j) = 0 := by
    rw [List.countP_eq_zero]
    intro j hj
    rw [decide_eq_true_eq]
    rintro ⟨heq, -⟩
    exact notMem_of_openers_cons hopen (heq ▸ mem_openers_of_mem_range' hopen hj)
  unfold countOn
  rw [range_succ_eq_append (lt_of_openers_cons hopen), List.countP_append, List.countP_cons,
    hinside, Nat.zero_add]
  simp [(openers_cons hopen).1]

end Counting

/-- The unit at the position grows. -/
def GrowsAt (units : List Lexeme) (j : Nat) : Prop :=
  ∃ unit ∈ units[j]?, unit.IsGrowth

instance (units : List Lexeme) : DecidablePred (GrowsAt units) :=
  fun j => inferInstanceAs (Decidable (∃ unit ∈ units[j]?, unit.IsGrowth))

instance (units : List Lexeme) : DecidablePred (FollowsGrowth units) := fun k =>
  decidable_of_iff
    (∃ g < k, GrowsAt units g ∧ openers units g = openers units k ∧
      ∀ j < k, g < j → ∀ unit ∈ units[j]?, ¬unit.Interrupts)
    ⟨fun ⟨g, hg, hgrows, hlevel, hbetween⟩ =>
        ⟨g, hg, hgrows, hlevel, fun j hgj hjk => hbetween j hjk hgj⟩,
      fun ⟨g, hg, hgrows, hlevel, hbetween⟩ =>
        ⟨g, hg, hgrows, hlevel, fun j hjk hgj => hbetween j hgj hjk⟩⟩

/-- A program begins at the position, and its grid will be given a cell of its own. -/
def StartsCell (units : List Lexeme) (j : Nat) : Prop :=
  units[j]? = some (.command .nest) ∧ ¬FollowsGrowth units j

instance (units : List Lexeme) : DecidablePred (StartsCell units) :=
  fun j => inferInstanceAs (Decidable (units[j]? = some (.command .nest) ∧ ¬FollowsGrowth units j))

/-! ### The width of a level -/

/-- At every position the levels are sound. -/
theorem sound_reached (units : List Lexeme) (ink : Ink) (k : Nat) :
    (reached units ink k).level.Sound :=
  SoundAbove.sound ((Builder.sound_start ink).run (units.take k))

/-- A cell that was just grown is there. -/
theorem Level.Sound.cells_ne_nil {level : Level} (h : level.Sound) (hgrew : level.lastMove = .grew) :
    level.currentRow.cells ≠ [] := by
  obtain ⟨row, hopen⟩ := Option.ne_none_iff_exists'.mp (h.grew hgrew).1
  have hcells := (h.openRow hopen).cells_ne_nil
  rw [currentRow_of_some hopen]
  simpa [OpenRow.close] using hcells

/-- The close of a program places its grid in the last cell, if the `S` came after a growth, and
else in a new cell. -/
theorem cells_reached_close (ink : Ink) (h : units[k]? = some .close)
    (hopen : openers units k = s :: rest) :
    let before := (reached units ink s).level.finish.cells
    let after := (reached units ink (k + 1)).level.finish.cells
    let color := (reached units ink s).level.ink.color?
    let grid := (reached units ink k).level.finish
    if FollowsGrowth units s then
      ∃ others last, before = others ++ [last] ∧
        after = others ++ [{ last with color, nested := some grid }]
    else after = before ++ [⟨1, color, some grid⟩] := by
  intro before after color grid
  have hk : k < units.length := (List.getElem?_eq_some_iff.mp h).1
  have hs : s ≤ units.length := by
    have := lt_of_openers_cons hopen
    omega
  have hflag := lastMove_reached_eq_grew_iff ink hs
  have hattach := (reached units ink s).level.suspend.cells_attach color grid
  have hafter : after = ((reached units ink s).level.suspend.attach color grid).finish.cells :=
    congrArg (fun level : Level => level.finish.cells) (reached_level_close h hopen)
  rw [← hafter] at hattach
  by_cases hfollows : FollowsGrowth units s
  · rw [if_pos hfollows]
    rcases hattach with ⟨others, last, -, hbefore, hplaced⟩ | ⟨hwhy, -⟩
    · exact ⟨others, last, hbefore, hplaced⟩
    · have hgrew := hflag.mpr hfollows
      exact absurd hwhy (not_or.mpr
        ⟨(sound_reached units ink s).cells_ne_nil hgrew, fun hnot => hnot hgrew⟩)
  · rw [if_neg hfollows]
    rcases hattach with ⟨_, _, hgrew, -, -⟩ | ⟨-, hplaced⟩
    · exact absurd (hflag.mp hgrew) hfollows
    · exact hplaced

/-- The widths of a level are the growths on it and the programs whose grids have cells of their
own there. -/
theorem width_reached (ink : Ink) (hk : k ≤ units.length) :
    (reached units ink k).level.finish.width =
      countOn units (openers units k) (GrowsAt units) k +
        countOn units (openers units k) (StartsCell units) k := by
  induction k, hk using position_induction with
  | start => rfl
  | nest k _ h _ =>
      rw [reached_level_nest h, openers_nest h, countOn_nest, countOn_nest]
      rfl
  | close k s rest _ _ h hopen ih _ =>
      have hnest := (mem_openers (hopen ▸ List.mem_cons_self : s ∈ openers units k)).2
      have hgrows : ¬GrowsAt units s := by
        rintro ⟨unit, hunit, hgrowth⟩
        obtain rfl : unit = .command .nest := Option.some.inj (hunit.symm.trans hnest)
        exact absurd hgrowth (by decide)
      have hstarts : StartsCell units s ↔ ¬FollowsGrowth units s := and_iff_right hnest
      have hplaced := cells_reached_close ink h hopen
      dsimp only at hplaced
      have hwidth : (reached units ink (k + 1)).level.finish.width =
          (reached units ink s).level.finish.width + if StartsCell units s then 1 else 0 := by
        unfold Grid.width Grid.sum
        by_cases hfollows : FollowsGrowth units s
        · rw [if_pos hfollows] at hplaced
          obtain ⟨others, last, hbefore, hafter⟩ := hplaced
          rw [hafter, hbefore, if_neg (hstarts.not.mpr (not_not.mpr hfollows))]
          simp
        · rw [if_neg hfollows] at hplaced
          rw [hplaced, if_pos (hstarts.mpr hfollows)]
          simp
      rw [hwidth, ih, (openers_cons hopen).1, openers_close h, hopen, List.tail_cons,
        countOn_close hopen, countOn_close hopen, if_neg hgrows, Nat.add_zero, Nat.add_assoc]
  | other k unit _ h hnest hstray ih =>
      have hopen : openers units (k + 1) = openers units k :=
        openers_of_stray (by simpa [h] using hnest) (by simpa [h] using hstray)
      have hgrows : GrowsAt units k ↔ unit = .command .grow ∨ unit = .command .recurse := by
        unfold GrowsAt
        rw [h]
        simp [Lexeme.IsGrowth]
      have hstarts : ¬StartsCell units k := by
        rintro ⟨hunit, -⟩
        rw [h] at hunit
        exact hnest (Option.some.inj hunit)
      have htake := (reached units ink k).level.sum_take Cell.countsWidth_width unit
      rw [reached_level_other h hnest hstray, hopen, countOn_succ, countOn_succ, if_neg hstarts,
        Grid.width, htake, ← Grid.width, ih]
      simp only [hgrows]
      omega

/-- What is true of the grid of every program when it ends is true of all grids inside a level. -/
theorem inside_reached {P : Grid → Prop} (ink : Ink)
    (hP : ∀ e < units.length, units[e]? = some .close → openers units e ≠ [] →
      P (reached units ink e).level.finish) (hk : k ≤ units.length) :
    (reached units ink k).level.finish.Inside P := by
  induction k, hk using position_induction with
  | start => exact Grid.inside_iff.mpr fun inner hinner => absurd hinner List.not_mem_nil
  | nest k _ h _ =>
      rw [reached_level_nest h]
      exact Grid.inside_iff.mpr fun inner hinner => absurd hinner List.not_mem_nil
  | close k s rest hk _ h hopen ihs ihk =>
      rw [reached_level_close h hopen, Grid.inside_iff]
      intro inner hinner
      rcases Level.mem_nested_of_attach hinner with rfl | hbefore
      · exact Grid.everywhere_iff_inside.mpr ⟨hP k hk h (by simp [hopen]), ihk⟩
      · exact Grid.inside_iff.mp ihs inner hbefore
  | other k unit _ h hnest hstray ih =>
      rw [reached_level_other h hnest hstray, Grid.inside_iff]
      intro inner hinner
      exact Grid.inside_iff.mp ih inner (Level.mem_nested_take.mp hinner)

/-- With the closes that are missing, nothing is open at the end of a program. -/
theorem openers_closedUnits (program : List Char) :
    openers (closedUnits program) (closedUnits program).length = [] := by
  have houter := reached_outer {} (Nat.le_refl (closedUnits program).length)
  rw [reached_closedUnits] at houter
  exact List.map_eq_nil_iff.mp houter.symm

/-! ### Counters -/

/-- All numbers that a level keeps fit 32 bits: the weights of its rows, cells and nested grids, the
raises that are pending, the height that the run of raises asks for, and that of the next row. -/
structure Level.CountersFit (level : Level) : Prop where
  /-- The weights. -/
  weights : level.finish.Fits
  /-- The raises that are pending. -/
  pending : level.pending < 2 ^ 32
  /-- The height that the run of raises asks for. -/
  raiseRun : level.raiseRun + 1 < 2 ^ 32
  /-- The height of the next row. -/
  nextHeight : level.nextHeight < 2 ^ 32

/-- The innermost level has no greater counters than the program has characters, and one. -/
theorem countersFit_reached {program : List Char} (ink : Ink) (h : program.length < 2 ^ 32 - 1)
    (hk : k ≤ (closedUnits program).length) :
    (reached (closedUnits program) ink k).level.CountersFit := by
  have hlongest := longestRun_commands_le_length program
  refine ⟨(bounded_reached program ink hk).mono (by omega), ?pending, ?raiseRun, ?nextHeight⟩
  case pending =>
    have hraises : (closedUnits program).count (.command .raise) = program.count 'p' := by
      rw [closedUnits, List.count_append, List.count_replicate, if_neg (by decide), Nat.add_zero]
      exact count_lexemes .raise (by decide) program
    have hpending := pending_reached_le ink hk
    have htake := (List.take_sublist k (closedUnits program)).count_le (.command .raise)
    have hcount : program.count 'p' ≤ program.length := List.count_le_length
    omega
  case raiseRun =>
    have hlast := lastRun_le_longestRun (commandsOf ((closedUnits program).take k))
    have htake := longestRun_take_le (closedUnits program) k
    rw [longestRun_closedUnits] at htake
    rw [raiseRun_reached ink hk]
    omega
  case nextHeight =>
    have hnext := (low_closedUnits program ink hk).nextHeight
    omega

/-- A level on the stack is what the innermost one was at its opener, or that itself. -/
theorem mem_levels_reached {level : Level} (ink : Ink) (hk : k ≤ units.length)
    (h : level ∈ (reached units ink k).levels) :
    ∃ j ≤ k, level = (reached units ink j).level ∨ level = (reached units ink j).level.suspend := by
  rw [Builder.levels, List.mem_append, List.mem_singleton, List.mem_map] at h
  rcases h with ⟨waiting, hwaiting, rfl⟩ | rfl
  · rw [List.mem_reverse, reached_outer ink hk, List.mem_map] at hwaiting
    obtain ⟨s, hs, rfl⟩ := hwaiting
    exact ⟨s, Nat.le_of_lt (mem_openers hs).1, Or.inr rfl⟩
  · exact ⟨k, Nat.le_refl k, Or.inl rfl⟩

/-! ### All of it -/

/-- What it means that no growth of a program is lost. Positions are those in the units of the
program, with the closes that are missing at its end, and `reached` is the builder there. -/
structure GrowthConserved (program : List Char) (ink : Ink) : Prop where
  /-- The widths of the outermost grid are the growths that are carried out while no program is
  open, and the programs opened then whose grids were placed in new cells. -/
  outermost : (scan program ink).width =
    countOn (closedUnits program) [] (GrowsAt (closedUnits program)) (closedUnits program).length +
      countOn (closedUnits program) [] (StartsCell (closedUnits program))
        (closedUnits program).length
  /-- Every grid inside it is that of a program at its close, and its widths are the growths of that
  program itself, and the programs opened by it whose grids were placed in new cells. -/
  inside : (scan program ink).Inside fun part => ∃ e,
    (closedUnits program)[e]? = some .close ∧ openers (closedUnits program) e ≠ [] ∧
      part = (reached (closedUnits program) ink e).level.finish ∧
      part.width =
        countOn (closedUnits program) (openers (closedUnits program) e)
            (GrowsAt (closedUnits program)) e +
          countOn (closedUnits program) (openers (closedUnits program) e)
            (StartsCell (closedUnits program)) e
  /-- The close of a program places its grid in a new cell, or, if the `S` follows a growth, in the
  cell that was there. -/
  placed : ∀ e s rest, (closedUnits program)[e]? = some .close →
    openers (closedUnits program) e = s :: rest →
    let before := (reached (closedUnits program) ink s).level.finish.cells
    let after := (reached (closedUnits program) ink (e + 1)).level.finish.cells
    let color := (reached (closedUnits program) ink s).level.ink.color?
    let grid := (reached (closedUnits program) ink e).level.finish
    if FollowsGrowth (closedUnits program) s then
      ∃ others last, before = others ++ [last] ∧
        after = others ++ [{ last with color, nested := some grid }]
    else after = before ++ [⟨1, color, some grid⟩]
  /-- All widths in the tree are together within the growths and `S`s of the program. -/
  widths : (scan program ink).totalWidth ≤
    program.count 'b' + program.count 'i' + program.count 'S'
  /-- No height in the tree is above what the longest run of raises asks for. -/
  heights : (scan program ink).Low (1 + longestRun (commands program))
  /-- On a text of fewer than 2³² - 1 characters, the counters of all levels fit 32 bits all along. -/
  counters : program.length < 2 ^ 32 - 1 → ∀ k ≤ (closedUnits program).length,
    ∀ level ∈ (reached (closedUnits program) ink k).levels, level.CountersFit

/-- **No growth is lost, and no counter overflows.** -/
theorem growthConserved (program : List Char) (ink : Ink) : GrowthConserved program ink where
  outermost := by
    rw [scan_eq_reached, width_reached ink (Nat.le_refl _), openers_closedUnits]
  inside := by
    rw [scan_eq_reached]
    refine inside_reached ink ?_ (Nat.le_refl _)
    intro e he hclose hopen
    exact ⟨e, hclose, hopen, rfl, width_reached ink (Nat.le_of_lt he)⟩
  placed _ _ _ hclose hopen := cells_reached_close ink hclose hopen
  widths := by
    rw [scan_eq_reached]
    exact Nat.le_trans (Nat.le_add_right _ _) (totalWidth_reached_le program ink _)
  heights := by
    rw [scan_eq_reached]
    exact (low_closedUnits program ink (Nat.le_refl _)).finish
  counters := by
    intro hlength k hk level hlevel
    obtain ⟨j, hjk, hj⟩ := mem_levels_reached ink hk hlevel
    have hfit := countersFit_reached ink hlength (Nat.le_trans hjk hk)
    rcases hj with rfl | rfl
    · exact hfit
    · exact ⟨hfit.weights, hfit.pending, hfit.raiseRun, hfit.nextHeight⟩

/-- The first nested program shares the cell that was grown before it, and the second has one of its
own; so the grid is two wide. -/
theorem growthConserved_sharedCell :
    let program := "bSbBBSppbBB".toList
    countOn (closedUnits program) [] (GrowsAt (closedUnits program)) 9 = 1 ∧
      countOn (closedUnits program) [] (StartsCell (closedUnits program)) 9 = 1 ∧
      (scan program {}).width = 1 + 1 ∧ (scan program {}).totalWidth ≤ 5 ∧
      (scan program {}).Low 3 ∧
      ∀ k ≤ 9, ∀ level ∈ (reached (closedUnits program) {} k).levels, level.CountersFit := by
  intro program
  have hconserved := growthConserved program {}
  have hgrown : countOn (closedUnits program) [] (GrowsAt (closedUnits program)) 9 = 1 := by decide
  have hplaced : countOn (closedUnits program) [] (StartsCell (closedUnits program)) 9 = 1 := by
    decide
  exact ⟨hgrown, hplaced, hconserved.outermost.trans (congrArg₂ (· + ·) hgrown hplaced),
    hconserved.widths.trans (by decide), hconserved.heights, hconserved.counters (by decide)⟩

end Slab
