import Slab.Compile
import Slab.Proofs.Copies
import Slab.Proofs.Heights
import Slab.Proofs.Widths

/-!
# Weights stay small

A grid is `Bounded` by a number if all weights in it, at any depth, are below that. The widths on
the levels of a builder are together within the number of growths and `S`s in the program
(`totalWidth_reached_le`), and the heights within what its longest run of raises asks for
(`low_closedUnits`), so no weight exceeds the number of characters by more than one
(`bounded_reached`, `scan_bounded`). Since expansion only takes place where a program is short, the
weights of a compiled grid fit 32 bits (`Grid.Fits`) unless the program itself has almost that many
characters (`compile_fits`).
-/

namespace Slab

/-! ### Bounds on weights -/

/-- All weights of the grid and of the grids inside it are below a bound. -/
def Grid.Bounded (n : Nat) (grid : Grid) : Prop :=
  grid.Everywhere fun part => ∀ row ∈ part.rows, row.height < n ∧ ∀ cell ∈ row.cells, cell.width < n

/-- The width of the cell and all weights of the grid that it holds are below a bound. -/
def Cell.Bounded (n : Nat) (cell : Cell) : Prop :=
  cell.width < n ∧ ∀ inner, cell.nested = some inner → inner.Bounded n

/-- The height of the row and all weights of its cells are below a bound. -/
def Row.Bounded (n : Nat) (row : Row) : Prop :=
  row.height < n ∧ ∀ cell ∈ row.cells, cell.Bounded n

/-- All weights fit 32 bits. -/
def Grid.Fits (grid : Grid) : Prop :=
  grid.Bounded (2 ^ 32)

variable {n m : Nat}

/-- The weights of a grid are those of its rows. -/
theorem Grid.bounded_iff {grid : Grid} : grid.Bounded n ↔ ∀ row ∈ grid.rows, row.Bounded n := by
  unfold Grid.Bounded
  rw [Grid.everywhere_iff]
  constructor
  · rintro ⟨hweights, hinside⟩ row hrow
    obtain ⟨hheight, hwidths⟩ := hweights row hrow
    refine ⟨hheight, ?_⟩
    intro cell hcell
    refine ⟨hwidths cell hcell, ?_⟩
    intro inner hinner
    exact hinside inner (Grid.holds_iff.mpr ⟨row, hrow, cell, hcell, hinner⟩)
  · intro h
    constructor
    · intro row hrow
      exact ⟨(h row hrow).1, fun cell hcell => ((h row hrow).2 cell hcell).1⟩
    · intro inner hinner
      obtain ⟨row, hrow, cell, hcell, hnested⟩ := Grid.holds_iff.mp hinner
      exact ((h row hrow).2 cell hcell).2 inner hnested

/-- A bound may be raised. -/
theorem Grid.Bounded.mono {grid : Grid} (h : grid.Bounded n) (hle : n ≤ m) : grid.Bounded m := by
  intro part hpart row hrow
  obtain ⟨hheight, hwidths⟩ := h part hpart row hrow
  refine ⟨Nat.lt_of_lt_of_le hheight hle, ?_⟩
  intro cell hcell
  exact Nat.lt_of_lt_of_le (hwidths cell hcell) hle

/-- Bounds on heights and on widths, one for all of them each, bound a grid. -/
theorem Grid.bounded_of {grid : Grid} {height width : Nat} (hheight : grid.Low height)
    (hheightlt : height < n) (hwidth : grid.totalWidth ≤ width) (hwidthlt : width < n) :
    grid.Bounded n := by
  intro part hpart row hrow
  refine ⟨Nat.lt_of_le_of_lt (hheight part hpart row hrow) hheightlt, ?_⟩
  intro cell hcell
  have hmem : cell ∈ part.cells := List.mem_flatMap.mpr ⟨row, hrow, hcell⟩
  have hle := grid.everywhere_width_le_totalWidth part hpart cell hmem
  omega

/-! ### Levels -/

/-- Growths and `S`s are the units that add to widths. -/
theorem countP_addsWidth (units : List Lexeme) :
    units.countP (·.AddsWidth) = units.count (.command .grow) + units.count (.command .recurse) +
      units.count (.command .nest) := by
  induction units with
  | nil => rfl
  | cons unit units ih =>
      rw [List.countP_cons, List.count_cons, List.count_cons, List.count_cons, ih]
      rcases unit with _ | command | char
      · rfl
      · cases command <;> simp [Lexeme.AddsWidth] <;> omega
      · rfl

/-- The closes that are missing at the end of a program add nothing to widths. -/
theorem countP_addsWidth_closedUnits (program : List Char) :
    (closedUnits program).countP (·.AddsWidth) =
      program.count 'b' + program.count 'i' + program.count 'S' := by
  rw [closedUnits, List.countP_append, List.countP_replicate, if_neg (by decide), Nat.add_zero,
    countP_addsWidth, count_lexemes _ (by decide), count_lexemes _ (by decide),
    count_lexemes _ (by decide)]
  rfl

/-- They do not raise anything either. -/
theorem longestRun_closedUnits (program : List Char) :
    longestRun (commandsOf (closedUnits program)) = longestRun (commands program) := by
  have hbreaks : ∀ n, commandsOf (List.replicate n .close) = List.replicate (2 * n) .breakRow := by
    intro n
    induction n with
    | zero => rfl
    | succ n ih =>
        rw [List.replicate_succ, Nat.mul_succ, List.replicate_succ, List.replicate_succ, ← ih]
        rfl
  have hparts : commandsOf (closedUnits program) =
      commandsOf (lexemes program) ++ commandsOf (List.replicate _ .close) := List.flatMap_append
  rw [hparts, hbreaks, longestRun_append_breaks, commandsOf_lexemes]

/-! ### Programs -/

/-- A text has no more units than characters. -/
theorem length_lexemes_le (text : List Char) : (lexemes text).length ≤ text.length := by
  induction text using unit_induction with
  | nil => exact Nat.le_refl 0
  | pair rest ih =>
      rw [lexemes_pair]
      simp only [List.length_cons]
      omega
  | single c rest hB ih =>
      rw [lexemes_single hB]
      exact Nat.succ_le_succ ih

/-- A text has no more growths and `S`s than characters. -/
theorem count_addsWidth_le_length (text : List Char) :
    text.count 'b' + text.count 'i' + text.count 'S' ≤ text.length := by
  rw [← countP_addsWidth_closedUnits, closedUnits, List.countP_append, List.countP_replicate,
    if_neg (by decide), Nat.add_zero]
  exact Nat.le_trans List.countP_le_length (length_lexemes_le text)

/-- A text has no longer run of raises than characters. -/
theorem longestRun_commands_le_length (text : List Char) :
    longestRun (commands text) ≤ text.length :=
  Nat.le_trans (longestRun_le_length _) (List.length_filterMap_le _ _)

/-- At every position the widths of all levels are together within the number of growths and `S`s
in the program. -/
theorem totalWidth_reached_le (program : List Char) (ink : Ink) (k : Nat) :
    (reached (closedUnits program) ink k).totalWidth ≤
      program.count 'b' + program.count 'i' + program.count 'S' := by
  have hrun := (Builder.start ink).totalWidth_run_le ((closedUnits program).take k)
  have hstart : (Builder.start ink).totalWidth = 0 := rfl
  have htake := (List.take_sublist k (closedUnits program)).countP_le (p := (·.AddsWidth))
  rw [countP_addsWidth_closedUnits] at htake
  rw [hstart, Nat.zero_add] at hrun
  exact Nat.le_trans hrun htake

/-- At every position the heights are within what the longest run of raises asks for. -/
theorem low_closedUnits (program : List Char) (ink : Ink) {k : Nat}
    (hk : k ≤ (closedUnits program).length) :
    (reached (closedUnits program) ink k).level.Low (1 + longestRun (commands program)) := by
  refine low_reached ink ?_ hk
  rw [longestRun_closedUnits]

/-- At every position the weights exceed the number of characters by one at most. -/
theorem bounded_reached (program : List Char) (ink : Ink) {k : Nat}
    (hk : k ≤ (closedUnits program).length) :
    (reached (closedUnits program) ink k).level.finish.Bounded (program.length + 2) := by
  have hrun := longestRun_commands_le_length program
  have hcount := count_addsWidth_le_length program
  have hlevel : (reached (closedUnits program) ink k).level.finish.totalWidth ≤ _ :=
    Nat.le_trans (Nat.le_add_right _ _) (totalWidth_reached_le program ink k)
  exact Grid.bounded_of (low_closedUnits program ink hk).finish (by omega) hlevel (by omega)

/-- The weights of a scanned grid exceed the number of characters by one at most. -/
theorem scan_bounded (text : List Char) (ink : Ink) :
    (scan text ink).Bounded (text.length + 2) := by
  rw [scan_eq_reached]
  exact bounded_reached text ink (Nat.le_refl _)

/-- A substitution puts at most the replacement in the place of each character. -/
theorem length_substitute_le (replacement text : List Char) :
    (substitute replacement text).length ≤ text.length * (replacement.length + 1) := by
  induction text with
  | nil => exact Nat.zero_le _
  | cons c text ih =>
      rw [List.length_cons, Nat.succ_mul]
      by_cases hc : c = 'i'
      · rw [hc, substitute_recurse, List.length_append]
        omega
      · rw [substitute_cons_of_ne hc, List.length_cons]
        omega

/-- An expansion is a substitution in a text below the budget, or none at all. -/
theorem length_expandFrom_le (replacement : List Char) (budget rounds : Nat) (text : List Char) :
    (expandFrom replacement budget rounds text).1.length ≤
      max text.length (budget * (replacement.length + 1)) := by
  fun_induction expandFrom replacement budget rounds text with
  | case1 rounds text h ih =>
      have hbytes := length_le_byteLength text
      have hround := length_substitute_le replacement text
      have hbudget : text.length * (replacement.length + 1) ≤ budget * (replacement.length + 1) :=
        Nat.mul_le_mul_right _ (by omega)
      omega
  | case2 rounds text h => exact Nat.le_max_left _ _

/-- A text that reaches the budget is not expanded. -/
theorem expandFrom_of_budget_le {budget : Nat} {text : List Char} (h : budget ≤ byteLength text)
    (replacement : List Char) (rounds : Nat) :
    expandFrom replacement budget rounds text = (text, rounds) := by
  rw [expandFrom, if_neg]
  omega

/-- The budget is shared among the raises. -/
theorem budgetFor_le (program : List Char) : budgetFor program ≤ 200 := by
  unfold budgetFor expansionBudget
  apply Nat.div_le_of_le_mul
  have hpos := Nat.le_max_left 1 (program.count Command.raise.letter)
  omega

/-- Expansion does not make a program so long that weights would no longer fit 32 bits. -/
theorem length_prepare_lt (options : CompileOptions) {program : List Char}
    (h : program.length < 2 ^ 32 - 1) : (options.prepare program).length < 2 ^ 32 - 1 := by
  unfold CompileOptions.prepare
  split
  · have hexpand : (expand program).program =
        (expandFrom (nestedCopy program) (budgetFor program) 0 program).1 := rfl
    rw [hexpand]
    rcases Nat.lt_or_ge (byteLength program) (budgetFor program) with hshort | hlong
    · have hbudget := budgetFor_le program
      have hbytes := length_le_byteLength program
      have hcopy : (nestedCopy program).length ≤ 603 := by
        have hcount : program.count Command.nest.letter ≤ program.length := List.count_le_length
        simp only [nestedCopy, List.length_cons, List.length_append, List.length_replicate]
        omega
      have hall := length_expandFrom_le (nestedCopy program) (budgetFor program) 0 program
      have hproduct : budgetFor program * ((nestedCopy program).length + 1) ≤ 200 * 604 :=
        Nat.mul_le_mul hbudget (Nat.succ_le_succ hcopy)
      omega
    · rw [expandFrom_of_budget_le hlong]
      exact h
  · exact h

/-- The weights of a compiled grid fit 32 bits. -/
theorem compile_fits (program : String) (options : CompileOptions)
    (h : program.toList.length < 2 ^ 32 - 1) : (compile program options).Fits := by
  have htext := length_prepare_lt options h
  exact (scan_bounded _ _).mono (by omega)

end Slab
