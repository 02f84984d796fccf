import Mathlib.Logic.Function.Iterate
import Slab.Proofs.Openers
import Slab.Proofs.Staying

/-!
# Colours are scoped

Which colour a command writes can be told from the text alone. The hue is the last one selected in
the same program since an `S` there (`scopedBase`), and the lightness counts the `h`s that are not
inside of a program that has ended (`scopedLightness`). **`colorsScoped`** says that this is the
colour that every `b` writes, and every `S` to the cell of its nested grid; that the cell keeps it
until growth widens it; that an ended program leaves no trace in the ink; and that the hue in which
the whole program starts shows in the cells of the outermost grid only.
-/

namespace Slab

/-! ### The ink in force -/

/-- The base colour that a unit leaves in force in the program that it is in, if it has a say in
that: a hue selects one, and an `S` spends it. -/
def Lexeme.rebase? : Lexeme → Option (Option Color)
  | .command .nest => some none
  | .command (.hue hue) => hue.base.map some
  | _ => none

/-- The base colour in force at a position: what the last unit before it in the same program that
has a say leaves in force; and if there is none, the one given from outside in the outermost
program, and none in a nested one. -/
def scopedBase (units : List Lexeme) (base : Option Color) (k : Nat) : Option Color :=
  (((List.range k).reverse.filter (openers units · = openers units k)).findSome? fun j =>
    units[j]?.bind Lexeme.rebase?).getD (if openers units k = [] then base else none)

/-- The number of `h`s before a position that are not inside of a program that has ended: all
programs that such an `h` is in are still open. -/
def lightenings (units : List Lexeme) (k : Nat) : Nat :=
  (List.range k).countP fun j =>
    units[j]? = some (.command .lighten) ∧ openers units j ⊆ openers units k

/-- The lightness in force at a position. -/
def scopedLightness (units : List Lexeme) (lightness : Float) (k : Nat) : Float :=
  (· + Ink.step)^[lightenings units k] lightness

/-- The colour that a command at a position writes. -/
def scopedColor (units : List Lexeme) (ink : Ink) (k : Nat) : Option Color :=
  (scopedBase units ink.base k).map (·.lighten (scopedLightness units ink.lightness k))

variable {units : List Lexeme} {unit : Lexeme} {base : Option Color} {k s : Nat} {rest : List Nat}

/-! ### The base colour step by step -/

/-- Inside one program the base colour changes as the units say. -/
theorem scopedBase_succ (h : units[k]? = some unit)
    (hopen : openers units (k + 1) = openers units k) :
    scopedBase units base (k + 1) = unit.rebase?.getD (scopedBase units base k) := by
  unfold scopedBase
  rw [hopen, List.range_succ, List.reverse_append, List.reverse_singleton, List.singleton_append,
    List.filter_cons_of_pos (by simp), List.findSome?_cons, h]
  rw [Option.bind_some]
  rcases unit.rebase? with _ | b
  · rfl
  · rfl

/-- In a program that has just begun no base colour is in force. -/
theorem scopedBase_nest (h : units[k]? = some (.command .nest)) :
    scopedBase units base (k + 1) = none := by
  have hnone : (List.range (k + 1)).reverse.filter
      (openers units · = openers units (k + 1)) = [] := by
    rw [List.filter_eq_nil_iff]
    intro j hj
    have hjk : j ≤ k := by simpa [Nat.lt_succ_iff] using hj
    rw [openers_nest h, decide_eq_true_eq]
    intro heq
    exact notMem_openers hjk (by rw [heq]; exact List.mem_cons_self)
  unfold scopedBase
  rw [hnone, openers_nest h]
  rfl

/-- The positions before a close, cut at an earlier one. -/
theorem range_succ_eq_append (h : s < k) :
    List.range (k + 1) = List.range s ++ s :: List.range' (s + 1) (k - s) := by
  have hcut : k + 1 = s + (k - s + 1) := by omega
  rw [List.range_eq_range', List.range_eq_range', ← List.range'_succ, hcut, ← List.range'_append_1,
    Nat.zero_add]

/-- At the positions inside of a program that a close ends, the program is open. -/
theorem mem_openers_of_mem_range' {j : Nat} (hopen : openers units k = s :: rest)
    (hj : j ∈ List.range' (s + 1) (k - s)) : s ∈ openers units j := by
  have hs := lt_of_openers_cons hopen
  rw [List.mem_range'_1] at hj
  exact mem_openers_of_between hopen (by omega) (by omega)

/-- After a program has ended no base colour is in force: its `S` has spent it. -/
theorem scopedBase_close (h : units[k]? = some .close) (hopen : openers units k = s :: rest) :
    scopedBase units base (k + 1) = none := by
  have hs := lt_of_openers_cons hopen
  obtain ⟨-, hnest⟩ := mem_openers (by rw [hopen]; exact List.mem_cons_self)
  -- looking back, the units inside of the program do not count, and the first that does is its `S`
  have hinside : (List.range' (s + 1) (k - s)).reverse.filter (openers units · = rest) = [] := by
    rw [List.filter_eq_nil_iff]
    intro j hj
    rw [decide_eq_true_eq]
    intro heq
    apply notMem_of_openers_cons hopen
    rw [← heq]
    exact mem_openers_of_mem_range' hopen (List.mem_reverse.mp hj)
  unfold scopedBase
  rw [openers_close h, hopen, List.tail_cons, range_succ_eq_append hs, List.reverse_append,
    List.reverse_cons, List.filter_append, List.filter_append, hinside, List.nil_append,
    List.filter_cons_of_pos (by simp [(openers_cons hopen).1]), List.filter_nil,
    List.singleton_append, List.findSome?_cons, hnest]
  rfl

/-! ### The lightness step by step -/

/-- Inside one program only an `h` lightens. -/
theorem lightenings_succ (h : units[k]? = some unit)
    (hopen : openers units (k + 1) = openers units k) :
    lightenings units (k + 1) =
      lightenings units k + if unit = .command .lighten then 1 else 0 := by
  unfold lightenings
  rw [hopen, List.range_succ, List.countP_append, List.countP_singleton, h]
  simp

/-- A nested program starts with the lightness of the program around it. -/
theorem lightenings_nest (h : units[k]? = some (.command .nest)) :
    lightenings units (k + 1) = lightenings units k := by
  have hcount : ∀ j ∈ List.range k,
      openers units j ⊆ k :: openers units k ↔ openers units j ⊆ openers units k := by
    intro j hj
    have hnot : k ∉ openers units j := notMem_openers (Nat.le_of_lt (List.mem_range.mp hj))
    refine ⟨?_, List.subset_cons_of_subset k⟩
    intro hsub s hs
    refine List.mem_of_ne_of_mem ?_ (hsub hs)
    rintro rfl
    exact hnot hs
  unfold lightenings
  rw [openers_nest h, List.range_succ, List.countP_append, List.countP_singleton, h]
  simp only [Option.some.injEq, Lexeme.command.injEq, reduceCtorEq, false_and, decide_false,
    Bool.false_eq_true, if_false, Nat.add_zero]
  apply List.countP_congr
  intro j hj
  rw [decide_eq_true_eq, decide_eq_true_eq, hcount j hj]

/-- After a program has ended the lightness is that at its `S`. -/
theorem lightenings_close (h : units[k]? = some .close) (hopen : openers units k = s :: rest) :
    lightenings units (k + 1) = lightenings units s := by
  have hs := lt_of_openers_cons hopen
  obtain ⟨-, hnest⟩ := mem_openers (by rw [hopen]; exact List.mem_cons_self)
  have hinside : (List.range' (s + 1) (k - s)).countP (fun j =>
      units[j]? = some (.command .lighten) ∧ openers units j ⊆ rest) = 0 := by
    rw [List.countP_eq_zero]
    intro j hj
    rw [decide_eq_true_eq]
    rintro ⟨-, hsub⟩
    exact notMem_of_openers_cons hopen (hsub (mem_openers_of_mem_range' hopen hj))
  unfold lightenings
  rw [openers_close h, hopen, List.tail_cons, (openers_cons hopen).1, range_succ_eq_append hs,
    List.countP_append, List.countP_cons, hinside, hnest]
  simp

/-! ### The ink at a position -/

/-- What a unit does to the ink of the level. -/
theorem Level.ink_take (level : Level) (unit : Lexeme) :
    (level.take unit).ink =
      ⟨unit.rebase?.getD level.ink.base,
        if unit = .command .lighten then level.ink.lightness + Ink.step
        else level.ink.lightness⟩ := by
  rcases unit with _ | command | char
  · rfl
  · cases command with
    | raise =>
        show level.raise.ink = _
        rcases level.raise_cases with ⟨_, -, -, hraise⟩ | ⟨-, hraise⟩
        · rw [hraise]
          rfl
        · rw [hraise]
          rfl
    | hue hue => cases hue <;> rfl
    | _ => rfl
  · rfl

/-- The ink at a position is the one in force there. -/
theorem reached_ink (ink : Ink) (hk : k ≤ units.length) :
    (reached units ink k).level.ink =
      ⟨scopedBase units ink.base k, scopedLightness units ink.lightness k⟩ := by
  induction k, hk using position_induction with
  | start => rfl
  | nest k _ h ih =>
      rw [reached_level_nest h, scopedBase_nest h, scopedLightness, lightenings_nest h]
      show (reached units ink k).level.ink.spend = _
      rw [ih]
      rfl
  | close k s rest _ _ h hopen ih _ =>
      rw [reached_level_close h hopen, scopedBase_close h hopen, scopedLightness,
        lightenings_close h hopen]
      show (reached units ink s).level.ink.spend = _
      rw [ih]
      rfl
  | other k unit _ h hnest hstray ih =>
      have hopen : openers units (k + 1) = openers units k :=
        openers_of_stray (by simpa [h] using hnest) (by simpa [h] using hstray)
      have hlight : scopedLightness units ink.lightness (k + 1) =
          if unit = .command .lighten then scopedLightness units ink.lightness k + Ink.step
          else scopedLightness units ink.lightness k := by
        unfold scopedLightness
        rw [lightenings_succ h hopen]
        split
        · rw [Function.iterate_succ_apply']
        · rfl
      rw [reached_level_other h hnest hstray, Level.ink_take, ih, scopedBase_succ h hopen, hlight]

/-- The colour of the ink at a position is the one that a command there is said to write. -/
theorem reached_color (ink : Ink) (hk : k ≤ units.length) :
    (reached units ink k).level.ink.color? = scopedColor units ink k := by
  rw [reached_ink ink hk]
  rfl

/-! ### The cell of a nested grid -/

/-- The cell that a nested grid is put in has the colour of the `S`, and keeps it and the grid
until growth in the same program widens it. -/
theorem reached_isSet {e : Nat} (ink : Ink) (h : units[e]? = some .close)
    (hopen : openers units e = s :: rest) :
    ∃ row column width, ∀ k, e < k → k ≤ units.length → openers units k = rest →
      (∀ j, e < j → j < k → openers units j = rest →
        units[j]? = some (.command .grow) ∨ units[j]? = some (.command .recurse) →
          ¬(reached units ink j).level.Widens row column) →
      (reached units ink k).level.IsSet row column
        ⟨width, scopedColor units ink s, some (reached units ink e).level.finish⟩ := by
  have he : e < units.length := (List.getElem?_eq_some_iff.mp h).1
  have hafter : openers units (e + 1) = rest := by rw [openers_close h, hopen, List.tail_cons]
  have hs := lt_of_openers_cons hopen
  obtain ⟨row, column, width, hset⟩ :=
    (reached units ink s).level.isSet_hold (reached units ink e).level.finish
  rw [← reached_level_close h hopen, reached_color ink (by omega)] at hset
  refine ⟨row, column, width, ?_⟩
  intro k hek hk
  induction k, hk using position_induction with
  | start => omega
  | nest k _ hnest ih =>
      intro hrest
      -- a program that begins after the close is not one that was open at it
      have hmem : k ∈ openers units (e + 1) := by
        rw [hafter, ← hrest, openers_nest hnest]
        exact List.mem_cons_self
      rcases Nat.lt_or_eq_of_le (Nat.le_of_lt_succ hek) with hek | rfl
      · exact absurd hmem (notMem_openers hek)
      · rw [h] at hnest
        cases hnest
  | close k t still _ htk hclose hk ih _ =>
      intro hrest hkeep
      obtain rfl : still = rest := by rwa [openers_close hclose, hk, List.tail_cons] at hrest
      rcases Nat.lt_or_eq_of_le (Nat.le_of_lt_succ hek) with hek | rfl
      · -- the program that ends here began after the close, so its `S` stands on the same level
        have het := lt_opener_of_close h hafter hk hek
        rw [reached_level_close hclose hk]
        exact (ih het (openers_cons hk).1 fun j hej hjt => hkeep j hej (by omega)).hold _
      · exact hset
  | other k unit _ hunit hnest hstray ih =>
      intro hrest hkeep
      rcases Nat.lt_or_eq_of_le (Nat.le_of_lt_succ hek) with hek | rfl
      · have hsame : openers units (k + 1) = openers units k :=
          openers_of_stray (by simpa [hunit] using hnest) (by simpa [hunit] using hstray)
        rw [hsame] at hrest
        rw [reached_level_other hunit hnest hstray]
        refine (ih hek hrest fun j hej hjk => hkeep j hej (by omega)).take unit ?_
        intro hgrows
        apply hkeep k hek (Nat.lt_succ_self k) hrest
        rcases hgrows with rfl | rfl
        · exact Or.inl hunit
        · exact Or.inr hunit
      · obtain rfl : unit = .close := Option.some.inj (hunit.symm.trans h)
        rw [hstray rfl] at hopen
        cases hopen

/-! ### The outermost grid -/

/-- A cell without its colour; the grid that it holds keeps its own. -/
def Cell.uncolored (cell : Cell) : Cell :=
  { cell with color := none }

/-- A row whose cells are without colours. -/
def Row.uncolored (row : Row) : Row :=
  { row with cells := row.cells.map Cell.uncolored }

/-- An open row whose cells are without colours. -/
def OpenRow.uncolored (row : OpenRow) : OpenRow :=
  { row with cells := row.cells.map Cell.uncolored }

/-- A grid whose own cells are without colours. -/
def Grid.uncolored (grid : Grid) : Grid :=
  ⟨grid.rows.map Row.uncolored⟩

namespace Level

/-- A level whose cells are without colours, and whose ink is without a hue. -/
def uncolored (level : Level) : Level :=
  { level with
    done := level.done.map Row.uncolored
    openRow := level.openRow.map OpenRow.uncolored
    ink := level.ink.spend }

/-- To take the colours is to erase cells and leave the grids in them as they are. -/
theorem uncolored_eq_erase (level : Level) :
    level.uncolored = level.erase id level.ink.spend := by
  have hcell : Cell.erase id = Cell.uncolored := by
    funext cell
    rw [Cell.erase, Option.map_id_fun, id, Cell.uncolored]
  have hrow : Row.erase id = Row.uncolored := by
    funext row
    rw [Row.erase, hcell, Row.uncolored]
  have hopen : OpenRow.erase id = OpenRow.uncolored := by
    funext row
    rw [OpenRow.erase, hcell, OpenRow.uncolored]
  rw [erase, hrow, hopen, uncolored]

/-- Taking the colours from a level takes them from its grid. -/
theorem finish_uncolored (level : Level) : level.uncolored.finish = level.finish.uncolored := by
  unfold finish allRows uncolored Grid.uncolored
  rcases level.openRow with _ | row
  · simp
  · simp [OpenRow.close, OpenRow.uncolored, Row.uncolored]

/-- Where colours are erased, there are none to take. -/
theorem erase_uncolored (level : Level) (ink : Ink) :
    level.uncolored.erase id ink = level.erase id ink := by
  rw [uncolored_eq_erase, erase_erase, Function.id_comp]

/-- Without colours there is nothing more to take. -/
@[simp] theorem uncolored_uncolored (level : Level) :
    level.uncolored.uncolored = level.uncolored := by
  rw [uncolored_eq_erase, erase_uncolored, uncolored_eq_erase]
  rfl

/-- Growth does not look at colours. -/
theorem uncolored_grow (level : Level) (color other : Option Color) :
    (level.grow color).uncolored = (level.uncolored.grow other).uncolored := by
  rw [uncolored_eq_erase, uncolored_eq_erase (grow _ _), erase_grow, erase_grow, erase_uncolored]
  rfl

/-- Placing a grid does not look at colours. -/
theorem uncolored_attach (level : Level) (color other : Option Color) (grid : Grid) :
    (level.attach color grid).uncolored = (level.uncolored.attach other grid).uncolored := by
  rw [uncolored_eq_erase, uncolored_eq_erase (attach _ _ _), erase_attach, erase_attach,
    erase_uncolored]
  rfl

/-- A raise does not look at colours. -/
theorem uncolored_raise (level : Level) : level.raise.uncolored = level.uncolored.raise := by
  obtain ⟨done, openRow, pending, raiseRun, nextHeight, lastMove, ink⟩ := level
  rcases lastMove with _ | _ | _ <;> rcases openRow with _ | row <;> rfl

/-- A break does not look at colours. -/
theorem uncolored_breakRow (level : Level) :
    level.breakRow.uncolored = level.uncolored.breakRow := by
  rw [uncolored_eq_erase, uncolored_eq_erase, erase_breakRow]
  rfl

/-- A change of the ink does not look at colours, if all that the hue can do is in the hue. -/
theorem uncolored_reink (level : Level) {change : Ink → Ink}
    (h : ∀ ink, (change ink).spend = (change ink.spend).spend) :
    (level.reink change).uncolored = (level.uncolored.reink change).uncolored := by
  rw [uncolored_eq_erase, uncolored_eq_erase (reink _ _)]
  show (level.erase id (change level.ink).spend).idle =
    (level.uncolored.erase id (change level.ink.spend).spend).idle
  rw [erase_uncolored, h]

/-- Units do to cells what they do whatever the colours are. -/
theorem uncolored_take (level : Level) (unit : Lexeme) :
    (level.take unit).uncolored = (level.uncolored.take unit).uncolored := by
  -- most units can be taken in before or after the colours are taken away
  have hcommutes : ∀ change : Level → Level,
      (∀ level, (change level).uncolored = change level.uncolored) →
        (change level).uncolored = (change level.uncolored).uncolored := by
    intro change h
    rw [h, h, uncolored_uncolored]
  rcases unit with _ | command | char
  · exact hcommutes strayClose fun _ => rfl
  · cases command with
    | grow => exact level.uncolored_grow _ _
    | recurse => exact level.uncolored_grow _ _
    | raise => exact hcommutes raise uncolored_raise
    | breakRow => exact hcommutes breakRow uncolored_breakRow
    | nest => exact hcommutes suspend fun _ => rfl
    | hue hue => exact level.uncolored_reink fun ink => by cases hue <;> rfl
    | lighten => exact level.uncolored_reink fun ink => rfl
    | modeShift => exact hcommutes idle fun _ => rfl
    | modeReset => exact hcommutes idle fun _ => rfl
  · exact level.uncolored_uncolored.symm

/-- A nested grid is put in its place whatever the colours are. -/
theorem uncolored_hold (level : Level) (grid : Grid) :
    (level.hold grid).uncolored = (level.uncolored.hold grid).uncolored :=
  level.suspend.uncolored_attach _ _ grid

end Level

/-- The hue of the start shows in no program but the outermost one, and there only in colours. -/
theorem reached_rebased (ink : Ink) (base : Option Color) (hk : k ≤ units.length) :
    (reached units { ink with base } k).level.uncolored = (reached units ink k).level.uncolored ∧
      (openers units k ≠ [] →
        (reached units { ink with base } k).level = (reached units ink k).level) := by
  induction k, hk using position_induction with
  | start => exact ⟨rfl, absurd rfl⟩
  | nest k hk h _ =>
      have hlevel : (reached units { ink with base } (k + 1)).level =
          (reached units ink (k + 1)).level := by
        rw [reached_level_nest h, reached_level_nest h, Level.nestedStart, Level.nestedStart,
          reached_ink _ (Nat.le_of_lt hk), reached_ink _ (Nat.le_of_lt hk)]
        rfl
      exact ⟨by rw [hlevel], fun _ => hlevel⟩
  | close k s rest _ _ h hopen ihs ihk =>
      have hgrid := ihk.2 (by simp [hopen])
      rw [reached_level_close h hopen, reached_level_close h hopen, hgrid]
      constructor
      · rw [Level.uncolored_hold, ihs.1, ← Level.uncolored_hold]
      · intro hrest
        rw [openers_close h, hopen, List.tail_cons] at hrest
        rw [ihs.2 (by rwa [(openers_cons hopen).1])]
  | other k unit _ h hnest hstray ih =>
      have hopen : openers units (k + 1) = openers units k :=
        openers_of_stray (by simpa [h] using hnest) (by simpa [h] using hstray)
      rw [reached_level_other h hnest hstray, reached_level_other h hnest hstray, hopen]
      constructor
      · rw [Level.uncolored_take, ih.1, ← Level.uncolored_take]
      · intro hinside
        rw [ih.2 hinside]

/-! ### All of it -/

/-- What it means that the colours of a program are scoped. Positions are those in the units of the
program, with the closes that are missing at its end, and `reached` is the builder there. -/
structure ColorsScoped (program : List Char) (ink : Ink) : Prop where
  /-- The grid is that of the level at the end. -/
  whole : scan program ink =
    (reached (closedUnits program) ink (closedUnits program).length).level.finish
  /-- A `b` writes the colour in force to the newest cell. -/
  grown : ∀ k, (closedUnits program)[k]? = some (.command .grow) →
    (reached (closedUnits program) ink (k + 1)).level.newest?.map Cell.color =
      some (scopedColor (closedUnits program) ink k)
  /-- An `S` keeps the colour in force for the cell of its nested grid. -/
  opened : ∀ k, (closedUnits program)[k]? = some (.command .nest) →
    (reached (closedUnits program) ink (k + 1)).outer.head?.map Suspended.color =
      some (scopedColor (closedUnits program) ink k)
  /-- The close that ends a nested program puts its grid in a cell with the colour of the `S`, and
  both stay in that cell until growth in the same program widens it. -/
  held : ∀ e s rest, (closedUnits program)[e]? = some .close →
    openers (closedUnits program) e = s :: rest →
    ∃ row column width, ∀ k, e < k → k ≤ (closedUnits program).length →
      openers (closedUnits program) k = rest →
      (∀ j, e < j → j < k → openers (closedUnits program) j = rest →
        (closedUnits program)[j]? = some (.command .grow) ∨
          (closedUnits program)[j]? = some (.command .recurse) →
        ¬(reached (closedUnits program) ink j).level.Widens row column) →
      (reached (closedUnits program) ink k).level.finish.cell? row column =
        some ⟨width, scopedColor (closedUnits program) ink s,
          some (reached (closedUnits program) ink e).level.finish⟩
  /-- After that close the ink is what it was at the `S`, with the hue spent. -/
  forgotten : ∀ e s rest, (closedUnits program)[e]? = some .close →
    openers (closedUnits program) e = s :: rest →
    (reached (closedUnits program) ink (e + 1)).level.ink =
      (reached (closedUnits program) ink s).level.ink.spend
  /-- The hue in which the program starts only colours cells of the outermost grid. -/
  outermost : ∀ base, (scan program { ink with base }).uncolored = (scan program ink).uncolored

/-- **The colours of every program are scoped.** -/
theorem colorsScoped (program : List Char) (ink : Ink) : ColorsScoped program ink where
  whole := scan_eq_reached program ink
  grown := by
    intro k h
    have hk := (List.getElem?_eq_some_iff.mp h).1
    rw [reached_level_other h (by simp) (by simp), ← reached_color ink (Nat.le_of_lt hk)]
    exact Level.color_newest?_grow _ _
  opened := by
    intro k h
    have hk := (List.getElem?_eq_some_iff.mp h).1
    rw [reached_outer ink hk, openers_nest h, ← reached_color ink (Nat.le_of_lt hk)]
    rfl
  held := by
    intro e s rest h hopen
    obtain ⟨row, column, width, hset⟩ := reached_isSet ink h hopen
    refine ⟨row, column, width, ?_⟩
    intro k hek hk hrest hkeep
    exact (hset k hek hk hrest hkeep).there
  forgotten := by
    intro e s rest h hopen
    rw [reached_level_close h hopen]
    rfl
  outermost := by
    intro base
    have hend := reached_rebased ink base (Nat.le_refl (closedUnits program).length)
    rw [scan_eq_reached, scan_eq_reached, ← Level.finish_uncolored, ← Level.finish_uncolored,
      hend.1]

/-- The hue at the first `S`; none where its program begins; the one selected there; and behind its
close neither that nor the `h` before it, nor the hue of before. -/
example :
    let units := closedUnits "rSbhgbBBbhtS".toList
    [1, 2, 5, 7, 10].map (fun k => (scopedBase units none k, lightenings units k)) =
      [(Hue.red.base, 0), (none, 0), (Hue.green.base, 1), (none, 0), (Hue.teal.base, 1)] := by
  decide +kernel

end Slab
