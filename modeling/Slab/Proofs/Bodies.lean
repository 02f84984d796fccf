import Slab.Proofs.Peak
import Slab.Proofs.Staying

/-!
# Programs that get as deep as their brackets

A body is bracketless text followed by nested bodies, each in its brackets and with bracketless
text behind it. Two things could keep its grid from getting as deep as its brackets do. A body
without nested ones could place nothing; so it is to have a growth. And a grid could be replaced by
the next one, which happens if the cell that holds it is the one that was grown last; so the text
between two nested bodies is to have no growth, or a raise before the first one, which then starts
a cell (`Separates`). `IsBody` has exactly these two conditions, and `depth_eq_brackets` says that
the grid of such a program is just one deeper than programs are open at a time.

What carries the proof is that on the way all grids stay that are placed. `Level.Safe` says of a
level that a grid placed on it replaces none: that is so on a fresh level, whatever bracketless
text is taken in there (`Level.Clear.takeAll`), and behind a nested body if the text there
separates (`Level.safe_takeAll`).
-/

namespace Slab

/-! ### Bodies -/

/-- There are no brackets in the text, nor row breaks. -/
def Bracketless (text : List Char) : Prop :=
  'S' ∉ text ∧ 'B' ∉ text

/-- There is a growth in the text. -/
def Grows (text : List Char) : Prop :=
  'b' ∈ text ∨ 'i' ∈ text

/-- There is no growth in the text, or a raise before the first one. -/
def Separates (text : List Char) : Prop :=
  ¬Grows text ∨ ∃ before after, text = before ++ 'p' :: after ∧ ¬Grows before

mutual

/-- Bracketless text, and nested bodies behind it. -/
inductive IsBody : List Char → Prop
  /-- Where there are no nested bodies, there is a growth. -/
  | leaf {start : List Char} : Bracketless start → Grows start → IsBody start
  /-- There are nested bodies. -/
  | node {start parts : List Char} : Bracketless start → IsParts parts → IsBody (start ++ parts)

/-- Nested bodies in brackets, each with bracketless text behind it. -/
inductive IsParts : List Char → Prop
  /-- Any such text may stand behind the last one. -/
  | last {body tail : List Char} :
      IsBody body → Bracketless tail → IsParts ('S' :: (body ++ 'B' :: 'B' :: tail))
  /-- The text between two of them separates their grids. -/
  | more {body gap parts : List Char} : IsBody body → Bracketless gap → Separates gap →
      IsParts parts → IsParts ('S' :: (body ++ 'B' :: 'B' :: (gap ++ parts)))

end

instance (text : List Char) : Decidable (Bracketless text) :=
  inferInstanceAs (Decidable (_ ∧ _))

instance (text : List Char) : Decidable (Grows text) :=
  inferInstanceAs (Decidable (_ ∨ _))

variable {text body rest gap : List Char} {c : Char}

/-- The characters of a bracketless text are no brackets. -/
theorem bracketless_cons : Bracketless (c :: text) ↔ (c ≠ 'S' ∧ c ≠ 'B') ∧ Bracketless text := by
  simp only [Bracketless, List.mem_cons, not_or]
  constructor
  · rintro ⟨⟨hS, htextS⟩, hB, htextB⟩
    exact ⟨⟨Ne.symm hS, Ne.symm hB⟩, htextS, htextB⟩
  · rintro ⟨⟨hS, hB⟩, htextS, htextB⟩
    exact ⟨⟨Ne.symm hS, htextS⟩, Ne.symm hB, htextB⟩

/-- Only `S` is the unit of that command. -/
theorem Lexeme.ofChar_ne_nest (h : c ≠ 'S') : Lexeme.ofChar c ≠ .command .nest := fun heq =>
  h (Lexeme.ofChar_eq_command_iff.mp heq)

/-! ### Bodies are balanced -/

namespace Tally

/-- Units that close what is open and no more leave what was open before, and their peak comes on
top of that. -/
theorem closed_above {units : List Lexeme} {depth : Nat} (h : openAfter depth units = some 0)
    (tally : Tally) :
    (tally.nest depth).countAll units = tally ∧
      (tally.nest depth).peak units = tally.opened + (({} : Tally).nest depth).peak units := by
  have hone : ∀ (tally : Tally) (depth : Nat),
      (tally.nest (depth + 1)).close 1 = tally.nest depth := by
    intro tally depth
    simp [nest, close, ← Nat.add_assoc]
  induction units generalizing depth with
  | nil =>
      obtain rfl : depth = 0 := by simpa using h
      exact ⟨rfl, rfl⟩
  | cons unit units ih =>
      have hopened : (tally.nest depth).opened = tally.opened + depth := rfl
      have hnone : (({} : Tally).nest depth).opened = depth := Nat.zero_add depth
      rw [countAll_cons, peak_cons, peak_cons, hopened, hnone, ← Nat.add_max_add_left]
      by_cases hclose : unit = .close
      · subst hclose
        cases depth with
        | zero => rw [openAfter_zero_close] at h; cases h
        | succ depth =>
            rw [openAfter_succ_close] at h
            rw [count_close, count_close, hone, hone, (ih h).1, (ih h).2]
            exact ⟨rfl, rfl⟩
      by_cases hnest : unit = .command .nest
      · subst hnest
        rw [openAfter_nest] at h
        rw [count_nest, count_nest, nest_nest, nest_nest, (ih h).1, (ih h).2]
        exact ⟨rfl, rfl⟩
      · rw [openAfter_of_ne hclose hnest] at h
        rw [count_of_ne hclose hnest, count_of_ne hclose hnest, (ih h).1, (ih h).2]
        exact ⟨rfl, rfl⟩

end Tally

/-- How a balanced text in brackets is cut. -/
theorem Balanced.lexemes_nested (h : Balanced body) (rest : List Char) :
    lexemes ('S' :: (body ++ 'B' :: 'B' :: rest)) =
      .command .nest :: (lexemes body ++ .close :: lexemes rest) := by
  rw [lexemes_cons_of_ne (by decide), settled_of_not_endsUnpaired h.paired, lexemes_pair]
  rfl

/-- A balanced text in brackets may stand before another one. -/
theorem Balanced.nested (h : Balanced body) (hrest : Balanced rest) :
    Balanced ('S' :: (body ++ 'B' :: 'B' :: rest)) := by
  rw [balanced_iff] at hrest ⊢
  obtain ⟨htally, hpaired⟩ := hrest
  constructor
  · obtain ⟨hafter, -⟩ := Tally.closed_above h.closed (({} : Tally).nest 1)
    rw [Tally.nest_zero] at hafter
    rw [h.lexemes_nested, tallyOf, Tally.countAll_cons, Tally.count_nest, Tally.countAll_append,
      hafter]
    exact htally
  · rw [EndsUnpaired, h.lexemes_nested, List.getLast?_cons, List.getLast?_append,
      List.getLast?_cons]
    rcases hlast : (lexemes rest).getLast? with _ | last
    · simp
    · rw [EndsUnpaired, hlast] at hpaired
      exact hpaired

/-- A character that is no bracket may stand before a balanced text. -/
theorem Balanced.cons (hS : c ≠ 'S') (hB : c ≠ 'B') (h : Balanced text) :
    Balanced (c :: text) := by
  obtain ⟨hclosed, hpaired⟩ := h
  constructor
  · rw [lexemes_cons_of_ne hB,
      openAfter_of_ne (Lexeme.ofChar_ne_close c) (Lexeme.ofChar_ne_nest hS), hclosed]
  · rw [EndsUnpaired, lexemes_cons_of_ne hB]
    rcases hlast : lexemes text with _ | ⟨unit, units⟩
    · rw [List.getLast?_singleton, Option.some_inj, Lexeme.ofChar_eq_command_iff]
      exact hB
    · rw [EndsUnpaired, hlast] at hpaired
      rwa [List.getLast?_cons_cons]

/-- Bracketless text may stand before a balanced text. -/
theorem Bracketless.balanced_append (h : Bracketless text) (hrest : Balanced rest) :
    Balanced (text ++ rest) := by
  induction text with
  | nil => exact hrest
  | cons c text ih =>
      obtain ⟨⟨hS, hB⟩, htext⟩ := bracketless_cons.mp h
      exact (ih htext).cons hS hB

/-- A bracketless text is balanced. -/
theorem Bracketless.balanced (h : Bracketless text) : Balanced text := by
  rw [← List.append_nil text]
  exact h.balanced_append (by decide)

mutual

/-- A body is balanced. -/
theorem IsBody.balanced {text : List Char} : IsBody text → Balanced text
  | .leaf hstart _ => hstart.balanced
  | .node hstart hparts => hstart.balanced_append hparts.balanced

/-- Nested bodies in their brackets are balanced. -/
theorem IsParts.balanced {text : List Char} : IsParts text → Balanced text
  | .last hbody htail => hbody.balanced.nested htail.balanced
  | .more hbody hgap _ hparts => hbody.balanced.nested (hgap.balanced_append hparts.balanced)

end

/-! ### How many are open -/

/-- Bracketless text in front opens nothing. -/
theorem Bracketless.mostOpen_append (h : Bracketless text) (rest : List Char) :
    mostOpen (text ++ rest) = mostOpen rest := by
  induction text with
  | nil => rfl
  | cons c text ih =>
      obtain ⟨⟨hS, hB⟩, htext⟩ := bracketless_cons.mp h
      rw [← ih htext, mostOpen, List.cons_append, lexemes_cons_of_ne hB, Tally.peak_cons,
        Tally.count_of_ne (Lexeme.ofChar_ne_close c) (Lexeme.ofChar_ne_nest hS)]
      exact Nat.zero_max _

/-- In a bracketless text nothing is opened. -/
theorem Bracketless.mostOpen_eq_zero (h : Bracketless text) : mostOpen text = 0 := by
  rw [← List.append_nil text, h.mostOpen_append]
  rfl

/-- In brackets one more is open. -/
theorem Balanced.mostOpen_nested (h : Balanced body) (rest : List Char) :
    mostOpen ('S' :: (body ++ 'B' :: 'B' :: rest)) = max (mostOpen body + 1) (mostOpen rest) := by
  obtain ⟨hafter, hpeak⟩ := Tally.closed_above h.closed (({} : Tally).nest 1)
  rw [Tally.nest_zero] at hafter hpeak
  unfold mostOpen
  rw [h.lexemes_nested, Tally.peak_cons, Tally.count_nest, Tally.peak_append, hafter, hpeak,
    Tally.peak_cons]
  show max 0 (max (1 + _) (max 1 (({} : Tally).peak _))) = _
  rw [Tally.nest_zero]
  omega

/-! ### Grids that stay -/

namespace Level

variable {level : Level}

/-- A grid placed on the level replaces none. -/
def Safe (level : Level) : Prop :=
  level.lastMove = .grew → ∀ newest ∈ level.newest?, newest.nested = none

/-- A growth does not go into a cell that holds a grid, nor does a grid. -/
def Clear (level : Level) : Prop :=
  (level.pending ≠ 0 ∧ level.lastMove ≠ .grew) ∨ ∀ newest ∈ level.newest?, newest.nested = none

/-- A clear level is safe. -/
theorem Clear.safe (h : level.Clear) : level.Safe := by
  intro hgrew
  rcases h with ⟨-, hmove⟩ | hnone
  · exact absurd hgrew hmove
  · exact hnone

/-- A fresh level is clear. -/
theorem clear_start (ink : Ink) : (start ink).Clear := by
  right
  intro newest hnewest
  cases hnewest

/-- Where growth goes there is no grid. -/
theorem Clear.grow (h : level.Clear) (color : Option Color) : (level.grow color).Clear := by
  right
  unfold newest?
  rcases level.grow_cases color with ⟨newest, older, hcells, hpending, hgrow⟩ | ⟨-, hgrow⟩
  · have hnone : newest.nested = none := by
      rcases h with ⟨hsome, -⟩ | hnone
      · exact absurd hpending hsome
      · apply hnone
        rw [newest?, hcells]
        rfl
    rw [hgrow, currentRow_of_some rfl]
    rintro cell ⟨⟩
    exact hnone
  · rw [hgrow, currentRow_of_some rfl]
    rintro cell ⟨⟩
    rfl

/-- After a raise the next growth starts a cell. -/
theorem clear_raise (level : Level) : level.raise.Clear := by
  refine Or.inl ⟨?_, level.lastMove_raise_ne⟩
  rcases level.raise_cases with ⟨row, -, -, hraise⟩ | ⟨-, hraise⟩
  · rw [hraise]
    exact Nat.succ_ne_zero _
  · rw [hraise]
    exact Nat.succ_ne_zero _

/-- A clear level stays so whatever is taken in. -/
theorem Clear.take (h : level.Clear) (unit : Lexeme) : (level.take unit).Clear := by
  rcases unit with _ | command | char
  · have hcells : level.strayClose.currentRow.cells = level.currentRow.cells :=
      cells_currentRow_congr rfl
    rcases h with ⟨hpending, -⟩ | hnone
    · exact Or.inl ⟨hpending, by rintro ⟨⟩⟩
    · refine Or.inr ?_
      show ∀ newest ∈ level.strayClose.newest?, newest.nested = none
      rwa [newest?, hcells]
  · cases command with
    | breakRow => exact Or.inr (by rintro _ ⟨⟩)
    | grow => exact h.grow _
    | recurse => exact h.grow _
    | raise => exact level.clear_raise
    | nest => exact h
    | hue hue => exact h
    | lighten => exact h
    | modeShift => exact h
    | modeReset => exact h
  · exact h

/-! ### Bracketless text on a level -/

/-- What a level has stays in place: the rows that are done, and the grids that are held. -/
structure Keeps (level after : Level) : Prop where
  /-- No row was ended. -/
  done : after.done = level.done
  /-- No grid was replaced. -/
  nested : ∀ grid ∈ level.finish.nested, grid ∈ after.finish.nested

/-- What stays for the first part and for the second one stays. -/
theorem Keeps.trans {middle after : Level} (h : level.Keeps middle) (hafter : middle.Keeps after) :
    level.Keeps after where
  done := hafter.done.trans h.done
  nested grid hgrid := hafter.nested grid (h.nested grid hgrid)

/-- Only a break ends a row. -/
theorem done_take {unit : Lexeme} (hbreak : unit ≠ .command .breakRow) (level : Level) :
    (level.take unit).done = level.done := by
  have hgrow : ∀ color, (level.grow color).done = level.done := by
    intro color
    rcases level.grow_cases color with ⟨newest, older, -, -, hgrow⟩ | ⟨-, hgrow⟩
    · rw [hgrow]
    · rw [hgrow]
  rcases unit with _ | command | char
  · rfl
  · cases command with
    | breakRow => exact absurd rfl hbreak
    | grow => exact hgrow _
    | recurse => exact hgrow _
    | raise =>
        show level.raise.done = level.done
        rcases level.raise_cases with ⟨row, -, -, hraise⟩ | ⟨-, hraise⟩
        · rw [hraise]
        · rw [hraise]
    | nest => rfl
    | hue hue => rfl
    | lighten => rfl
    | modeShift => rfl
    | modeReset => rfl
  · rfl

/-- A character that breaks no row leaves all in place. -/
theorem keeps_take (hB : c ≠ 'B') (level : Level) : level.Keeps (level.take (.ofChar c)) := by
  have hbreak : Lexeme.ofChar c ≠ .command .breakRow := by
    rw [Ne, Lexeme.ofChar_eq_command_iff]
    exact hB
  exact ⟨done_take hbreak level, fun _ hgrid => mem_nested_take.mpr hgrid⟩

/-- Without a growth the last move is none. -/
theorem lastMove_take_ne (h : level.lastMove ≠ .grew) (hb : c ≠ 'b') (hi : c ≠ 'i') :
    (level.take (.ofChar c)).lastMove ≠ .grew := by
  by_cases hS : c = 'S'
  · subst hS
    exact h
  · rw [Ne, lastMove_take_eq_grew_iff (Lexeme.ofChar_ne_nest hS)]
    rintro ((hgrow | hrecurse) | ⟨-, hgrew⟩)
    · exact hb (Lexeme.ofChar_eq_command_iff.mp hgrow)
    · exact hi (Lexeme.ofChar_eq_command_iff.mp hrecurse)
    · exact h hgrew

/-- Where there are rows, no unit takes them away. -/
theorem not_isEmpty_take (h : ¬level.finish.isEmpty) (unit : Lexeme) :
    ¬(level.take unit).finish.isEmpty := by
  rcases unit with _ | command | char
  · exact h
  · cases command with
    | grow => exact level.not_isEmpty_grow _
    | recurse => exact level.not_isEmpty_grow _
    | raise => exact fun hempty => h (level.isEmpty_raise.mp hempty)
    | breakRow => exact h
    | nest => exact h
    | hue hue => exact h
    | lighten => exact h
    | modeShift => exact h
    | modeReset => exact h
  · exact h

/-- The level after a text of which each character is a unit of its own. -/
def takeAll (level : Level) (text : List Char) : Level :=
  text.foldl (fun level c => level.take (.ofChar c)) level

/-- The first character is taken in first. -/
@[simp] theorem takeAll_cons (level : Level) (c : Char) (text : List Char) :
    level.takeAll (c :: text) = (level.take (.ofChar c)).takeAll text := rfl

/-- A text in two parts is taken in part by part. -/
theorem takeAll_append (level : Level) (text more : List Char) :
    level.takeAll (text ++ more) = (level.takeAll text).takeAll more :=
  List.foldl_append

/-- Bracketless text leaves all in place. -/
theorem keeps_takeAll (h : Bracketless text) (level : Level) :
    level.Keeps (level.takeAll text) := by
  induction text generalizing level with
  | nil => exact ⟨rfl, fun _ hgrid => hgrid⟩
  | cons c text ih =>
      obtain ⟨⟨-, hB⟩, htext⟩ := bracketless_cons.mp h
      exact (keeps_take hB level).trans (ih htext _)

/-- A clear level stays so over a text. -/
theorem Clear.takeAll (h : level.Clear) (text : List Char) : (level.takeAll text).Clear := by
  induction text generalizing level with
  | nil => exact h
  | cons c text ih => exact ih (h.take _)

/-- A text without a growth leaves none behind. -/
theorem lastMove_takeAll_ne (h : level.lastMove ≠ .grew) (htext : ¬Grows text) :
    (level.takeAll text).lastMove ≠ .grew := by
  induction text generalizing level with
  | nil => exact h
  | cons c text ih =>
      simp only [Grows, List.mem_cons, not_or] at htext ih
      obtain ⟨⟨hb, htextb⟩, hi, htexti⟩ := htext
      exact ih (lastMove_take_ne h (Ne.symm hb) (Ne.symm hi)) ⟨htextb, htexti⟩

/-- Where the last move is no growth, text that separates leaves a safe level. -/
theorem safe_takeAll (h : level.lastMove ≠ .grew) (hgap : Separates gap) :
    (level.takeAll gap).Safe := by
  rcases hgap with hnone | ⟨before, after, rfl, hbefore⟩
  · exact fun hgrew => absurd hgrew (lastMove_takeAll_ne h hnone)
  · rw [takeAll_append, takeAll_cons]
    exact ((level.takeAll before).clear_raise.takeAll after).safe

/-- After a growth there are rows. -/
theorem not_isEmpty_takeAll (h : Grows text ∨ ¬level.finish.isEmpty) :
    ¬(level.takeAll text).finish.isEmpty := by
  induction text generalizing level with
  | nil =>
      rcases h with hgrows | hrows
      · simp [Grows] at hgrows
      · exact hrows
  | cons c text ih =>
      apply ih
      rcases h with hgrows | hrows
      · simp only [Grows, List.mem_cons] at hgrows
        rcases hgrows with (rfl | hb) | (rfl | hi)
        · exact Or.inr (level.not_isEmpty_grow _)
        · exact Or.inl (Or.inl hb)
        · exact Or.inr (level.not_isEmpty_grow _)
        · exact Or.inl (Or.inr hi)
      · exact Or.inr (not_isEmpty_take hrows _)

/-- On a safe level a nested grid is put beside the others. -/
theorem Safe.keeps_hold (h : level.Safe) (grid : Grid) : level.Keeps (level.hold grid) := by
  have hsuspend : level.suspend.currentRow = level.currentRow := rfl
  unfold hold
  rcases level.suspend.attach_cases level.ink.color? grid with
    ⟨newest, older, hcells, hmove, hattach⟩ | ⟨-, hattach⟩
  · have hnone : newest.nested = none := by
      apply h hmove
      rw [newest?, ← hsuspend, hcells]
      rfl
    refine ⟨by rw [hattach]; rfl, ?_⟩
    intro held hheld
    rw [mem_nested_finish, ← hsuspend, hcells] at hheld
    rw [mem_nested_finish, hattach, currentRow_of_some rfl]
    rcases hheld with ⟨cell, hcell, hgrid⟩ | hdone
    · rcases List.mem_cons.mp hcell with rfl | holder
      · rw [hnone] at hgrid
        cases hgrid
      · exact Or.inl ⟨cell, List.mem_cons_of_mem _ holder, hgrid⟩
    · exact Or.inr hdone
  · refine ⟨by rw [hattach]; rfl, ?_⟩
    intro held hheld
    rw [mem_nested_finish] at hheld
    rw [mem_nested_finish, hattach, currentRow_of_some rfl]
    rcases hheld with ⟨cell, hcell, hgrid⟩ | hdone
    · exact Or.inl ⟨cell, List.mem_cons_of_mem _ hcell, hgrid⟩
    · exact Or.inr hdone

/-- A grid that was placed is no growth. -/
theorem lastMove_hold (level : Level) (grid : Grid) : (level.hold grid).lastMove = .other := rfl

end Level

/-- Bracketless text is taken in on the innermost level. -/
theorem Bracketless.run_append (h : Bracketless text) (level : Level) (outer : List Suspended)
    (rest : List Char) :
    (⟨level, outer⟩ : Builder).run (lexemes (text ++ rest)) =
      (⟨level.takeAll text, outer⟩ : Builder).run (lexemes rest) := by
  induction text generalizing level with
  | nil => rfl
  | cons c text ih =>
      obtain ⟨⟨hS, hB⟩, htext⟩ := bracketless_cons.mp h
      rw [List.cons_append, lexemes_cons_of_ne hB, Builder.run_cons, Builder.step_ofChar _ hS]
      exact ih htext _

/-- A level that holds a grid has rows. -/
theorem Grid.not_isEmpty_of_mem_nested {grid inner : Grid} (h : inner ∈ grid.nested) :
    ¬grid.isEmpty := by
  intro hempty
  rw [Grid.isEmpty, List.isEmpty_iff] at hempty
  rw [Grid.nested, Grid.cells, hempty] at h
  cases h

/-- A level with rows of which none is done has one. -/
theorem Level.length_rows_finish {level : Level} (hdone : level.done = [])
    (hrows : ¬level.finish.isEmpty) : level.finish.rows.length = 1 := by
  rw [isEmpty_finish] at hrows
  rcases hopen : level.openRow with _ | row
  · exact absurd ⟨hopen, hdone⟩ hrows
  · rw [rows_finish, allRows_of_some hopen, hdone]
    rfl

/-! ### Bodies on a level -/

mutual

/-- The grid of a body has one row, and it is one deeper than programs are open in the body. -/
theorem IsBody.depth_scan {text : List Char} (ink : Ink) :
    IsBody text → mostOpen text + 1 ≤ (scan text ink).depth ∧ (scan text ink).rows.length = 1
  | .leaf hstart hgrows => by
      have hrun := hstart.run_append (.start ink) [] []
      rw [List.append_nil] at hrun
      have hscan : scan text ink = ((Level.start ink).takeAll text).finish :=
        congrArg Builder.finish hrun
      have hrows : ¬(scan text ink).isEmpty := by
        rw [hscan]
        exact Level.not_isEmpty_takeAll (Or.inl hgrows)
      refine ⟨?_, ?_⟩
      · rw [hstart.mostOpen_eq_zero, Grid.depth_of_not_isEmpty hrows]
        exact Nat.le_add_left _ _
      · rw [hscan] at hrows ⊢
        exact Level.length_rows_finish (Level.keeps_takeAll hstart _).done hrows
  | @IsBody.node start parts hstart hparts => by
      have hsafe : ((Level.start ink).takeAll start).Safe :=
        ((Level.clear_start ink).takeAll start).safe
      obtain ⟨after, hafter, hkeeps, grid, hgrid, hdepth⟩ := hparts.run hsafe []
      have hrun := hstart.run_append (.start ink) [] parts
      have hscan : scan (start ++ parts) ink = after.finish :=
        congrArg Builder.finish (hrun.trans hafter)
      have hrows := Grid.not_isEmpty_of_mem_nested hgrid
      refine ⟨?_, ?_⟩
      · rw [hscan, hstart.mostOpen_append, Grid.depth_of_not_isEmpty hrows]
        exact Nat.succ_le_succ
          (Nat.le_trans hdepth (Grid.maxDepth_le_iff.mp (Nat.le_refl _) grid hgrid))
      · rw [hscan]
        exact Level.length_rows_finish
          (hkeeps.done.trans (Level.keeps_takeAll hstart _).done) hrows

/-- Nested bodies leave in place what a safe level has, and one of their grids, or a grid behind
them, is as deep as programs are open in them. -/
theorem IsParts.run {text : List Char} {level : Level} (hsafe : level.Safe)
    (outer : List Suspended) :
    IsParts text → ∃ after, (⟨level, outer⟩ : Builder).run (lexemes text) = ⟨after, outer⟩ ∧
      level.Keeps after ∧ ∃ grid ∈ after.finish.nested, mostOpen text ≤ grid.depth
  | @IsParts.last body tail hbody htail => by
      -- the grid of the body is put on the level, and text without brackets leaves it there
      obtain ⟨hdepth, -⟩ := hbody.depth_scan level.ink.spend
      have hnested := Builder.run_nested_balanced hbody.balanced ⟨level, outer⟩ tail
      have hrun := htail.run_append (level.hold (scan body level.ink.spend)) outer []
      rw [List.append_nil] at hrun
      have htake := Level.keeps_takeAll htail (level.hold (scan body level.ink.spend))
      refine ⟨_, hnested.trans hrun, (hsafe.keeps_hold _).trans htake, scan body level.ink.spend,
        htake.nested _ (Level.mem_nested_attach_self _ _ _), ?_⟩
      rw [hbody.balanced.mostOpen_nested, htail.mostOpen_eq_zero]
      exact Nat.max_le.mpr ⟨hdepth, Nat.zero_le _⟩
  | @IsParts.more body gap parts hbody hgap hseparates hparts => by
      obtain ⟨hdepth, -⟩ := hbody.depth_scan level.ink.spend
      have hnested := Builder.run_nested_balanced hbody.balanced ⟨level, outer⟩ (gap ++ parts)
      have hrun := hgap.run_append (level.hold (scan body level.ink.spend)) outer parts
      have htake := Level.keeps_takeAll hgap (level.hold (scan body level.ink.spend))
      have hnext : ((level.hold (scan body level.ink.spend)).takeAll gap).Safe :=
        Level.safe_takeAll (by rw [Level.lastMove_hold]; rintro ⟨⟩) hseparates
      obtain ⟨after, hafter, hkeeps, grid, hgrid, hparts⟩ := hparts.run hnext outer
      refine ⟨after, hnested.trans (hrun.trans hafter),
        ((hsafe.keeps_hold _).trans htake).trans hkeeps, ?_⟩
      -- the most are open in the first body, or in those behind it
      rw [hbody.balanced.mostOpen_nested, hgap.mostOpen_append]
      rcases Nat.le_total (mostOpen body + 1) (mostOpen parts) with hle | hle
      · rw [Nat.max_eq_right hle]
        exact ⟨grid, hgrid, hparts⟩
      · rw [Nat.max_eq_left hle]
        exact ⟨_, hkeeps.nested _ (htake.nested _ (Level.mem_nested_attach_self _ _ _)), hdepth⟩

end

/-- **Depth follows the brackets.** The grid of a program is at most one deeper than programs are
open at a time in it. If the program is a body, its grid is just that deep, and it has one row. -/
theorem depth_eq_brackets (ink : Ink) :
    (∀ program, (scan program ink).depth ≤ 1 + mostOpen program) ∧
      ∀ program, IsBody program →
        (scan program ink).depth = 1 + mostOpen program ∧
          (scan program ink).rows.length = 1 := by
  have hle : ∀ program, (scan program ink).depth ≤ 1 + mostOpen program := by
    intro program
    rw [Nat.add_comm]
    exact depth_scan_le program ink
  refine ⟨hle, ?_⟩
  intro program hbody
  obtain ⟨hge, hrows⟩ := hbody.depth_scan ink
  rw [Nat.add_comm] at hge
  exact ⟨Nat.le_antisymm (hle program) hge, hrows⟩

/-- Two nested bodies with a raise and a growth between them, and one more in the second. -/
theorem depth_eq_brackets_three :
    IsBody "rbSbBBo?pbSySiBBpBBb".toList ∧
      (scan "rbSbBBo?pbSySiBBpBBb".toList {}).depth = 3 ∧
      (scan "rbSbBBo?pbSySiBBpBBb".toList {}).rows.length = 1 := by
  have hinner : IsBody "ySiBBp".toList :=
    @IsBody.node ['y'] _ (by decide)
      (@IsParts.last ['i'] ['p'] (.leaf (by decide) (by decide)) (by decide))
  have hgap : Separates "o?pb".toList := Or.inr ⟨['o', '?'], ['b'], rfl, by decide⟩
  have hbody : IsBody "rbSbBBo?pbSySiBBpBBb".toList :=
    @IsBody.node ['r', 'b'] _ (by decide)
      (@IsParts.more ['b'] "o?pb".toList _ (.leaf (by decide) (by decide)) (by decide) hgap
        (@IsParts.last "ySiBBp".toList ['b'] hinner (by decide)))
  have hopen : mostOpen "rbSbBBo?pbSySiBBpBBb".toList = 2 := by decide
  obtain ⟨hdepth, hrows⟩ := (depth_eq_brackets {}).2 _ hbody
  rw [hopen] at hdepth
  exact ⟨hbody, hdepth, hrows⟩

end Slab
