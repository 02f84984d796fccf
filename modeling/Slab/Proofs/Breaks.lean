import Mathlib.Data.List.Induction
import Slab.Proofs.Balance
import Slab.Proofs.Descent
import Slab.Proofs.Soundness

/-!
# Row breaks

What a `B` does is soon forgotten. At the end of a program it does nothing at all: breaking a row,
closing a nested program and a close with nothing to close leave a builder that finishes as the
same grid (`Builder.finish_run_breaks`), and so **`scan_append_breaks`** says that any number of
`B`s may follow a program. In the middle of a program a break is a fresh start: **`scan_break`**
says that the rows behind it are those of the rest of the program, scanned on its own in the ink
of that moment.

A level behind a break differs from the one on which a program starts in the rows that are done
and in that it remembers the break. No text looks at the rows (`Level.descend_below`), and none can
tell whether there was a break (`Level.Forgets.finish_descend`).
-/

namespace Slab

/-! ### Breaks at the end -/

namespace Level

/-- Breaking the open row only puts it among those that are done. -/
@[simp] theorem finish_breakRow (level : Level) : level.breakRow.finish = level.finish := rfl

/-- A stray close leaves the rows as they are. -/
@[simp] theorem finish_strayClose (level : Level) : level.strayClose.finish = level.finish := rfl

end Level

namespace Builder

/-- Of the innermost level, only the grid matters for how a program ends. -/
theorem finish_congr {level other : Level} (h : level.finish = other.finish)
    (outer : List Suspended) :
    (⟨level, outer⟩ : Builder).finish = (⟨other, outer⟩ : Builder).finish := by
  rcases outer with _ | ⟨waiting, outer⟩
  · exact h
  · show Level.finish (unwind _) = Level.finish (unwind _)
    rw [unwind_cons, unwind_cons, h]

/-- A program may end with a row break. -/
theorem finish_step_breakRow (builder : Builder) :
    (builder.step (.command .breakRow)).finish = builder.finish :=
  finish_congr builder.level.finish_breakRow builder.outer

/-- A program may end with a close, whether something is open or not. -/
theorem finish_step_close (builder : Builder) : (builder.step .close).finish = builder.finish := by
  obtain ⟨level, outer⟩ := builder
  rcases outer with _ | ⟨waiting, outer⟩
  · exact finish_congr level.finish_strayClose []
  · rfl

/-- A program may end with any row breaks and closes. -/
theorem finish_run_breaks {units : List Lexeme}
    (h : ∀ unit ∈ units, unit = .close ∨ unit = .command .breakRow) (builder : Builder) :
    (builder.run units).finish = builder.finish := by
  induction units generalizing builder with
  | nil => rfl
  | cons unit units ih =>
      rw [List.forall_mem_cons] at h
      rw [run_cons, ih h.2]
      rcases h.1 with rfl | rfl
      · exact builder.finish_step_close
      · exact builder.finish_step_breakRow

end Builder

/-- `B`s are closes and row breaks. -/
theorem mem_lexemes_breaks {text : List Char} (h : ∀ c ∈ text, c = 'B') :
    ∀ unit ∈ lexemes text, unit = .close ∨ unit = .command .breakRow := by
  induction text using unit_induction with
  | nil => simp
  | pair rest ih =>
      rw [lexemes_pair, List.forall_mem_cons]
      simp only [List.forall_mem_cons] at h
      exact ⟨Or.inl rfl, ih h.2.2⟩
  | single c rest hB ih =>
      rw [lexemes_single hB, List.forall_mem_cons]
      rw [List.forall_mem_cons] at h
      obtain ⟨rfl, hrest⟩ := h
      exact ⟨Or.inr rfl, ih hrest⟩

/-- A text that ends in another character than `B` is cut the same way whatever follows. -/
theorem settled_concat {c : Char} (hc : c ≠ 'B') (text : List Char) : Settled (text ++ [c]) :=
  settled_of_not_endsUnpaired (not_endsUnpaired_concat hc text)

/-- A settled text may be followed by `B`s. -/
theorem Settled.scan_breaks {text : List Char} (h : Settled text) (ink : Ink) (n : Nat) :
    scan (text ++ List.replicate n 'B') ink = scan text ink := by
  rw [scan, h, Builder.run_append]
  exact Builder.finish_run_breaks (mem_lexemes_breaks fun c => List.eq_of_mem_replicate) _

/-- **Breaks at the end of a program are irrelevant**: any number of `B`s may follow, whether
they break rows, close what is open or find nothing to close, and whether or not the first of them
pairs with a `B` that was there. No row without cells comes of it, at any depth. -/
theorem scan_append_breaks (program : List Char) (ink : Ink) (n : Nat) :
    scan (program ++ List.replicate n 'B') ink = scan program ink ∧
      (scan (program ++ List.replicate n 'B') ink).Everywhere fun part =>
        ∀ row ∈ part.rows, row.cells ≠ [] := by
  constructor
  · -- the `B`s that the program ends in count as following it
    induction program using List.reverseRecOn generalizing n with
    | nil => exact settled_nil.scan_breaks ink n
    | append_singleton text c ih =>
        by_cases hc : c = 'B'
        · subst hc
          rw [List.append_assoc, List.singleton_append, ← List.replicate_succ, ih]
          exact (ih 1).symm
        · exact (settled_concat hc text).scan_breaks ink n
  · intro part hpart row hrow
    exact ((scan_solid_packed _ ink).1 part hpart row hrow).cells_ne_nil

/-- Of three `B`s behind one that broke a row in a nested program, the first pairs with that one
and closes the program, and the others find nothing to close. -/
example : scan "rbSpbB".toList {} = scan "rbSpbBBBB".toList {} := rfl

/-! ### Two levels, one text -/

namespace Level

/-- Levels that are related stay so along a text, if units and nested grids keep them related and
they have the same ink: the nested programs are then the same on both. -/
theorem descend_related (related : Level → Level → Prop)
    (hink : ∀ level other, related level other → level.ink = other.ink)
    (htake : ∀ level other, related level other →
      ∀ unit, related (level.take unit) (other.take unit))
    (hhold : ∀ level other, related level other →
      ∀ grid, related (level.hold grid) (other.hold grid))
    {level other : Level} (h : related level other) (text : List Char) :
    related (level.descend text) (other.descend text) := by
  induction text using bracket_induction generalizing level other with
  | nil => rwa [descend_nil, descend_nil]
  | close rest ih =>
      rw [descend_close, descend_close]
      exact ih (htake _ _ h .close)
  | nest rest ih =>
      have hrest := length_capture_le 1 rest
      have hstart : level.nestedStart = other.nestedStart := by
        rw [nestedStart, nestedStart, hink _ _ h]
      rw [descend_nest, descend_nest, hstart]
      exact ih (capture 1 rest).2 (by omega) (hhold _ _ h _)
  | single c rest hS hB ih =>
      rw [descend_single _ hS hB, descend_single _ hS hB]
      exact ih (htake _ _ h _)

/-! ### Rows above -/

/-- The level with more rows done, above its own. -/
def below (level : Level) (rows : List Row) : Level :=
  { level with done := level.done ++ rows }

variable {level fresh : Level} {rows : List Row}

/-- The rows above come last, as the oldest ones. -/
theorem allRows_below (level : Level) (rows : List Row) :
    (level.below rows).allRows = level.allRows ++ rows := by
  unfold below allRows
  rcases level.openRow with _ | row
  · rfl
  · rfl

/-- The finished grid has the rows above its own. -/
theorem rows_finish_below (level : Level) (rows : List Row) :
    (level.below rows).finish.rows = rows.reverse ++ level.finish.rows := by
  rw [rows_finish, rows_finish, allRows_below, List.reverse_append]

/-- A break does not look at the rows above. -/
theorem breakRow_below (level : Level) (rows : List Row) :
    (level.below rows).breakRow = level.breakRow.below rows := by
  unfold breakRow
  rw [allRows_below]
  rfl

/-- A raise does not look at the rows above. -/
theorem raise_below (level : Level) (rows : List Row) :
    (level.below rows).raise = level.raise.below rows := by
  obtain ⟨done, openRow, pending, raiseRun, nextHeight, lastMove, ink⟩ := level
  cases lastMove <;> cases openRow <;> rfl

/-- No unit looks at the rows above. -/
theorem take_below (level : Level) (rows : List Row) (unit : Lexeme) :
    (level.below rows).take unit = (level.take unit).below rows := by
  rcases unit with _ | command | char
  · rfl
  · cases command with
    | breakRow => exact level.breakRow_below rows
    | raise => exact level.raise_below rows
    | _ => rfl
  · rfl

/-- No text looks at the rows above. -/
theorem descend_below (level : Level) (rows : List Row) (text : List Char) :
    (level.below rows).descend text = (level.descend text).below rows := by
  refine descend_related (fun level other => level = other.below rows) ?_ ?_ ?_ rfl text
  · rintro _ other rfl
    rfl
  · rintro _ other rfl unit
    exact other.take_below rows unit
  · rintro _ other rfl grid
    rfl

/-! ### Breaks in the middle -/

/-- The levels are the same, or they are but for a break that one of them is behind: no row is open
then, and nothing has happened on the other. -/
def Forgets (level fresh : Level) : Prop :=
  level = fresh ∨
    fresh.openRow = none ∧ fresh.lastMove = .other ∧ level = { fresh with lastMove := .broke }

/-- No unit can tell whether there was a break: where no row is open, a raise is for the next one
in either case. -/
theorem Forgets.take (h : level.Forgets fresh) (unit : Lexeme) :
    (level.take unit).Forgets (fresh.take unit) := by
  rcases h with rfl | ⟨hopen, hmove, rfl⟩
  · exact Or.inl rfl
  rcases unit with _ | command | char
  · exact Or.inl rfl
  · cases command with
    | breakRow => exact Or.inl rfl
    | grow => exact Or.inl rfl
    | recurse => exact Or.inl rfl
    | raise =>
        right
        obtain ⟨done, openRow, pending, raiseRun, nextHeight, lastMove, ink⟩ := fresh
        obtain rfl : openRow = none := hopen
        obtain rfl : lastMove = .other := hmove
        exact ⟨rfl, rfl, rfl⟩
    | _ => exact Or.inr ⟨hopen, hmove, rfl⟩
  · exact Or.inr ⟨hopen, hmove, rfl⟩

/-- A nested grid is placed in a new cell, break or not. -/
theorem Forgets.hold (h : level.Forgets fresh) (grid : Grid) :
    (level.hold grid).Forgets (fresh.hold grid) := by
  rcases h with rfl | ⟨hopen, hmove, rfl⟩
  · exact Or.inl rfl
  · left
    simp only [Level.hold, Level.suspend, Level.attach, hmove]
    rfl

/-- No text can tell whether there was a break, and so the grids are the same. -/
theorem Forgets.finish_descend (h : level.Forgets fresh) (text : List Char) :
    (level.descend text).finish = (fresh.descend text).finish := by
  have hend : (level.descend text).Forgets (fresh.descend text) := by
    refine descend_related Forgets ?_ ?_ ?_ h text
    · rintro level fresh (rfl | ⟨-, -, rfl⟩) <;> rfl
    · intro level fresh h unit
      exact h.take unit
    · intro level fresh h grid
      exact h.hold grid
  rcases hend with heq | ⟨-, -, heq⟩
  · rw [heq]
  · rw [heq]
    rfl

/-- Behind a break a text makes the rows that it makes on a fresh level, below those before. -/
theorem rows_finish_descend_breakRow (level : Level) (text : List Char) :
    (level.breakRow.descend text).finish.rows =
      level.finish.rows ++ ((Level.start level.ink).descend text).finish.rows := by
  let behind : Level := { ink := level.ink, lastMove := .broke }
  have hbelow : level.breakRow = behind.below level.allRows := rfl
  have hforgets : behind.Forgets (.start level.ink) := Or.inr ⟨rfl, rfl, rfl⟩
  rw [hbelow, descend_below, rows_finish_below, hforgets.finish_descend]
  rfl

end Level

/-- **A break is a fresh start.** Where a text leaves nothing open and does not end in an unpaired
`B`, and what follows the break does not begin with one, the rows of the whole are those of the
text and then those of the rest, scanned in the ink that the text leaves. -/
theorem scan_break (text rest : List Char) (ink : Ink)
    (hclosed : ((Builder.start ink).run (lexemes text)).outer = []) (hpaired : ¬EndsUnpaired text)
    (hrest : rest.head? ≠ some 'B') :
    (scan (text ++ 'B' :: rest) ink).rows =
      (scan text ink).rows ++
        (scan rest ((Builder.start ink).run (lexemes text)).level.ink).rows := by
  rcases hrun : (Builder.start ink).run (lexemes text) with ⟨level, outer⟩
  obtain rfl : outer = [] := by rwa [hrun] at hclosed
  have hbroken : (⟨level.breakRow, []⟩ : Builder).run (lexemes rest) =
      (Builder.start ink).run (lexemes (text ++ 'B' :: rest)) := by
    rw [settled_of_not_endsUnpaired hpaired, lexemes_break hrest, Builder.run_append, hrun]
    rfl
  have hfresh := Builder.unwind_run_eq_descend rest (.start level.ink)
  rw [scan_eq, scan_eq, scan_eq, ← hbroken, hrun, Builder.unwind_run_eq_descend,
    level.rows_finish_descend_breakRow, ← hfresh]
  rfl

/-- Behind a nested program and a stray close, the rest has a stray close of its own and leaves
a nested program open. -/
theorem scan_break_unclosedRest :
    ((Builder.start {}).run (lexemes "rbhSgbBBBBpb".toList)).outer = [] ∧
      ¬EndsUnpaired "rbhSgbBBBBpb".toList ∧ "ppbSiBBBBgSb".toList.head? ≠ some 'B' ∧
      (scan ("rbhSgbBBBBpb".toList ++ 'B' :: "ppbSiBBBBgSb".toList) {}).rows =
        (scan "rbhSgbBBBBpb".toList {}).rows ++
          (scan "ppbSiBBBBgSb".toList
            ((Builder.start {}).run (lexemes "rbhSgbBBBBpb".toList)).level.ink).rows := by
  have hclosed : ((Builder.start {}).run (lexemes "rbhSgbBBBBpb".toList)).outer = [] := rfl
  have hpaired : ¬EndsUnpaired "rbhSgbBBBBpb".toList := by
    unfold EndsUnpaired
    decide
  have hrest : "ppbSiBBBBgSb".toList.head? ≠ some 'B' := by decide
  exact ⟨hclosed, hpaired, hrest, scan_break _ _ _ hclosed hpaired hrest⟩

end Slab
