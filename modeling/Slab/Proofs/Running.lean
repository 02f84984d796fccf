import Slab.Builder
import Slab.Proofs.Cutting

/-!
# Running a builder

A run goes unit by unit. Only `S` and `BB` touch the stack of suspended levels; every other unit
changes the innermost level alone, by `Level.take` (`step_eq_modify`). Ending the program early is
the same as closing all that is open (`run_replicate_close`).
-/

namespace Slab

namespace Level

/-! ### What a unit does to the innermost level -/

/-- The level that a command leaves behind. The beginning of a nested program leaves it
suspended. -/
def obey (level : Level) : Command → Level
  | .breakRow => level.breakRow
  | .grow => level.grow level.ink.color?
  | .recurse => level.grow (some .pale)
  | .raise => level.raise
  | .nest => level.suspend
  | .hue hue => level.reink (·.select hue)
  | .lighten => level.reink .lighten
  | .modeShift => level.idle
  | .modeReset => level.idle

/-- The level after a unit, if no nested program is open around it. -/
def take (level : Level) : Lexeme → Level
  | .close => level.strayClose
  | .command command => level.obey command
  | .noise _ => level

end Level

/-- The grid of a nested program put in the place that was kept for it: in the level that was
suspended, in the colour of that moment. -/
def Level.hold (level : Level) (grid : Grid) : Level :=
  level.suspend.attach level.ink.color? grid

namespace Builder

variable {level : Level} {outer : List Suspended} {waiting : Suspended}

/-- A unit other than the two brackets only changes the innermost level. -/
theorem step_eq_modify (builder : Builder) {unit : Lexeme} (hclose : unit ≠ .close)
    (hnest : unit ≠ .command .nest) : builder.step unit = builder.modify (·.take unit) := by
  rcases unit with _ | command | char
  · exact absurd rfl hclose
  · cases command with
    | nest => exact absurd rfl hnest
    | _ => rfl
  · rfl

/-- A character that neither pairs nor begins a nested program only changes the innermost
level. -/
theorem step_ofChar (builder : Builder) {c : Char} (h : c ≠ 'S') :
    builder.step (.ofChar c) = builder.modify (·.take (.ofChar c)) := by
  refine builder.step_eq_modify (Lexeme.ofChar_ne_close c) ?_
  intro hc
  exact h (Lexeme.ofChar_eq_command_iff.mp hc)

/-- A close with nothing to close is a stray one. -/
@[simp] theorem step_close_nil : (⟨level, []⟩ : Builder).step .close = ⟨level.strayClose, []⟩ :=
  rfl

/-- A close hands the finished grid to the level that waits for it. -/
@[simp] theorem step_close_cons :
    (⟨level, waiting :: outer⟩ : Builder).step .close = ⟨waiting.resume level.finish, outer⟩ :=
  rfl

/-- The beginning of a nested program suspends the level. -/
@[simp] theorem step_nest :
    (⟨level, outer⟩ : Builder).step (.command .nest) =
      ⟨level.nestedStart, ⟨level.suspend, level.ink.color?⟩ :: outer⟩ :=
  rfl

/-! ### Runs -/

/-- Without units nothing happens. -/
@[simp] theorem run_nil (builder : Builder) : builder.run [] = builder := rfl

/-- A run takes in the first unit first. -/
@[simp] theorem run_cons (builder : Builder) (unit : Lexeme) (units : List Lexeme) :
    builder.run (unit :: units) = (builder.step unit).run units := rfl

/-- A run goes on where an earlier one ended. -/
theorem run_append (builder : Builder) (units more : List Lexeme) :
    builder.run (units ++ more) = (builder.run units).run more :=
  List.foldl_append

/-! ### Ending a program -/

/-- With nothing open, the outermost level is the innermost one. -/
@[simp] theorem unwind_nil : (⟨level, []⟩ : Builder).unwind = level := rfl

/-- The innermost nested program is closed first. -/
@[simp] theorem unwind_cons :
    (⟨level, waiting :: outer⟩ : Builder).unwind =
      (⟨waiting.resume level.finish, outer⟩ : Builder).unwind :=
  rfl

/-- As many closes as there are levels opened by a part of a program end that part. -/
theorem run_replicate_close (level : Level) (opened outer : List Suspended) :
    (⟨level, opened ++ outer⟩ : Builder).run (List.replicate opened.length .close) =
      ⟨(⟨level, opened⟩ : Builder).unwind, outer⟩ := by
  induction opened generalizing level with
  | nil => rfl
  | cons waiting opened ih =>
      simp only [List.cons_append, List.length_cons, List.replicate_succ, run_cons,
        step_close_cons, unwind_cons]
      exact ih _

end Builder

/-- The grid of a program is what its run ends with. -/
theorem scan_eq (program : List Char) (ink : Ink) :
    scan program ink = ((Builder.start ink).run (lexemes program)).unwind.finish := rfl

end Slab
