import Slab.Journal
import Slab.Level
import Slab.Lexeme

/-!
# Building a grid

A builder walks over the units of a program. Commands apply to its innermost level; a nested
program suspends that level on a stack and works on a fresh one until its close hands the finished
grid back. So nesting is limited by memory only, and a program that ends early closes what is
open, innermost first. `scan` is the whole walk.
-/

namespace Slab

/-- A level waiting for its nested program to close. -/
structure Suspended where
  /-- The level as it will be taken up again. -/
  level : Level
  /-- The colour of the cell that will hold the nested grid. -/
  color : Option Color

/-- A suspended level with the finished nested grid put in its place. -/
def Suspended.resume (waiting : Suspended) (grid : Grid) : Level :=
  waiting.level.attach waiting.color grid

/-- A grid under construction together with the levels around it. -/
structure Builder where
  /-- The innermost level, the one that commands apply to. -/
  level : Level
  /-- The levels around it, innermost first. -/
  outer : List Suspended := []

namespace Builder

/-- The builder at the start of a program. -/
def start (ink : Ink) : Builder :=
  { level := .start ink }

/-- Begin a nested program. -/
def nest (builder : Builder) : Builder :=
  { level := builder.level.nestedStart
    outer := ⟨builder.level.suspend, builder.level.ink.color?⟩ :: builder.outer }

/-- End the innermost nested program; if none is open, the close is a stray one. -/
def close (builder : Builder) : Builder :=
  match builder.outer with
  | [] => { builder with level := builder.level.strayClose }
  | waiting :: outer => { level := waiting.resume builder.level.finish, outer }

/-- Apply a change to the innermost level. -/
def modify (builder : Builder) (change : Level → Level) : Builder :=
  { builder with level := change builder.level }

/-- Carry out a command. -/
def perform (builder : Builder) : Command → Builder
  | .breakRow => builder.modify .breakRow
  | .grow => builder.modify fun level => level.grow level.ink.color?
  | .recurse => builder.modify (·.grow (some .pale))
  | .raise => builder.modify .raise
  | .nest => builder.nest
  | .hue hue => builder.modify (·.reink (·.select hue))
  | .lighten => builder.modify (·.reink .lighten)
  | .modeShift => builder.modify .idle
  | .modeReset => builder.modify .idle

/-- Take in one unit of a program. -/
def step (builder : Builder) : Lexeme → Builder
  | .close => builder.close
  | .command letter => builder.perform letter
  | .noise _ => builder

/-- Take in the units of a program in order. -/
def run (builder : Builder) (units : List Lexeme) : Builder :=
  units.foldl step builder

/-- The outermost level once everything still open is closed, innermost first. -/
def unwind (builder : Builder) : Level :=
  builder.outer.foldl (fun level waiting => waiting.resume level.finish) builder.level

/-- The grid of a program that ends here. -/
def finish (builder : Builder) : Grid :=
  builder.unwind.finish

/-! ### Remarks on the way -/

/-- What there is to tell about the next unit. -/
def remark? (builder : Builder) : Lexeme → Option Remark
  | .close => if builder.outer.isEmpty then some .strayClose else none
  | .command _ => none
  | .noise char => some (.skipped char)

/-- Take in one unit and note what there is to tell; the notes are newest first. -/
def stepNoting (progress : Builder × List Remark) (unit : Lexeme) : Builder × List Remark :=
  let (builder, notes) := progress
  (builder.step unit, (builder.remark? unit).toList ++ notes)

/-- What there is to tell about the units of a program and about its end, in order. -/
def remarks (builder : Builder) (units : List Lexeme) : List Remark :=
  let (last, notes) := units.foldl stepNoting (builder, [])
  let unclosed := if last.outer.isEmpty then [] else [.unclosed last.outer.length]
  notes.reverse ++ unclosed

end Builder

/-- The grid that a program describes, started with the given ink. Self-references are not
expanded; they grow in the pale colour. -/
def scan (program : List Char) (ink : Ink) : Grid :=
  ((Builder.start ink).run (lexemes program)).finish

end Slab
