import Slab.Color

/-!
# The command alphabet

A program is a text in which thirteen letters are commands and all other characters mean
nothing. `Command.ofChar?` reads a letter and `Command.letter` writes it.
-/

namespace Slab

/-- The hues that a command can select. -/
inductive Hue
  | red
  | green
  | teal
  | yellow
  | fuchsia
deriving DecidableEq, Repr

/-- The base colour of a hue. Fuchsia is in the alphabet but selects nothing. -/
def Hue.base : Hue → Option Color
  | .red => some ⟨0xDC, 0x26, 0x26⟩
  | .green => some ⟨0x0D, 0x94, 0x88⟩
  | .teal => some ⟨0x25, 0x63, 0xEB⟩
  | .yellow => some ⟨0xEA, 0xB3, 0x08⟩
  | .fuchsia => none

/-- What one letter of a program asks for. -/
inductive Command
  /-- End the open row. -/
  | breakRow
  /-- Start a cell or widen the last one, in the active ink. -/
  | grow
  /-- Stand for the whole program; once expansion is over, grow in the pale colour. -/
  | recurse
  /-- Make the row taller and the next growth start a cell. -/
  | raise
  /-- Begin a nested program. -/
  | nest
  /-- Select a hue. -/
  | hue (hue : Hue)
  /-- Make the ink lighter. -/
  | lighten
  /-- Reserved; does nothing. -/
  | modeShift
  /-- Reserved; does nothing. -/
  | modeReset
deriving DecidableEq, Repr

namespace Command

/-- The command of a letter, if the character is one. -/
def ofChar? : Char → Option Command
  | 'B' => some .breakRow
  | 'b' => some .grow
  | 'i' => some .recurse
  | 'p' => some .raise
  | 'S' => some .nest
  | 'r' => some (.hue .red)
  | 'g' => some (.hue .green)
  | 't' => some (.hue .teal)
  | 'y' => some (.hue .yellow)
  | 'f' => some (.hue .fuchsia)
  | 'h' => some .lighten
  | 'm' => some .modeShift
  | 'n' => some .modeReset
  | _ => none

/-- The letter of a command. -/
def letter : Command → Char
  | .breakRow => 'B'
  | .grow => 'b'
  | .recurse => 'i'
  | .raise => 'p'
  | .nest => 'S'
  | .hue .red => 'r'
  | .hue .green => 'g'
  | .hue .teal => 't'
  | .hue .yellow => 'y'
  | .hue .fuchsia => 'f'
  | .lighten => 'h'
  | .modeShift => 'm'
  | .modeReset => 'n'

/-- A command is read back from its letter. -/
@[simp] theorem ofChar?_letter (command : Command) : ofChar? command.letter = some command := by
  cases command with
  | hue hue => cases hue <;> rfl
  | _ => rfl

/-- Only the ink is touched by selecting a hue and by lightening. -/
def isColoring : Command → Bool
  | .hue _ => true
  | .lighten => true
  | _ => false

end Command

/-- The commands of a program in order, without the characters that mean nothing. -/
def commands (program : List Char) : List Command :=
  program.filterMap Command.ofChar?

end Slab
