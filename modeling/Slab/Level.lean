import Slab.Grid
import Slab.Ink

/-!
# A level under construction

A program builds one grid per nesting level. A `Level` is such a grid while it is being built: the
rows that are done, the row still open, and what the next commands have to know. Rows and cells
are kept newest first, because commands only ever touch the newest.
-/

namespace Slab

/-- A row under construction. -/
structure OpenRow where
  /-- The height so far. -/
  height : Nat
  /-- The cells so far, newest first. -/
  cells : List Cell := []

/-- The row as it stands. -/
def OpenRow.close (row : OpenRow) : Row :=
  ⟨row.height, row.cells.reverse⟩

/-- What the last command that mattered to rows and cells did. -/
inductive LastMove
  /-- It broke a row, or tried to close a nested program when none was open. -/
  | broke
  /-- It started or widened the newest cell. -/
  | grew
  /-- Neither of the two, or nothing has happened yet. -/
  | other
deriving DecidableEq, Repr

/-- A grid under construction. -/
structure Level where
  /-- The rows that are done, newest first. -/
  done : List Row := []
  /-- The row being built, if one is open. -/
  openRow : Option OpenRow := none
  /-- The raises since a cell was last placed; if there are any, growth starts a cell. -/
  pending : Nat := 0
  /-- The length of the run of raises that has just been read. -/
  raiseRun : Nat := 0
  /-- The height that the next row is opened with. -/
  nextHeight : Nat := 1
  /-- What happened last to rows and cells. -/
  lastMove : LastMove := .other
  /-- The ink that growth takes its colour from. -/
  ink : Ink

namespace Level

/-- The level on which a program starts. -/
def start (ink : Ink) : Level := { ink }

/-- The open row, or a fresh one at the height meant for it. -/
def currentRow (level : Level) : OpenRow :=
  level.openRow.getD { height := level.nextHeight }

/-- The rows that are done and, if one is open, that row as it stands; newest first. -/
def allRows (level : Level) : List Row :=
  match level.openRow with
  | some row => row.close :: level.done
  | none => level.done

/-- The grid as it stands. -/
def finish (level : Level) : Grid :=
  ⟨level.allRows.reverse⟩

/-! ### What commands do to a level -/

/-- End the open row, if there is one. The next row starts at height 1. -/
def breakRow (level : Level) : Level :=
  { level with
    done := level.allRows
    openRow := none
    pending := 0
    raiseRun := 0
    nextHeight := 1
    lastMove := .broke }

/-- Meet a close that has nothing to close. The open row stays open. -/
def strayClose (level : Level) : Level :=
  { level with
    raiseRun := 0
    nextHeight := 1
    lastMove := .broke }

/-- Widen the newest cell and recolour it, or start a cell if raises are pending or the row has
none. -/
def grow (level : Level) (color : Option Color) : Level :=
  let row := level.currentRow
  let cells := match row.cells with
    | newest :: older =>
      if level.pending = 0 then { newest with width := newest.width + 1, color } :: older
      else ⟨1, color, none⟩ :: newest :: older
    | [] => [⟨1, color, none⟩]
  { level with
    openRow := some { row with cells }
    pending := 0
    raiseRun := 0
    lastMove := .grew }

/-- Lengthen the run of raises. A run of length `n` asks for a height of at least `n + 1`: of the
open row, or of the next row if none is open or the last move broke one. -/
def raise (level : Level) : Level :=
  let target := level.raiseRun + 2
  let level := { level with pending := level.pending + 1, raiseRun := level.raiseRun + 1 }
  match level.lastMove, level.openRow with
  | .broke, _ => { level with nextHeight := max level.nextHeight target }
  | _, none => { level with nextHeight := max level.nextHeight target, lastMove := .other }
  | _, some row =>
    { level with
      openRow := some { row with height := max row.height target }
      lastMove := .other }

/-- Change the ink. -/
def reink (level : Level) (change : Ink → Ink) : Level :=
  { level with ink := change level.ink, raiseRun := 0 }

/-- Do nothing, which still ends a run of raises. -/
def idle (level : Level) : Level :=
  { level with raiseRun := 0 }

/-! ### Nested programs -/

/-- The level while a nested program is open: its hue is spent. -/
def suspend (level : Level) : Level :=
  { level with ink := level.ink.spend }

/-- The level on which a nested program starts: no hue, the same lightness. -/
def nestedStart (level : Level) : Level :=
  start level.ink.spend

/-- Place a finished nested grid: in the newest cell, if the last move grew it, and otherwise in a
cell of its own. -/
def attach (level : Level) (color : Option Color) (grid : Grid) : Level :=
  let row := level.currentRow
  let cells := match level.lastMove, row.cells with
    | .grew, newest :: older => { newest with color, nested := some grid } :: older
    | _, cells => ⟨1, color, some grid⟩ :: cells
  { level with
    openRow := some { row with cells }
    pending := 0
    raiseRun := 0
    lastMove := .other }

end Level

end Slab
