import Slab.Builder
import Slab.Expansion

/-!
# Compiling a program

Compiling is total: every text is a program and every program describes a grid. `compile` expands
self-references, if that is allowed, and scans the result; `compileRemarks` tells what there is to
tell about it.
-/

namespace Slab

/-- How a program is compiled. -/
structure CompileOptions where
  /-- Self-references are expanded into copies of the program. -/
  allowExpansion : Bool := true
  /-- The ink that the program starts with. -/
  ink : Ink := {}

/-- The program refers to itself. -/
def isRecursive (program : List Char) : Bool :=
  program.contains Command.recurse.letter

/-- The text that is scanned for a program. -/
def CompileOptions.prepare (options : CompileOptions) (program : List Char) : List Char :=
  if options.allowExpansion && isRecursive program then (expand program).program else program

/-- The grid of a program given by its characters. -/
def compileChars (program : List Char) (options : CompileOptions) : Grid :=
  scan (options.prepare program) options.ink

/-- The grid of a program. -/
def compile (program : String) (options : CompileOptions := {}) : Grid :=
  compileChars program.toList options

/-! ### Remarks -/

/-- What there is to tell about the expansion of a program. -/
def Expansion.remark (expansion : Expansion) (program : List Char) : Remark :=
  .expanded (byteLength program) (byteLength expansion.program) expansion.rounds expansion.budget

/-- What there is to tell about the compilation of a program. There is nothing to tell about the
empty one. -/
def compileRemarks (program : List Char) (options : CompileOptions) : List Remark :=
  if program.isEmpty then []
  else
    let expanding := options.allowExpansion && isRecursive program
    let expansions := if expanding then [(expand program).remark program] else []
    let text := options.prepare program
    let grid := scan text options.ink
    expansions ++ (Builder.start options.ink).remarks (lexemes text) ++
      [.compiled (byteLength text) grid.rows.length grid.depth]

end Slab
