import Slab.Text.Escape

/-!
# The journal

Building a grid never fails, but there is something to tell about it: characters that mean
nothing, closes without a nested program, nested programs without a close, and sizes. A `Remark`
is one such fact, with a severity, the part of the library it belongs to, and a sentence.
-/

namespace Slab

/-- How much a remark matters, from the most to the least. -/
inductive Severity
  | error
  | warn
  | info
  | debug
  | trace
deriving DecidableEq, Repr

namespace Severity

/-- The place of a severity in the order; what matters less has the higher rank. -/
def rank : Severity → Nat
  | .error => 1
  | .warn => 2
  | .info => 3
  | .debug => 4
  | .trace => 5

/-- The name of a severity in a journal line. -/
def name : Severity → String
  | .error => "ERROR"
  | .warn => "WARN"
  | .info => "INFO"
  | .debug => "DEBUG"
  | .trace => "TRACE"

end Severity

/-- A fact about the building of a grid. -/
inductive Remark
  /-- A program was expanded: its length, the new length, the rounds and the length to reach. -/
  | expanded (before after rounds budget : Nat)
  /-- A character means nothing. -/
  | skipped (char : Char)
  /-- A close has nothing to close. -/
  | strayClose
  /-- So many nested programs run to the end of the text. -/
  | unclosed (count : Nat)
  /-- A grid was built: the length of its program, its rows and its depth. -/
  | compiled (length rows depth : Nat)
  /-- An expanded program is about to be printed. -/
  | expansionSize (rounds length budget : Nat)
  /-- A grid is about to be printed. -/
  | gridSize (rows cells : Nat)
deriving DecidableEq, Repr

namespace Remark

/-- How much a remark matters. -/
def severity : Remark → Severity
  | .skipped _ => .trace
  | .expanded .. => .debug
  | .strayClose => .debug
  | .unclosed _ => .debug
  | .compiled .. => .debug
  | .expansionSize .. => .info
  | .gridSize .. => .info

/-- The part of the program that a remark comes from, by which a journal can be filtered. -/
def topic : Remark → String
  | .expanded .. => "slab_compiler::expand"
  | .skipped _ => "slab_compiler::scanner"
  | .strayClose => "slab_compiler::scanner"
  | .unclosed _ => "slab_compiler::resolver"
  | .compiled .. => "slab_compiler::compiler"
  | .expansionSize .. => "slab"
  | .gridSize .. => "slab"

/-- The sentence of a remark. -/
def message : Remark → String
  | .expanded before after rounds budget =>
    s!"expanded {before} chars into {after} over {rounds} round(s), budget {budget}"
  | .skipped char => "skipping " ++ String.ofList (quoted '\x27' [char])
  | .strayClose => "unmatched BB ignored"
  | .unclosed count => s!"{count} unclosed S, nested bodies run to end of input"
  | .compiled length rows depth =>
    s!"compiled {length} chars into {rows} row(s), depth {depth}"
  | .expansionSize rounds length budget =>
    s!"{rounds} round(s), {length} chars, budget {budget}"
  | .gridSize rows cells => s!"{rows} row(s), {cells} cell(s)"

/-- The severity and the sentence of a remark in one line. -/
def line (remark : Remark) : String :=
  remark.severity.name ++ " " ++ remark.message

/-- The severity, the topic and the sentence of a remark in one line. -/
def lineWithTopic (remark : Remark) : String :=
  remark.severity.name ++ " " ++ remark.topic ++ ": " ++ remark.message

end Remark

end Slab
