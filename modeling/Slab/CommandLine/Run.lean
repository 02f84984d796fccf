import Slab.CommandLine.Arguments
import Slab.Compile
import Slab.Journal.Filter
import Slab.Json.Layout
import Slab.Outline
import Slab.Paint

/-!
# Runs of the command line

A run turns arguments and the bytes of the input into what is printed, the remarks on the way and
the exit code. The input counts only if no program is given; see `wantsInput`. The size of the
terminal counts only where a grid is painted and no size is given.
-/

namespace Slab.CommandLine

/-- Why a run ends without a result. -/
inductive Failure
  /-- The arguments are wrong. -/
  | usage (fault : UsageFault)
  /-- The lightness is below 1 or not finite. -/
  | badLightness
  /-- The input is not UTF-8. -/
  | unreadableInput
deriving DecidableEq, Repr

/-- The text that reports a failure. -/
def Failure.message : Failure → String
  | .usage fault => "error: " ++ fault.message
  | .badLightness => "Error: Lightness must be a number no less than 1.0."
  | .unreadableInput =>
    "Error: failed to read program from stdin\n\nCaused by:\n    " ++
      "stream did not contain valid UTF-8"

/-- The exit code of a failure. -/
def Failure.exitCode : Failure → Nat
  | .usage _ => 2
  | .badLightness => 1
  | .unreadableInput => 1

/-- What a successful run leaves. -/
structure Result where
  /-- What is printed. -/
  output : String
  /-- What there is to tell, in order. -/
  remarks : List Remark := []

/-- The name and version of the program. -/
def versionText : String := "slab-compiler 0.1.0\n"

/-- The list of options. -/
def helpText : String :=
  "Usage: slab [OPTIONS] [PROGRAM]\n\n" ++
  "Options:\n" ++
  "  -f, --format <FORMAT>        outline, json or paint [default: outline]\n" ++
  "  -n, --no-expand              leave self-references as they are\n" ++
  "  -c, --color <HEX>            starting base color, as #rgb or #rrggbb\n" ++
  "  -l, --lightness <LIGHTNESS>  starting lightness multiplier [default: 1]\n" ++
  "      --width <WIDTH>          width of the painted area\n" ++
  "      --height <HEIGHT>        height of the painted area\n" ++
  "  -e, --expanded               print the expanded program\n" ++
  "  -h, --help                   print this list\n" ++
  "  -V, --version                print the version\n"

/-- The size of a terminal. -/
structure Terminal where
  /-- The number of characters in a line. -/
  width : Nat
  /-- The number of lines. -/
  height : Nat
deriving DecidableEq, Repr

/-- The terminal that is assumed where the size of none is known. -/
def Terminal.assumed : Terminal := ⟨80, 24⟩

/-! ### The program -/

/-- A text without the line ends at its end. -/
def trimLineEnds (text : List Char) : List Char :=
  (text.reverse.dropWhile fun c => c == '\n' || c == '\r').reverse

/-- The program that the bytes of the input hold, if they are UTF-8. -/
def programOfInput? (input : ByteArray) : Option (List Char) :=
  (String.fromUTF8? input).map fun text => trimLineEnds text.toList

/-! ### Results -/

namespace Settings

/-- The lightness can be used. -/
def hasGoodLightness (settings : Settings) : Bool :=
  settings.lightness.isFinite && settings.lightness ≥ 1

/-- How the program is to be compiled. -/
def options (settings : Settings) : CompileOptions where
  allowExpansion := !settings.noExpand
  ink := { base := settings.color, lightness := settings.lightness }

/-- A grid as it is to be printed. A size that is not given is that of the terminal, less a line
for the prompt. -/
def render (settings : Settings) (terminal : Terminal) (grid : Grid) : String :=
  match settings.format with
  | .outline => grid.outline
  | .json => grid.toPrettyJson ++ "\n"
  | .paint =>
    let width := settings.width.getD terminal.width
    let height := settings.height.getD (terminal.height - 1)
    ((Canvas.blank width height).draw grid).paint

/-- The expanded program and what there is to tell about it. -/
def showExpansion (program : List Char) : Result :=
  let expansion := expand program
  { output := String.ofList expansion.program ++ "\n"
    remarks :=
      (if isRecursive program then [expansion.remark program] else []) ++
        [.expansionSize expansion.rounds (byteLength expansion.program) expansion.budget] }

/-- The grid of a program and what there is to tell about it. -/
def showGrid (settings : Settings) (terminal : Terminal) (program : List Char) : Result :=
  let grid := compileChars program settings.options
  { output := settings.render terminal grid
    remarks := compileRemarks program settings.options ++
      [.gridSize grid.rows.length grid.cellCount] }

/-- The result for a program. -/
def perform (settings : Settings) (terminal : Terminal) (program : List Char) : Result :=
  if settings.expanded then showExpansion program else settings.showGrid terminal program

/-- The program of a run: the one that is given, or else the one of the input. -/
def programOr (settings : Settings) (input : ByteArray) : Except Failure (List Char) :=
  match settings.program with
  | some program => .ok program.toList
  | none =>
    match programOfInput? input with
    | some program => .ok program
    | none => .error .unreadableInput

/-- A whole run. The lightness is looked at before the program. -/
def run (settings : Settings) (input : ByteArray) (terminal : Terminal) : Except Failure Result :=
  if settings.hasGoodLightness then (settings.programOr input).map (settings.perform terminal)
  else .error .badLightness

end Settings

/-- The input is needed to answer the arguments. -/
def wantsInput (arguments : List String) : Bool :=
  match Request.ofArguments arguments with
  | .ok (.run settings) => settings.program.isNone && settings.hasGoodLightness
  | _ => false

/-- The answer to some arguments and an input, on a terminal. -/
def answer (arguments : List String) (input : ByteArray) (terminal : Terminal := .assumed) :
    Except Failure Result :=
  match Request.ofArguments arguments with
  | .error fault => .error (.usage fault)
  | .ok .version => .ok { output := versionText }
  | .ok .help => .ok { output := helpText }
  | .ok (.run settings) => settings.run input terminal

/-! ### The error stream -/

/-- The lines that the error stream gets from a result: complaints about the setting of the
journal and the remarks that it lets through. -/
def journalLines (setting : Option String) (result : Result) : List String :=
  let (filter, faults) := JournalFilter.ofSetting setting
  faults.map (·.complaint) ++ (result.remarks.filter filter.admits).map (·.lineWithTopic)

/-- The text that the error stream gets from a failure, after complaints about the setting of the
journal. -/
def failureText (setting : Option String) (failure : Failure) : String :=
  let (_, faults) := JournalFilter.ofSetting setting
  "\n".intercalate (faults.map (·.complaint) ++ [failure.message])

end Slab.CommandLine
