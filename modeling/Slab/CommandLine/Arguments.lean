import Slab.Color.Text
import Slab.Decimal.Reading

/-!
# Arguments

The grammar of the command line. An option is written `-f json`, `-fjson`, `-f=json`,
`--format json` or `--format=json`; letters of switches may be written together. A value that
starts with a minus has to be attached. Everything after `--` is a program, and so is an argument
that is no option. Nothing may be given twice.
-/

namespace Slab.CommandLine

/-- How a grid is printed. -/
inductive Format
  /-- The indented outline. -/
  | outline
  /-- JSON, a line for every item. -/
  | json
  /-- Coloured blanks for a terminal. -/
  | paint
deriving DecidableEq, Repr

/-- What a run is asked to do. -/
structure Settings where
  /-- The program, if it is not to be read from the input. -/
  program : Option String := none
  /-- How the grid is printed. -/
  format : Format := .outline
  /-- Self-references are left as they are. -/
  noExpand : Bool := false
  /-- The base colour to start with. -/
  color : Option Color := none
  /-- The lightness to start with. -/
  lightness : Float := 1
  /-- The width of a painted canvas, if given. -/
  width : Option Nat := none
  /-- The height of a painted canvas, if given. -/
  height : Option Nat := none
  /-- The expanded program is printed instead of its grid. -/
  expanded : Bool := false

/-- What the arguments ask for. -/
inductive Request
  /-- The version. -/
  | version
  /-- The list of options. -/
  | help
  /-- A run. -/
  | run (settings : Settings)

/-- An option without a value. -/
inductive Switch
  | noExpand
  | expanded
  | help
  | version
deriving DecidableEq, Repr

/-- An option with a value. -/
inductive Setting
  | format
  | color
  | lightness
  | width
  | height
deriving DecidableEq, Repr

/-- An option of either kind. -/
inductive Opt
  | switch (switch : Switch)
  | setting (setting : Setting)
deriving DecidableEq, Repr

/-- What can be wrong with the arguments. -/
inductive UsageFault
  /-- There is no such option. -/
  | unknown (name : String)
  /-- An option lacks its value. -/
  | missingValue (setting : Setting)
  /-- A value is not one of those that the option takes. -/
  | badValue (setting : Setting) (value : String)
  /-- A switch is given a value. -/
  | needlessValue (switch : Switch) (value : String)
  /-- Something is given twice. -/
  | repeated
deriving DecidableEq, Repr

/-- The name of an option with a value. -/
def Setting.name : Setting → String
  | .format => "--format"
  | .color => "--color"
  | .lightness => "--lightness"
  | .width => "--width"
  | .height => "--height"

/-- The name of an option without a value. -/
def Switch.name : Switch → String
  | .noExpand => "--no-expand"
  | .expanded => "--expanded"
  | .help => "--help"
  | .version => "--version"

/-- The sentence that reports a fault. -/
def UsageFault.message : UsageFault → String
  | .unknown name => "unexpected argument " ++ name
  | .missingValue setting => "a value is required for " ++ setting.name
  | .badValue setting value => "invalid value " ++ value ++ " for " ++ setting.name
  | .needlessValue switch value => "unexpected value " ++ value ++ " for " ++ switch.name
  | .repeated => "an argument is given more than once"

/-- The option of a letter. -/
def optOfLetter? : Char → Option Opt
  | 'f' => some (.setting .format)
  | 'c' => some (.setting .color)
  | 'l' => some (.setting .lightness)
  | 'n' => some (.switch .noExpand)
  | 'e' => some (.switch .expanded)
  | 'h' => some (.switch .help)
  | 'V' => some (.switch .version)
  | _ => none

/-- The option of a word. -/
def optOfWord? : String → Option Opt
  | "format" => some (.setting .format)
  | "color" => some (.setting .color)
  | "lightness" => some (.setting .lightness)
  | "width" => some (.setting .width)
  | "height" => some (.setting .height)
  | "no-expand" => some (.switch .noExpand)
  | "expanded" => some (.switch .expanded)
  | "help" => some (.switch .help)
  | "version" => some (.switch .version)
  | _ => none

/-! ### Values -/

/-- The format of a name. -/
def Format.ofName? : String → Option Format
  | "outline" => some .outline
  | "json" => some .json
  | "paint" => some .paint
  | _ => none

/-- A length from 0 to 65535, with an optional sign. -/
def readLength? (text : List Char) : Option Nat :=
  let (negative, digits) := splitSign text
  let n := ofDigits digits
  if digits ≠ [] ∧ digits.all isDigit ∧ n < UInt16.size ∧ (negative → n = 0) then some n else none

/-- The settings with one value filled in, if the option takes it. -/
def Settings.assign? (settings : Settings) (value : List Char) : Setting → Option Settings
  | .format =>
    (Format.ofName? (String.ofList value)).map fun format => { settings with format }
  | .color =>
    match Color.ofChars value with
    | .ok color => some { settings with color := some color }
    | .error _ => none
  | .lightness => (readReal? value).map fun lightness => { settings with lightness }
  | .width => (readLength? value).map fun width => { settings with width := some width }
  | .height => (readLength? value).map fun height => { settings with height := some height }

/-! ### Reading the arguments -/

/-- How far the arguments have been read. -/
structure Progress where
  /-- What is set so far. -/
  settings : Settings := {}
  /-- The options met so far. -/
  seen : List Opt := []
  /-- The option whose value has to follow. -/
  awaiting : Option Setting := none
  /-- All that follows is a program. -/
  literal : Bool := false

/-- Where reading an argument leads. -/
inductive Outcome
  /-- Reading goes on. -/
  | further (progress : Progress)
  /-- The request is settled, whatever follows. -/
  | settled (request : Request)

namespace Progress

/-- Note that an option is met. -/
def meet (progress : Progress) (opt : Opt) : Except UsageFault Progress :=
  if opt ∈ progress.seen then .error .repeated
  else .ok { progress with seen := opt :: progress.seen }

/-- Fill in the value of an option. -/
def assign (progress : Progress) (setting : Setting) (value : List Char) :
    Except UsageFault Progress :=
  match progress.meet (.setting setting) with
  | .error fault => .error fault
  | .ok progress =>
    match progress.settings.assign? value setting with
    | some settings => .ok { progress with settings, awaiting := none }
    | none => .error (.badValue setting (String.ofList value))

/-- Turn a switch on. -/
def turnOn (progress : Progress) : Switch → Except UsageFault Outcome
  | .noExpand => (progress.meet (.switch .noExpand)).map fun progress =>
    .further { progress with settings := { progress.settings with noExpand := true } }
  | .expanded => (progress.meet (.switch .expanded)).map fun progress =>
    .further { progress with settings := { progress.settings with expanded := true } }
  | .help => .ok (.settled .help)
  | .version => .ok (.settled .version)

/-- Take an argument as the program. -/
def takeProgram (progress : Progress) (program : String) : Except UsageFault Outcome :=
  if progress.settings.program.isSome then .error .repeated
  else .ok (.further
    { progress with settings := { progress.settings with program := some program } })

/-- Read letters written together. A letter of an option with a value takes all that follows as
the value, less an equals sign in front. -/
def readLetters (progress : Progress) : List Char → Except UsageFault Outcome
  | [] => .ok (.further progress)
  | letter :: rest =>
    match optOfLetter? letter with
    | none => .error (.unknown (String.ofList ['-', letter]))
    | some (.switch switch) =>
      match progress.turnOn switch with
      | .ok (.further progress) => progress.readLetters rest
      | other => other
    | some (.setting setting) =>
      match rest with
      | [] => .ok (.further { progress with awaiting := some setting })
      | '=' :: value => (progress.assign setting value).map .further
      | value => (progress.assign setting value).map .further

/-- Read a word after two minuses, with a value after an equals sign, if there is one. -/
def readWord (progress : Progress) (text : List Char) : Except UsageFault Outcome :=
  let name := text.takeWhile (· != '=')
  let value? := match text.dropWhile (· != '=') with
    | _ :: value => some value
    | [] => none
  match optOfWord? (String.ofList name), value? with
  | none, _ => .error (.unknown (String.ofList ('-' :: '-' :: name)))
  | some (.switch switch), none => progress.turnOn switch
  | some (.switch switch), some value => .error (.needlessValue switch (String.ofList value))
  | some (.setting setting), none => .ok (.further { progress with awaiting := some setting })
  | some (.setting setting), some value => (progress.assign setting value).map .further

/-- Read one argument. Where a value has to follow, only an argument that could not be an option
is taken for it. -/
def read (progress : Progress) (argument : String) : Except UsageFault Outcome :=
  let looksLikeOption := match argument.toList with
    | '-' :: _ :: _ => !progress.literal
    | _ => false
  match progress.awaiting with
  | some setting =>
    if looksLikeOption then .error (.missingValue setting)
    else (progress.assign setting argument.toList).map .further
  | none =>
    if looksLikeOption then
      match argument.toList with
      | ['-', '-'] => .ok (.further { progress with literal := true })
      | '-' :: '-' :: text => progress.readWord text
      | text => progress.readLetters (text.drop 1)
    else progress.takeProgram argument

/-- Read arguments to the end or until the request is settled. -/
def readAll (progress : Progress) : List String → Except UsageFault Request
  | [] =>
    match progress.awaiting with
    | some setting => .error (.missingValue setting)
    | none => .ok (.run progress.settings)
  | argument :: arguments =>
    match progress.read argument with
    | .error fault => .error fault
    | .ok (.settled request) => .ok request
    | .ok (.further progress) => progress.readAll arguments

end Progress

/-- What the arguments ask for. -/
def Request.ofArguments (arguments : List String) : Except UsageFault Request :=
  ({} : Progress).readAll arguments

end Slab.CommandLine
