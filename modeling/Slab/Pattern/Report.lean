import Slab.Decimal.Natural
import Slab.Pattern.Size

/-!
# Reports on the text of a pattern

The report of a fault repeats the text with the extent of the fault underlined. A text of several
lines is shown between two rules with its lines numbered; an extent that covers several lines is
not underlined but named below.
-/

namespace Slab.Pattern

/-- A place in a text of several lines, both numbers counted from 0. -/
structure Place where
  /-- The lines before the place. -/
  line : Nat
  /-- The characters before the place in its line. -/
  column : Nat
deriving DecidableEq, Repr

/-- The place before which so many characters stand. -/
def placeAt (text : List Char) (position : Nat) : Place :=
  let before := text.take position
  ⟨before.count '\n', (before.reverse.takeWhile (· != '\n')).length⟩

/-- An extent by its places. -/
structure Region where
  /-- Where it starts. -/
  start : Place
  /-- Where it ends. -/
  stop : Place
deriving DecidableEq, Repr

namespace Region

/-- The region of an extent of a text. -/
def ofExtent (text : List Char) (extent : Extent) : Region :=
  ⟨placeAt text extent.start, placeAt text extent.stop⟩

/-- The region lies within one line. -/
def isOneLine (region : Region) : Bool :=
  region.start.line == region.stop.line

/-- The sentence that names a region of several lines. Lines and columns are counted from 1, and
the last column is one of the region. -/
def sentence (region : Region) : String :=
  s!"on line {region.start.line + 1} (column {region.start.column + 1}) " ++
    s!"through line {region.stop.line + 1} (column {region.stop.column})"

/-- The carets under a region of a line, of which there is at least one, after the blanks that
lead to it from a column. -/
def underline (column : Nat) (region : Region) : List Char :=
  List.replicate (region.start.column - column) ' ' ++
    List.replicate (max 1 (region.stop.column - region.start.column)) '^'

/-- The carets under regions of a line, from left to right. -/
def underlines : Nat → List Region → List Char
  | _, [] => []
  | column, region :: regions =>
    let carets := region.underline column
    carets ++ underlines (column + carets.length) regions

end Region

/-- The lines of a text. A line end at the end starts no new line, and a carriage return before a
line end belongs to it. -/
def linesOf (text : List Char) : List (List Char) :=
  let pieces := text.splitOn '\n'
  let last := pieces.getLast?.getD []
  let ended := pieces.dropLast.map fun line =>
    if line.getLast? = some '\r' then line.dropLast else line
  if last = [] then ended else ended ++ [last]

namespace Fault

/-- The regions of a fault, from left to right. -/
def regions (fault : Fault) (text : List Char) : List Region :=
  (fault.earlier.toList ++ [fault.extent]).map (Region.ofExtent text)

/-- How many digits the number of a line takes, or 0 if there is a single line. A place after the
last line end counts as a line. -/
def numberWidth (text : List Char) : Nat :=
  let count := (linesOf text).length + if text.getLast? = some '\n' then 1 else 0
  if count ≤ 1 then 0 else (decimal count).length

/-- What stands before the line of an index. -/
def margin (width index : Nat) : List Char :=
  if width = 0 then List.replicate 4 ' '
  else
    let number := decimal (index + 1)
    List.replicate (width - number.length) ' ' ++ number ++ [':', ' ']

/-- A line of a text as it is shown: with its margin and with what is underlined below it. -/
def shownLine (width : Nat) (regions : List Region) (line : List Char) (index : Nat) :
    List Char :=
  let here := regions.filter fun region => region.isOneLine && region.start.line == index
  let below :=
    if here = [] then []
    else
      List.replicate (margin width index).length ' ' ++ Region.underlines 0 here ++ ['\n']
  margin width index ++ line ++ '\n' :: below

/-- The text as it is shown. -/
def shownText (fault : Fault) (text : List Char) : String :=
  let width := numberWidth text
  String.ofList
    ((linesOf text).zipIdx.flatMap fun (line, index) =>
      shownLine width (fault.regions text) line index)

/-- The rule above and below a text of several lines. -/
def rule : String := String.ofList (List.replicate 79 '~') ++ "\n"

/-- The report of a fault in a text. -/
def report (fault : Fault) (text : List Char) : String :=
  let shown := fault.shownText text
  let frame :=
    if '\n' ∈ text then
      let broken := (fault.regions text).filter (!·.isOneLine)
      let notes := if broken = [] then "" else "\n".intercalate (broken.map (·.sentence)) ++ "\n"
      rule ++ shown ++ rule ++ notes
    else shown
  "regex parse error:\n" ++ frame ++ "error: " ++ fault.cause.message

end Fault

/-- The report of a flaw of a text. -/
def Flaw.report (text : List Char) : Flaw → String
  | .inText fault => fault.report text
  | .tooLarge => s!"Compiled regex exceeds size limit of {sizeLimit} bytes."
  | .unknownWords => "error building NFA"

end Slab.Pattern
