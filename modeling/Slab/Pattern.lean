/-!
# Patterns

A pattern describes pieces of text: one character of a set, a place with certain neighbours, one
piece after another, one of two pieces, or a piece several times over. `Pattern.occursIn` tells
whether a piece of a text is described.

The places of a text lie before, between and after its characters. A list of marks, one for each
place, stands for a set of places, and `Pattern.reach` turns the marks of the places where a piece
may begin into the marks of the places where it may end. So a text is never searched twice for
the same reason, whatever the pattern.
-/

namespace Slab

/-- A set of characters. -/
inductive CharSet
  /-- No character. -/
  | none
  /-- The characters from one to another. -/
  | range (first last : Char)
  /-- The characters in one of two sets. -/
  | union (left right : CharSet)
  /-- The characters in both of two sets. -/
  | inter (left right : CharSet)
  /-- The characters in the first set but not in the second. -/
  | diff (left right : CharSet)
  /-- The characters in exactly one of two sets. -/
  | symmDiff (left right : CharSet)
  /-- The characters outside a set. -/
  | compl (set : CharSet)
  /-- The characters of a set, and its letters of ASCII in the other case. -/
  | caseless (set : CharSet)
deriving DecidableEq, Repr

/-- A letter of ASCII in the other case, and any other character itself. -/
def otherCase (c : Char) : Char :=
  if c.isLower then c.toUpper else c.toLower

namespace CharSet

/-- The set holds a character. -/
def contains : CharSet → Char → Bool
  | none, _ => false
  | range first last, c => first ≤ c && c ≤ last
  | union left right, c => left.contains c || right.contains c
  | inter left right, c => left.contains c && right.contains c
  | diff left right, c => left.contains c && !right.contains c
  | symmDiff left right, c => left.contains c != right.contains c
  | compl set, c => !set.contains c
  | caseless set, c => set.contains c || set.contains (otherCase c)

/-- The set of a single character. -/
def single (c : Char) : CharSet := range c c

/-- The set of the characters in some ranges. -/
def ofRanges (ranges : List (Char × Char)) : CharSet :=
  ranges.foldr (fun (first, last) set => union (range first last) set) none

end CharSet

/-- The characters of words: letters, digits and the underscore of ASCII. -/
def isWordChar (c : Char) : Bool :=
  c.isAlphanum || c == '_'

/-- What a place may be required to be. -/
inductive Look
  /-- The start of the text. -/
  | textStart
  /-- The end of the text. -/
  | textEnd
  /-- The start of a line; a carriage return may belong to the line end. -/
  | lineStart (crlf : Bool)
  /-- The end of a line; a carriage return may belong to the line end. -/
  | lineEnd (crlf : Bool)
  /-- The start or the end of a word. -/
  | wordEdge
  /-- Neither the start nor the end of a word. -/
  | noWordEdge
  /-- The start of a word. -/
  | wordStart
  /-- The end of a word. -/
  | wordEnd
  /-- Not after a character of a word. -/
  | wordStartHalf
  /-- Not before a character of a word. -/
  | wordEndHalf
deriving DecidableEq, Repr

namespace Look

/-- The place between two characters, where there are any, is as required. -/
def holds (before after : Option Char) : Look → Bool
  | textStart => before.isNone
  | textEnd => after.isNone
  | lineStart false => before.isNone || before == some '\n'
  | lineStart true =>
    before.isNone || before == some '\n' || (before == some '\r' && after != some '\n')
  | lineEnd false => after.isNone || after == some '\n'
  | lineEnd true =>
    after.isNone || after == some '\r' || (after == some '\n' && before != some '\r')
  | wordEdge => before.any isWordChar != after.any isWordChar
  | noWordEdge => before.any isWordChar == after.any isWordChar
  | wordStart => !before.any isWordChar && after.any isWordChar
  | wordEnd => before.any isWordChar && !after.any isWordChar
  | wordStartHalf => !before.any isWordChar
  | wordEndHalf => !after.any isWordChar

end Look

/-- A description of pieces of text. -/
inductive Pattern
  /-- The empty piece. -/
  | empty
  /-- One character of a set. -/
  | one (set : CharSet)
  /-- The empty piece at a certain kind of place. -/
  | place (look : Look)
  /-- A piece and then another. -/
  | seq (first second : Pattern)
  /-- One of two pieces. -/
  | alt (left right : Pattern)
  /-- A piece that is remembered as a group. -/
  | group (body : Pattern)
  /-- So many pieces in a row. -/
  | times (body : Pattern) (least : Nat) (most : Option Nat)
deriving DecidableEq, Repr

/-! ### Marks -/

/-- The characters around each place of a text. -/
def neighbours (text : List Char) : List (Option Char × Option Char) :=
  (none :: text.map some).zip (text.map some ++ [none])

/-- The marks of either list. -/
def bothMarks (left right : List Bool) : List Bool :=
  List.zipWith (· || ·) left right

/-- Take a step so many times, or until it changes nothing. -/
def stepsFrom (step : List Bool → List Bool) : Nat → List Bool → List Bool
  | 0, marks => marks
  | count + 1, marks =>
    let next := step marks
    if next = marks then marks else stepsFrom step count next

/-- The marks that are reached in at most so many steps. -/
def withinSteps (step : List Bool → List Bool) (count : Nat) (marks : List Bool) : List Bool :=
  stepsFrom (fun marks => bothMarks marks (step marks)) count marks

namespace Pattern

/-- The places where a described piece may end if it begins at a marked place. A text has no more
than its length and one place, so a piece without an upper count need not be taken more often. -/
def reach (text : List Char) : Pattern → List Bool → List Bool
  | empty, marks => marks
  | one set, marks => false :: List.zipWith (fun mark c => mark && set.contains c) marks text
  | place look, marks =>
    List.zipWith (fun mark (before, after) => mark && look.holds before after) marks
      (neighbours text)
  | seq first second, marks => second.reach text (first.reach text marks)
  | alt left right, marks => bothMarks (left.reach text marks) (right.reach text marks)
  | group body, marks => body.reach text marks
  | times body least most, marks =>
    let count := match most with
      | some most => most - least
      | none => text.length + 1
    withinSteps (body.reach text) count (stepsFrom (body.reach text) least marks)

/-- A described piece occurs in a text. -/
def occursIn (pattern : Pattern) (text : List Char) : Bool :=
  (pattern.reach text (List.replicate (text.length + 1) true)).any id

end Pattern

end Slab
