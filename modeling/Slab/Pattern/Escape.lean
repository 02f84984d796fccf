import Slab.Color.Text
import Slab.Decimal.Reading
import Slab.Pattern.Cursor
import Slab.Pattern.Tree

/-!
# Escapes

After a backslash, a character other than a letter or a digit stands for itself, and letters stand
for controls, for numbered characters, for classes and for places. There are no references to
groups.
-/

namespace Slab.Pattern

/-! ### Numbered characters -/

/-- The character of a number, if there is one. -/
def charOfNumber? (n : Nat) : Option Char :=
  if h : n.isValidChar then some (Char.ofNatAux n h) else none

/-- The character is a hexadecimal digit. -/
def isHexDigit (c : Char) : Bool :=
  (hexValue? c).isSome

/-- The number that hexadecimal digits spell. -/
def numberOf (digits : List Char) : Nat :=
  digits.foldl (fun n c => 16 * n + (hexValue? c).getD 0) 0

/-- So many hexadecimal digits. -/
def readDigits (spaced : Bool) : Nat → Cursor → Except Fault (List Char × Cursor)
  | 0, cursor => .ok ([], cursor)
  | count + 1, cursor =>
    match cursor.rest with
    | [] => fail .openEscape cursor.here
    | c :: _ =>
      if isHexDigit c then
        match readDigits spaced count (cursor.next spaced) with
        | .ok (digits, cursor) => .ok (c :: digits, cursor)
        | .error fault => .error fault
      else fail .badDigit cursor.char

/-- The character that so many hexadecimal digits number, in an escape that starts at a place. -/
def readFixed (spaced : Bool) (start count : Nat) (cursor : Cursor) :
    Except Fault (Literal × Cursor) :=
  match readDigits spaced count cursor with
  | .error fault => .error fault
  | .ok (digits, after) =>
    match charOfNumber? (numberOf digits) with
    | some char => .ok (⟨char, count == 2, after.since start⟩, after)
    | none => fail .noSuchCharacter (after.since cursor.position)

/-- The character that hexadecimal digits in braces number. The cursor stands at the first
brace. -/
def readBraced (spaced : Bool) (start : Nat) (cursor : Cursor) :
    Except Fault (Literal × Cursor) :=
  let brace := cursor.position
  let (digits, last) := (cursor.next spaced).gather spaced isHexDigit
  match last.rest with
  | [] => fail .openEscape (last.since brace)
  | '\x7d' :: _ =>
    let after := last.next spaced
    if digits = [] then fail .emptyNumber (after.since brace)
    else
      match charOfNumber? (numberOf digits) with
      | some char => .ok (⟨char, false, after.since start⟩, after)
      | none => fail .noSuchCharacter ⟨brace + 1, last.position⟩
  | _ => fail .badDigit last.char

/-- A numbered character. The cursor stands at the letter, which calls for so many digits unless
they are in braces. -/
def readNumbered (spaced : Bool) (start count : Nat) (cursor : Cursor) :
    Except Fault (Literal × Cursor) :=
  let digits := cursor.next spaced
  match digits.rest with
  | [] => fail .openEscape digits.here
  | '\x7b' :: _ => readBraced spaced start digits
  | _ => readFixed spaced start count digits

/-! ### Properties and word boundaries -/

/-- A property: a letter, or a name in braces. The cursor stands at the letter of the escape. -/
def readProperty (spaced : Bool) (start : Nat) (cursor : Cursor) :
    Except Fault (Atom × Cursor) :=
  let name := cursor.next spaced
  match name.rest with
  | [] => fail .openEscape name.here
  | '\x7b' :: _ =>
    let (chars, last) := (name.next spaced).gather spaced (· != '\x7d')
    if last.rest = [] then fail .openEscape last.here
    else .ok (.property chars (last.step.since start), last.step)
  | '\\' :: _ => fail .badProperty name.char
  | c :: _ =>
    let after := name.next spaced
    .ok (.property [c] (after.since start), after)

/-- The kinds of word boundary that have a name. -/
def boundaryOfName? : String → Option Anchor
  | "start" => some .wordStart
  | "end" => some .wordEnd
  | "start-half" => some .wordStartHalf
  | "end-half" => some .wordEndHalf
  | _ => none

/-- The characters of such names. -/
def isBoundaryChar (c : Char) : Bool :=
  c.isAlpha || c == '-'

/-- A word boundary, with its kind in braces, if there is one: braces around anything else are
left for the counts of a repetition. -/
def readBoundary (spaced : Bool) (start : Nat) (cursor : Cursor) :
    Except Fault (Atom × Cursor) :=
  let plain := (Atom.anchor .wordEdge (cursor.since start), cursor)
  match cursor.rest with
  | '\x7b' :: _ =>
    let name := cursor.next spaced
    match name.rest with
    | [] => fail .openBoundaryOrCounts (name.since start)
    | c :: _ =>
      if isBoundaryChar c then
        let (chars, last) := name.gather spaced isBoundaryChar
        match last.rest with
        | '\x7d' :: _ =>
          match boundaryOfName? (String.ofList chars) with
          | some anchor => .ok (.anchor anchor (last.step.since start), last.step)
          | none => fail .unknownBoundary (last.since name.position)
        | _ => fail .openBoundary (last.since cursor.position)
      else .ok plain
  | _ => .ok plain

/-! ### All escapes -/

/-- After a backslash, the character stands for itself: it is one of ASCII but no letter, no digit
and no angle. -/
def isEscapable (c : Char) : Bool :=
  c.toNat < 0x80 && !c.isAlphanum && c != '<' && c != '>'

/-- The control that a letter stands for after a backslash. -/
def controlOf? : Char → Option Char
  | 'a' => some '\x07'
  | 'f' => some '\x0c'
  | 't' => some '\t'
  | 'n' => some '\n'
  | 'r' => some '\r'
  | 'v' => some '\x0b'
  | _ => none

/-- The class that a letter stands for after a backslash. A capital stands for what is outside. -/
def shorthandOf? : Char → Option (Shorthand × Bool)
  | 'd' => some (.digit, false)
  | 'D' => some (.digit, true)
  | 's' => some (.blank, false)
  | 'S' => some (.blank, true)
  | 'w' => some (.word, false)
  | 'W' => some (.word, true)
  | _ => none

/-- The place that a character stands for after a backslash. -/
def anchorOf? : Char → Option Anchor
  | 'A' => some .textStart
  | 'z' => some .textEnd
  | 'B' => some .noWordEdge
  | '<' => some .wordStart
  | '>' => some .wordEnd
  | _ => none

/-- What an escape denotes. The cursor stands at the backslash. -/
def readEscape (spaced : Bool) (cursor : Cursor) : Except Fault (Atom × Cursor) :=
  let start := cursor.position
  let letter := cursor.step
  let after := letter.step
  let extent := after.since start
  let numbered (count : Nat) :=
    (readNumbered spaced start count letter).map fun (literal, cursor) =>
      (Atom.literal literal, cursor)
  match letter.rest with
  | [] => fail .openEscape (letter.since start)
  | 'x' :: _ => numbered 2
  | 'u' :: _ => numbered 4
  | 'U' :: _ => numbered 8
  | 'p' :: _ => readProperty spaced start letter
  | 'P' :: _ => readProperty spaced start letter
  | 'b' :: _ => readBoundary spaced start after
  | c :: _ =>
    match shorthandOf? c, anchorOf? c, controlOf? c with
    | some (shorthand, negated), _, _ => .ok (.shorthand shorthand negated extent, after)
    | none, some anchor, _ => .ok (.anchor anchor extent, after)
    | none, none, some control => .ok (.literal ⟨control, false, extent⟩, after)
    | none, none, none =>
      if isDigit c then fail .backreference extent
      else if isEscapable c then .ok (.literal ⟨c, false, extent⟩, after)
      else fail .unknownEscape extent

end Slab.Pattern
