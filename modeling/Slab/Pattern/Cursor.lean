import Slab.Pattern.Fault
import Slab.Text.Blank

/-!
# Walking through the text of a pattern

A `Cursor` stands at a place of a text. Where blanks count for nothing, the cursor passes them
and the comments, which run from a number sign to the end of the line.
-/

namespace Slab.Pattern

/-- A place in a text. -/
structure Cursor where
  /-- The characters before the place. -/
  position : Nat
  /-- What follows. -/
  rest : List Char
deriving DecidableEq, Repr

/-- What follows blanks and comments, with a place for its start. The flag tells whether the text
starts inside a comment. -/
def passBlanks : Bool → Nat → List Char → Cursor
  | _, position, [] => ⟨position, []⟩
  | true, position, c :: rest => passBlanks (c != '\n') (position + 1) rest
  | false, position, c :: rest =>
    if isBlank c then passBlanks false (position + 1) rest
    else if c = '#' then passBlanks true (position + 1) rest
    else ⟨position, c :: rest⟩

namespace Cursor

/-- The cursor after one more character, if there is one. -/
def step : Cursor → Cursor
  | ⟨position, _ :: rest⟩ => ⟨position + 1, rest⟩
  | ⟨position, []⟩ => ⟨position, []⟩

/-- The cursor after so many more characters. -/
def advance (cursor : Cursor) (count : Nat) : Cursor :=
  ⟨cursor.position + count, cursor.rest.drop count⟩

/-- The cursor after blanks and comments, if they count for nothing. -/
def settle (cursor : Cursor) (spaced : Bool) : Cursor :=
  if spaced then passBlanks false cursor.position cursor.rest else cursor

/-- The cursor after one more character, and after blanks and comments if they count for
nothing. -/
def next (cursor : Cursor) (spaced : Bool) : Cursor := cursor.step.settle spaced

/-- The empty extent at the cursor. -/
def here (cursor : Cursor) : Extent := ⟨cursor.position, cursor.position⟩

/-- The extent of the character at the cursor. -/
def char (cursor : Cursor) : Extent := ⟨cursor.position, cursor.position + 1⟩

/-- The extent from a place up to the cursor. -/
def since (cursor : Cursor) (start : Nat) : Extent := ⟨start, cursor.position⟩

/-- The characters at the cursor that are of some kind, as many as there are in a row but at most
so many, and the cursor after them. -/
def gatherFrom (spaced : Bool) (kind : Char → Bool) : Nat → Cursor → List Char × Cursor
  | 0, cursor => ([], cursor)
  | count + 1, cursor =>
    match cursor.rest with
    | [] => ([], cursor)
    | c :: _ =>
      if kind c then
        let (chars, cursor) := gatherFrom spaced kind count (cursor.next spaced)
        (c :: chars, cursor)
      else ([], cursor)

/-- The characters at the cursor that are of some kind, as many as there are in a row, and the
cursor after them. -/
def gather (cursor : Cursor) (spaced : Bool) (kind : Char → Bool) : List Char × Cursor :=
  gatherFrom spaced kind cursor.rest.length cursor

end Cursor

/-- A failed reading. -/
def fail {α : Type} (cause : Cause) (extent : Extent) (earlier : Option Extent := none) :
    Except Fault α :=
  .error { cause, extent, earlier }

end Slab.Pattern
