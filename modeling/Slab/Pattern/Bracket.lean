import Slab.Pattern.Escape

/-!
# Sets in brackets

Between brackets stand characters, ranges, classes and sets in brackets of their own, side by side
for their union, or with an operator between them. Operators are taken from the left. A minus at
the front, or a closing bracket at the very front, stands for itself.
-/

namespace Slab.Pattern

/-- A set whose brackets are not closed yet. -/
structure OpenSet where
  /-- Where its bracket stands. -/
  start : Nat
  /-- What a fault shows if the bracket is never closed. -/
  opening : Extent
  /-- What is outside the set is meant. -/
  negated : Bool
  /-- What stands before the last operator. -/
  left : Option (SetOp × SetTree) := none
  /-- What stands after it, newest first. -/
  items : List SetTree
  /-- Where that begins. -/
  itemsStart : Nat

namespace OpenSet

/-- The set with one more item. -/
def push (set : OpenSet) (item : SetTree) : OpenSet :=
  { set with items := item :: set.items }

/-- The union of the items after the last operator. -/
def union (set : OpenSet) : SetTree :=
  match set.items.reverse with
  | [] => .empty ⟨set.itemsStart, set.itemsStart⟩
  | first :: rest => rest.foldl .union first

/-- All that stands between the brackets so far. -/
def tree (set : OpenSet) : SetTree :=
  match set.left with
  | some (op, left) => .combine op left set.union
  | none => set.union

/-- The set with an operator after what stands there, which ends at a place. -/
def operator (set : OpenSet) (op : SetOp) (after : Nat) : OpenSet :=
  { set with left := some (op, set.tree), items := [], itemsStart := after }

end OpenSet

/-- A character that is written as itself. -/
def plain (c : Char) (cursor : Cursor) : Literal := ⟨c, false, cursor.char⟩

/-! ### The front of a set -/

/-- The minuses at the front of a set, newest first. At most so many are read. -/
def readMinuses (spaced : Bool) (start : Nat) :
    Nat → List SetTree → Cursor → Except Fault (List SetTree × Cursor)
  | 0, items, cursor => .ok (items, cursor)
  | count + 1, items, cursor =>
    match cursor.rest with
    | '-' :: _ =>
      let after := cursor.next spaced
      if after.rest = [] then fail .openSet ⟨start, start⟩
      else readMinuses spaced start count (.literal (plain '-' cursor) :: items) after
    | _ => .ok (items, cursor)

/-- The front of a set. The cursor stands at its bracket. -/
def readOpening (spaced : Bool) (cursor : Cursor) : Except Fault (OpenSet × Cursor) := do
  let start := cursor.position
  let nonempty (cursor : Cursor) : Except Fault Cursor :=
    if cursor.rest = [] then fail .openSet (cursor.since start) else .ok cursor
  let first ← nonempty (cursor.next spaced)
  let negated := first.rest.head? == some '^'
  let first ← if negated then nonempty (first.next spaced) else .ok first
  let (minuses, after) ← readMinuses spaced start first.rest.length [] first
  if minuses = [] ∧ after.rest.head? = some ']' then
    let last ← nonempty (after.next spaced)
    return ({ start, opening := last.since start, negated,
              items := [.literal (plain ']' after)], itemsStart := first.position }, last)
  else
    return ({ start, opening := after.since start, negated,
              items := minuses, itemsStart := first.position }, after)

/-! ### The items of a set -/

/-- A class with a name between colons in brackets, if one stands at the cursor. -/
def readNamed? (cursor : Cursor) : Option (SetTree × Cursor) :=
  match cursor.rest with
  | '[' :: ':' :: text =>
    let negated := text.head? == some '^'
    let body := if negated then text.drop 1 else text
    let name := body.takeWhile (· != ':')
    match body.dropWhile (· != ':') with
    | ':' :: ']' :: _ =>
      let after := cursor.advance (name.length + if negated then 5 else 4)
      (ClassName.ofName? (String.ofList name)).map fun kind =>
        (.named kind negated (after.since cursor.position), after)
    | _ => none
  | _ => none

/-- A single character or an escape. The cursor is not at the end. -/
def readSetAtom (spaced : Bool) (cursor : Cursor) : Except Fault (Atom × Cursor) :=
  match cursor.rest with
  | [] => fail .openEscape cursor.here
  | '\\' :: _ => readEscape spaced cursor
  | c :: _ => .ok (.literal (plain c cursor), cursor.step)

/-- An atom as an item of a set. -/
def Atom.asItem : Atom → Except Fault SetTree
  | .literal char => .ok (.literal char)
  | .shorthand class_ negated extent => .ok (.shorthand class_ negated extent)
  | .property name extent => .ok (.property name extent)
  | .dot extent => fail .escapeInSet extent
  | .anchor _ extent => fail .escapeInSet extent

/-- An atom as the end of a range. -/
def Atom.asRangeEnd : Atom → Except Fault Literal
  | .literal char => .ok char
  | atom => fail .badRangeEnd atom.extent

/-- The character that decides whether a minus before a text joins a range. Where blanks count
for nothing it is the next one that is none, and the front of a comment is looked into for it. -/
def decidingChar? (spaced : Bool) (text : List Char) : Option Char :=
  if spaced then
    match text.dropWhile isBlank with
    | '#' :: comment => (comment.dropWhile isBlank).head?
    | rest => rest.head?
  else text.head?

/-- A character, a class or a range. The opening of the set is what a fault shows if the text
ends. -/
def readItem (spaced : Bool) (opening : Extent) (cursor : Cursor) :
    Except Fault (SetTree × Cursor) := do
  let (first, after) ← readSetAtom spaced cursor
  let after := after.settle spaced
  match after.rest with
  | [] => fail .openSet opening
  | '-' :: text =>
    match decidingChar? spaced text with
    | some ']' => return (← first.asItem, after)
    | some '-' => return (← first.asItem, after)
    | _ =>
      let beyond := after.next spaced
      if beyond.rest = [] then fail .openSet opening
      let (last, after) ← readSetAtom spaced beyond
      let first ← first.asRangeEnd
      let last ← last.asRangeEnd
      if first.char ≤ last.char then return (.range first last, after)
      else fail .reversedRange ⟨first.extent.start, last.extent.stop⟩
  | _ => return (← first.asItem, after)

/-! ### Whole sets -/

/-- The operator that two characters are. -/
def setOp? : List Char → Option SetOp
  | '&' :: '&' :: _ => some .inter
  | '-' :: '-' :: _ => some .diff
  | '~' :: '~' :: _ => some .symmDiff
  | _ => none

/-- The rest of a set inside others, innermost first. At most so many items are read, which is
never less than there are. -/
def readSetFrom (spaced : Bool) :
    Nat → OpenSet → List OpenSet → Cursor → Except Fault (Tree × Cursor)
  | 0, set, _, _ => fail .openSet set.opening
  | count + 1, set, outer, cursor =>
    let cursor := cursor.settle spaced
    match setOp? cursor.rest, cursor.rest with
    | _, [] => fail .openSet set.opening
    | some op, _ =>
      let after := cursor.advance 2
      readSetFrom spaced count (set.operator op after.position) outer after
    | none, '[' :: _ =>
      match readNamed? cursor with
      | some (item, after) => readSetFrom spaced count (set.push item) outer after
      | none =>
        match readOpening spaced cursor with
        | .ok (inner, after) => readSetFrom spaced count inner (set :: outer) after
        | .error fault => .error fault
    | none, ']' :: _ =>
      let after := cursor.step
      let extent := after.since set.start
      match outer with
      | [] => .ok (.bracket set.negated set.tree extent, after)
      | next :: outer =>
        readSetFrom spaced count (next.push (.bracket set.negated set.tree extent)) outer after
    | none, _ =>
      match readItem spaced set.opening cursor with
      | .ok (item, after) => readSetFrom spaced count (set.push item) outer after
      | .error fault => .error fault

/-- A set in brackets. The cursor stands at its bracket. -/
def readSet (spaced : Bool) (cursor : Cursor) : Except Fault (Tree × Cursor) :=
  match readOpening spaced cursor with
  | .ok (set, after) => readSetFrom spaced (after.rest.length + 1) set [] after
  | .error fault => .error fault

end Slab.Pattern
