import Slab.Pattern.Group

/-!
# Reading the text of a pattern

The text is taken apart from left to right with the open groups on a stack. A bar separates the
two sides of a choice, a repetition belongs to what stands right before it, and the first fault
ends the reading.
-/

namespace Slab.Pattern

/-- What stands in a group so far. -/
structure Branch where
  /-- Where the group begins. -/
  start : Nat := 0
  /-- What stands before the last bar. -/
  done : Option Tree := none
  /-- Where what stands after it begins. -/
  itemsStart : Nat := start
  /-- What stands after it, newest first. -/
  items : List Tree := []

namespace Branch

/-- What stands after the last bar, in order, up to a place. -/
def sequence (branch : Branch) (stop : Nat) : Tree :=
  let extent := ⟨branch.itemsStart, stop⟩
  match branch.items.reverse with
  | [] => .empty extent
  | first :: rest => rest.foldl (.seq · · extent) first

/-- All that stands in the group up to a place. -/
def tree (branch : Branch) (stop : Nat) : Tree :=
  match branch.done with
  | some done => .alt done (branch.sequence stop) ⟨branch.start, stop⟩
  | none => branch.sequence stop

/-- The branch with one more item. -/
def push (branch : Branch) (item : Tree) : Branch :=
  { branch with items := item :: branch.items }

/-- The branch after a bar at a cursor. -/
def bar (branch : Branch) (cursor : Cursor) : Branch :=
  { start := branch.start
    done := some (branch.tree cursor.position)
    itemsStart := cursor.step.position }

end Branch

/-- A group that is not closed yet. -/
structure OpenGroup where
  /-- What stands around it. -/
  outer : Branch
  /-- It is remembered. -/
  remembered : Bool
  /-- The flags of the group. -/
  settings : Settings
  /-- Its parenthesis. -/
  extent : Extent
  /-- Blanks count for nothing around it. -/
  spaced : Bool

/-- How far a text is taken apart. -/
structure Progress where
  /-- What stands in the innermost group. -/
  branch : Branch := {}
  /-- The open groups, innermost first. -/
  groups : List OpenGroup := []
  /-- Blanks count for nothing. -/
  spaced : Bool := false
  /-- The names of groups, with where they stand. -/
  names : List (List Char × Extent) := []

namespace Progress

/-- Add an item to the innermost group. -/
def push (progress : Progress) (item : Tree) : Progress :=
  { progress with branch := progress.branch.push item }

/-- Whether blanks count for nothing under some flags. -/
def spacedUnder (progress : Progress) (settings : Settings) : Bool :=
  (settings.lookup .spaced).getD progress.spaced

/-- Go into a group whose parenthesis has an extent and whose text begins at a place. -/
def enterGroup (progress : Progress) (remembered : Bool) (settings : Settings) (extent : Extent)
    (start : Nat) : Progress :=
  { progress with
    branch := { start }
    groups :=
      ⟨progress.branch, remembered, settings, extent, progress.spaced⟩ :: progress.groups
    spaced := progress.spacedUnder settings }

/-- Take the opening of a group between two cursors. -/
def openGroup (progress : Progress) (before after : Cursor) :
    Opening → Except Fault Progress
  | .flags settings =>
    .ok { progress.push (.flags settings (after.since before.position)) with
      spaced := progress.spacedUnder settings }
  | .group settings => .ok (progress.enterGroup false settings before.char after.position)
  | .numbered => .ok (progress.enterGroup true [] before.char after.position)
  | .named name extent =>
    match progress.names.lookup name with
    | some earlier => fail .repeatedName extent (some earlier)
    | none =>
      .ok { progress.enterGroup true [] before.char after.position with
        names := (name, extent) :: progress.names }

/-- Close the innermost group with the parenthesis at a cursor. -/
def closeGroup (progress : Progress) (cursor : Cursor) : Except Fault Progress :=
  match progress.groups with
  | [] => fail .strayClose cursor.char
  | closed :: groups =>
    let body := progress.branch.tree cursor.position
    let extent := cursor.step.since closed.extent.start
    .ok { progress with
      branch := closed.outer.push (.group closed.remembered closed.settings body extent)
      groups
      spaced := closed.spaced }

/-- Repeat the last item with what stands between two cursors. -/
def repeatLast (progress : Progress) (before after : Cursor) (least : Nat) (most : Option Nat) :
    Except Fault Progress :=
  match progress.branch.items with
  | [] => fail .nothingToRepeat before.here
  | .flags _ _ :: _ => fail .nothingToRepeat before.here
  | item :: items =>
    let extent := after.since item.extent.start
    .ok { progress with branch.items := .times item least most extent :: items }

/-- There is something to repeat. -/
def canRepeat (progress : Progress) : Bool :=
  match progress.branch.items with
  | [] => false
  | .flags _ _ :: _ => false
  | _ => true

/-- The cursor after a question mark, which asks for the shortest repetition, if there is one. -/
def passLazy (cursor : Cursor) : Cursor :=
  if cursor.rest.head? = some '?' then cursor.step else cursor

/-- Repeat the last item as a single character at a cursor asks for. -/
def repeatSimply (progress : Progress) (cursor : Cursor) (least : Nat) (most : Option Nat) :
    Except Fault (Progress × Cursor) :=
  let after := passLazy cursor.step
  (progress.repeatLast cursor after least most).map fun progress => (progress, after)

/-- Repeat the last item as counts at a cursor ask for. -/
def repeatCounted (progress : Progress) (cursor : Cursor) : Except Fault (Progress × Cursor) := do
  if !progress.canRepeat then fail .nothingToRepeat cursor.here
  else
    let ((least, most), last) ← readCounts progress.spaced cursor
    let after := passLazy (last.next progress.spaced)
    if most.all (least ≤ ·) then return (← progress.repeatLast cursor after least most, after)
    else fail .reversedCounts (after.since cursor.position)

/-- Take the next part of the text. The cursor is not at the end. -/
def read (progress : Progress) (cursor : Cursor) : Except Fault (Progress × Cursor) :=
  let spaced := progress.spaced
  let after := cursor.step
  match cursor.rest with
  | [] => .ok (progress, cursor)
  | '(' :: _ => do
    let (opening, after) ← readGroup spaced cursor
    return (← progress.openGroup cursor after opening, after)
  | ')' :: _ => do return (← progress.closeGroup cursor, after)
  | '|' :: _ => .ok ({ progress with branch := progress.branch.bar cursor }, after)
  | '[' :: _ => do
    let (set, after) ← readSet spaced cursor
    return (progress.push set, after)
  | '?' :: _ => progress.repeatSimply cursor 0 (some 1)
  | '*' :: _ => progress.repeatSimply cursor 0 none
  | '+' :: _ => progress.repeatSimply cursor 1 none
  | '\x7b' :: _ => progress.repeatCounted cursor
  | '\\' :: _ => do
    let (atom, after) ← readEscape spaced cursor
    return (progress.push (.atom atom), after)
  | '.' :: _ => .ok (progress.push (.atom (.dot cursor.char)), after)
  | '^' :: _ => .ok (progress.push (.atom (.anchor .start cursor.char)), after)
  | '$' :: _ => .ok (progress.push (.atom (.anchor .finish cursor.char)), after)
  | c :: _ => .ok (progress.push (.atom (.literal (plain c cursor))), after)

/-- The tree of a text that is taken apart up to its end at a cursor. -/
def finish (progress : Progress) (cursor : Cursor) : Except Fault Tree :=
  match progress.groups with
  | [] => .ok (progress.branch.tree cursor.position)
  | opened :: _ => fail .openGroup opened.extent

/-- Take the text apart to its end. At most so many parts are read, which is never less than
there are. -/
def readAll : Nat → Progress → Cursor → Except Fault Tree
  | 0, progress, cursor => progress.finish cursor
  | count + 1, progress, cursor =>
    let cursor := cursor.settle progress.spaced
    if cursor.rest = [] then progress.finish cursor
    else
      match progress.read cursor with
      | .ok (progress, after) => readAll count progress after
      | .error fault => .error fault

end Progress

/-- A text taken apart. Nothing in it is nested too deep. -/
def Tree.ofChars (text : List Char) : Except Fault Tree := do
  let tree ← ({} : Progress).readAll (text.length + 1) ⟨0, text⟩
  match tree.tooDeep? false 0 with
  | some extent => fail .tooDeep extent
  | none => return tree

end Slab.Pattern
