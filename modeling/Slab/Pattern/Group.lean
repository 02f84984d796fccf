import Slab.Pattern.Bracket
import Slab.Text.Letters

/-!
# Groups and counts

A group starts with a parenthesis and may have a name or flags of its own; flags without a group
hold for the rest of the group around them. A repetition may have its counts in braces.
-/

namespace Slab.Pattern

/-! ### Flags -/

/-- A flag or a minus before flags. -/
inductive FlagItem
  /-- A flag. -/
  | flag (flag : Flag)
  /-- What follows is turned off. -/
  | minus
deriving DecidableEq, Repr

/-- What an item is that is there twice. -/
def FlagItem.repeated : FlagItem → Cause
  | .flag _ => .repeatedFlag
  | .minus => .repeatedMinus

/-- The item of a character. -/
def FlagItem.ofChar? (c : Char) : Option FlagItem :=
  if c = '-' then some .minus else (Flag.ofChar? c).map .flag

/-- The flags that items turn on and off. -/
def settingsOf : Bool → List FlagItem → Settings
  | _, [] => []
  | _, .minus :: items => settingsOf false items
  | on, .flag flag :: items => (flag, on) :: settingsOf on items

/-- The flags up to a colon or a closing parenthesis, with the cursor at it. The items read so
far, newest first, come with their extents; at most so many more are read. -/
def readFlagsFrom :
    Nat → List (FlagItem × Extent) → Cursor → Except Fault (Settings × Cursor)
  | 0, _, cursor => fail .openFlags cursor.here
  | count + 1, items, cursor =>
    match cursor.rest with
    | [] => fail .openFlags cursor.here
    | c :: _ =>
      if c = ':' ∨ c = ')' then
        match items with
        | (.minus, extent) :: _ => fail .danglingMinus extent
        | _ => .ok (settingsOf true (items.reverse.map (·.1)), cursor)
      else
        match FlagItem.ofChar? c with
        | none => fail .unknownFlag cursor.char
        | some item =>
          match items.lookup item with
          | some earlier => fail item.repeated cursor.char (some earlier)
          | none => readFlagsFrom count ((item, cursor.char) :: items) cursor.step

/-- The flags up to a colon or a closing parenthesis, with the cursor at it. -/
def readFlags (cursor : Cursor) : Except Fault (Settings × Cursor) :=
  readFlagsFrom (cursor.rest.length + 1) [] cursor

/-! ### Openings -/

/-- How a group opens. -/
inductive Opening
  /-- Flags for the rest of the group around it. -/
  | flags (settings : Settings)
  /-- A group that is not remembered, with flags of its own. -/
  | group (settings : Settings)
  /-- A group that is remembered. -/
  | numbered
  /-- A group that is remembered by a name. -/
  | named (name : List Char) (extent : Extent)

/-- The character can be the first of a name. -/
def startsName (c : Char) : Bool :=
  isLetter c || c == '_'

/-- The character can be part of a name. -/
def continuesName (c : Char) : Bool :=
  isLetterOrNumber c || c == '_' || c == '.' || c == '[' || c == ']'

/-- The name of a group, up to a closing angle. -/
def readName (cursor : Cursor) : Except Fault (Opening × Cursor) :=
  let (name, last) := cursor.gather false continuesName
  match cursor.rest, last.rest with
  | [], _ => fail .openName cursor.here
  | first :: _, after =>
    if first ≠ '>' ∧ !startsName first then fail .badName cursor.char
    else
      match after with
      | [] => fail .openName last.here
      | '>' :: _ =>
        if name = [] then fail .emptyName cursor.here
        else .ok (.named name (last.since cursor.position), last.step)
      | _ => fail .badName last.char

/-- A way to look ahead or back stands at the front of a text; its length. -/
def lookAround? : List Char → Option Nat
  | '?' :: '=' :: _ => some 2
  | '?' :: '!' :: _ => some 2
  | '?' :: '<' :: '=' :: _ => some 3
  | '?' :: '<' :: '!' :: _ => some 3
  | _ => none

/-- How a group opens. The cursor stands at its parenthesis. -/
def readGroup (spaced : Bool) (cursor : Cursor) : Except Fault (Opening × Cursor) :=
  let inner := cursor.next spaced
  match lookAround? inner.rest, inner.rest with
  | some length, _ => fail .lookAround ((inner.advance length).since cursor.position)
  | none, '?' :: 'P' :: '<' :: _ => readName (inner.advance 3)
  | none, '?' :: '<' :: _ => readName (inner.advance 2)
  | none, ['?'] => fail .openGroup cursor.char
  | none, '?' :: _ =>
    match readFlags inner.step with
    | .error fault => .error fault
    | .ok (settings, last) =>
      if last.rest.head? = some ':' then .ok (.group settings, last.step)
      else if settings = [] then fail .nothingToRepeat inner.here
      else .ok (.flags settings, last.step)
  | none, _ => .ok (.numbered, inner)

/-! ### Counts -/

/-- A decimal number, or what is wrong with it, between blanks. -/
def readCount (spaced : Bool) (cursor : Cursor) : Except Fault Nat × Cursor :=
  let first := (cursor.gather false isBlank).2
  let (digits, last) := first.gather spaced isDigit
  let after := (last.gather spaced isBlank).2
  let extent := last.since first.position
  if digits = [] then (fail .emptyCount extent, after)
  else if ofDigits digits < UInt32.size then (.ok (ofDigits digits), after)
  else (fail .hugeCount extent, after)

/-- The counts of a repetition: `{n}`, `{n,}` or `{n,m}`. The cursor stands at the brace, and in
the end after the other one. -/
def readCounts (spaced : Bool) (cursor : Cursor) :
    Except Fault ((Nat × Option Nat) × Cursor) := do
  let start := cursor.position
  let unclosed (cursor : Cursor) : Except Fault ((Nat × Option Nat) × Cursor) :=
    fail .openCounts (cursor.since start)
  let close (cursor : Cursor) (least : Nat) (most : Option Nat) :
      Except Fault ((Nat × Option Nat) × Cursor) :=
    if cursor.rest.head? ≠ some '\x7d' then unclosed cursor
    else .ok ((least, most), cursor)
  let first := cursor.next spaced
  let (least, after) := readCount spaced first
  if first.rest = [] then unclosed first
  else if after.rest = [] then unclosed after
  else if after.rest.head? = some ',' then
    let second := after.next spaced
    if second.rest = [] then unclosed second
    else if second.rest.head? = some '\x7d' then close second (← least) none
    else
      let least ← least
      let (most, last) := readCount spaced second
      close last least (some (← most))
  else
    let least ← least
    close after least (some least)

end Slab.Pattern
