import Slab.Pattern.Fault

/-!
# The structure of the text of a pattern

A `Tree` is the text of a pattern taken apart, before its flags are applied: groups, repetitions,
sets in brackets and single characters, with the extents that faults may have to name.
-/

namespace Slab.Pattern

/-- A character that stands for itself. -/
structure Literal where
  /-- The character. -/
  char : Char
  /-- It is written with two hexadecimal digits, which may mean a byte. -/
  isByte : Bool
  /-- Where it is written. -/
  extent : Extent
deriving DecidableEq, Repr

/-- A class of characters with an escape of its own. -/
inductive Shorthand
  /-- The digits. -/
  | digit
  /-- The blanks. -/
  | blank
  /-- The characters of words. -/
  | word
deriving DecidableEq, Repr

/-- A place that is asked for. -/
inductive Anchor
  /-- The start of the text, or of a line. -/
  | start
  /-- The end of the text, or of a line. -/
  | finish
  /-- The start of the text. -/
  | textStart
  /-- The end of the text. -/
  | textEnd
  /-- A word boundary. -/
  | wordEdge
  /-- No word boundary. -/
  | noWordEdge
  /-- The start of a word. -/
  | wordStart
  /-- The end of a word. -/
  | wordEnd
  /-- Not after a character of a word. -/
  | wordStartHalf
  /-- Not before a character of a word. -/
  | wordEndHalf
deriving DecidableEq, Repr

/-- What an escape or a single character denotes. -/
inductive Atom
  /-- A character. -/
  | literal (literal : Literal)
  /-- Any character, or any but a line end. -/
  | dot (extent : Extent)
  /-- A place. -/
  | anchor (anchor : Anchor) (extent : Extent)
  /-- A character in a class, or outside it. -/
  | shorthand (shorthand : Shorthand) (negated : Bool) (extent : Extent)
  /-- A character with a property of a name. -/
  | property (name : List Char) (extent : Extent)
deriving DecidableEq, Repr

/-- Where an atom is written. -/
def Atom.extent : Atom → Extent
  | .literal char => char.extent
  | .dot extent => extent
  | .anchor _ extent => extent
  | .shorthand _ _ extent => extent
  | .property _ extent => extent

/-- A class of characters of ASCII with a name. -/
inductive ClassName
  | alnum
  | alpha
  | ascii
  | blank
  | cntrl
  | digit
  | graph
  | lower
  | print
  | punct
  | space
  | upper
  | word
  | xdigit
deriving DecidableEq, Repr

/-- The class of a name. -/
def ClassName.ofName? : String → Option ClassName
  | "alnum" => some .alnum
  | "alpha" => some .alpha
  | "ascii" => some .ascii
  | "blank" => some .blank
  | "cntrl" => some .cntrl
  | "digit" => some .digit
  | "graph" => some .graph
  | "lower" => some .lower
  | "print" => some .print
  | "punct" => some .punct
  | "space" => some .space
  | "upper" => some .upper
  | "word" => some .word
  | "xdigit" => some .xdigit
  | _ => none

/-- How two sets are combined. -/
inductive SetOp
  /-- What is in both. -/
  | inter
  /-- What is in the first only. -/
  | diff
  /-- What is in one of them only. -/
  | symmDiff
deriving DecidableEq, Repr

/-- A set of characters in brackets. -/
inductive SetTree
  /-- Nothing between two operators. -/
  | empty (extent : Extent)
  /-- A character. -/
  | literal (literal : Literal)
  /-- A range of characters. -/
  | range (first last : Literal)
  /-- A class with a name, or the characters outside it. -/
  | named (name : ClassName) (negated : Bool) (extent : Extent)
  /-- A class with an escape, or the characters outside it. -/
  | shorthand (shorthand : Shorthand) (negated : Bool) (extent : Extent)
  /-- The characters with a property of a name. -/
  | property (name : List Char) (extent : Extent)
  /-- A set in brackets of its own, or the characters outside it. -/
  | bracket (negated : Bool) (set : SetTree) (extent : Extent)
  /-- What is in one of two sets. -/
  | union (left right : SetTree)
  /-- Two sets combined. -/
  | combine (op : SetOp) (left right : SetTree)
deriving DecidableEq, Repr

/-- Where a set is written. -/
def SetTree.extent : SetTree → Extent
  | .empty extent => extent
  | .literal char => char.extent
  | .range first last => ⟨first.extent.start, last.extent.stop⟩
  | .named _ _ extent => extent
  | .shorthand _ _ extent => extent
  | .property _ extent => extent
  | .bracket _ _ extent => extent
  | .union left right => ⟨left.extent.start, right.extent.stop⟩
  | .combine _ left right => ⟨left.extent.start, right.extent.stop⟩

/-- What changes the meaning of what follows. -/
inductive Flag
  /-- Letters of either case are the same. -/
  | caseless
  /-- The start and the end of a line count as those of the text. -/
  | multiLine
  /-- A dot denotes line ends as well. -/
  | dotAll
  /-- The longest and the shortest repetition change places. -/
  | swapGreed
  /-- Characters are described and not bytes. -/
  | unicode
  /-- A carriage return may belong to a line end. -/
  | crlf
  /-- Blanks and comments count for nothing. -/
  | spaced
deriving DecidableEq, Repr

/-- The flag of a letter. -/
def Flag.ofChar? : Char → Option Flag
  | 'i' => some .caseless
  | 'm' => some .multiLine
  | 's' => some .dotAll
  | 'U' => some .swapGreed
  | 'u' => some .unicode
  | 'R' => some .crlf
  | 'x' => some .spaced
  | _ => none

/-- Flags that are turned on or off. -/
abbrev Settings := List (Flag × Bool)

/-- The text of a pattern taken apart. -/
inductive Tree
  /-- Nothing. -/
  | empty (extent : Extent)
  /-- Flags for the rest of the group. -/
  | flags (settings : Settings) (extent : Extent)
  /-- An escape or a single character. -/
  | atom (atom : Atom)
  /-- A set in brackets, or what is outside it. -/
  | bracket (negated : Bool) (set : SetTree) (extent : Extent)
  /-- So many times in a row. -/
  | times (body : Tree) (least : Nat) (most : Option Nat) (extent : Extent)
  /-- A group with flags of its own, which may be remembered. -/
  | group (remembered : Bool) (settings : Settings) (body : Tree) (extent : Extent)
  /-- One after the other. -/
  | seq (first second : Tree) (extent : Extent)
  /-- One of two. -/
  | alt (left right : Tree) (extent : Extent)
deriving DecidableEq, Repr

namespace Tree

/-- Where the tree is written. -/
def extent : Tree → Extent
  | empty extent => extent
  | flags _ extent => extent
  | atom single => single.extent
  | bracket _ _ extent => extent
  | times _ _ _ extent => extent
  | group _ _ _ extent => extent
  | seq _ _ extent => extent
  | alt _ _ extent => extent

/-- The tree is a sequence. -/
def isSeq : Tree → Bool
  | seq _ _ _ => true
  | _ => false

/-- The tree is a choice. -/
def isAlt : Tree → Bool
  | alt _ _ _ => true
  | _ => false

end Tree

/-! ### Nesting -/

/-- How deep brackets, groups, repetitions, sequences and choices may nest. -/
def nestingLimit : Nat := 250

/-- The extent of what is entered at a depth that is too great, or else what is found inside. -/
def enter (depth : Nat) (extent : Extent) (inside : Option Extent) : Option Extent :=
  if nestingLimit ≤ depth then some extent else inside

/-- The first part of a set, outer ones first, that is nested too deep. A union of several items
is one part, so one that continues another is not entered again. -/
def SetTree.tooDeep? : SetTree → (continued : Bool) → (depth : Nat) → Option Extent
  | .bracket _ set extent, _, depth => enter depth extent (set.tooDeep? false (depth + 1))
  | .union left right, continued, depth =>
    let inner := if continued then depth else depth + 1
    let inside := (left.tooDeep? true inner).or (right.tooDeep? false inner)
    if continued then inside else enter depth ⟨left.extent.start, right.extent.stop⟩ inside
  | .combine _ left right, _, depth =>
    enter depth ⟨left.extent.start, right.extent.stop⟩
      ((left.tooDeep? false (depth + 1)).or (right.tooDeep? false (depth + 1)))
  | _, _, _ => none

/-- The first part of a tree, outer ones first, that is nested too deep. A sequence or a choice is
one part, so one that continues another is not entered again. -/
def Tree.tooDeep? : Tree → (continued : Bool) → (depth : Nat) → Option Extent
  | .bracket _ set extent, _, depth => enter depth extent (set.tooDeep? false (depth + 1))
  | .times body _ _ extent, _, depth => enter depth extent (body.tooDeep? false (depth + 1))
  | .group _ _ body extent, _, depth => enter depth extent (body.tooDeep? false (depth + 1))
  | .seq first second extent, continued, depth =>
    let inner := if continued then depth else depth + 1
    let inside := (first.tooDeep? first.isSeq inner).or (second.tooDeep? false inner)
    if continued then inside else enter depth extent inside
  | .alt left right extent, continued, depth =>
    let inner := if continued then depth else depth + 1
    let inside := (left.tooDeep? left.isAlt inner).or (right.tooDeep? false inner)
    if continued then inside else enter depth extent inside
  | _, _, _ => none

end Slab.Pattern
