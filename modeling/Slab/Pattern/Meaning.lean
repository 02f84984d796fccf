import Slab.Pattern.Reading
import Slab.Pattern.Report

/-!
# The pattern that a text denotes

Flags hold from where they stand to the end of the group around them. The tables of digits,
blanks, words, letter cases and properties among all characters are not kept, so a text that asks
for them denotes no pattern; where bytes are described instead, those of ASCII are meant, and
nothing may be described that is a part of a character only.
-/

namespace Slab.Pattern

/-- The flags that hold at a place. -/
structure Flags where
  /-- Letters of either case are the same. -/
  caseless : Bool := false
  /-- The start and the end of a line count as those of the text. -/
  multiLine : Bool := false
  /-- A dot denotes line ends as well. -/
  dotAll : Bool := false
  /-- Characters are described and not bytes. -/
  unicode : Bool := true
  /-- A carriage return may belong to a line end. -/
  crlf : Bool := false
deriving DecidableEq, Repr

namespace Flags

/-- The flags after one is turned on or off. Of two repetitions of different length neither finds
more than the other, and blanks are passed when the text is taken apart. -/
def set (flags : Flags) : Flag → Bool → Flags
  | .caseless, on => { flags with caseless := on }
  | .multiLine, on => { flags with multiLine := on }
  | .dotAll, on => { flags with dotAll := on }
  | .unicode, on => { flags with unicode := on }
  | .crlf, on => { flags with crlf := on }
  | .swapGreed, _ => flags
  | .spaced, _ => flags

/-- The flags after some are turned on and off. -/
def apply (flags : Flags) (settings : Settings) : Flags :=
  settings.foldl (fun flags (flag, on) => flags.set flag on) flags

end Flags

/-! ### Sets of characters -/

/-- The digits of ASCII. -/
def digitRanges : List (Char × Char) := [('0', '9')]

/-- The blanks of ASCII. -/
def blankRanges : List (Char × Char) := [('\t', '\r'), (' ', ' ')]

/-- The characters of words in ASCII. -/
def wordRanges : List (Char × Char) := [('0', '9'), ('A', 'Z'), ('_', '_'), ('a', 'z')]

/-- The characters of a class with an escape. -/
def Shorthand.ranges : Shorthand → List (Char × Char)
  | .digit => digitRanges
  | .blank => blankRanges
  | .word => wordRanges

/-- The characters of a class with a name. -/
def ClassName.ranges : ClassName → List (Char × Char)
  | .alnum => [('0', '9'), ('A', 'Z'), ('a', 'z')]
  | .alpha => [('A', 'Z'), ('a', 'z')]
  | .ascii => [('\x00', '\x7f')]
  | .blank => [('\t', '\t'), (' ', ' ')]
  | .cntrl => [('\x00', '\x1f'), ('\x7f', '\x7f')]
  | .digit => digitRanges
  | .graph => [('!', '~')]
  | .lower => [('a', 'z')]
  | .print => [(' ', '~')]
  | .punct => [('!', '/'), (':', '@'), ('[', '\x60'), ('\x7b', '~')]
  | .space => blankRanges
  | .upper => [('A', 'Z')]
  | .word => wordRanges
  | .xdigit => [('0', '9'), ('A', 'F'), ('a', 'f')]

/-- The set that an operator makes of two. -/
def SetOp.apply : SetOp → CharSet → CharSet → CharSet
  | .inter => .inter
  | .diff => .diff
  | .symmDiff => .symmDiff

/-- The set is made of no character at all, so that it is the same in either case. -/
def hasNoCase : CharSet → Bool
  | .none => true
  | .range _ _ => false
  | .union left right => hasNoCase left && hasNoCase right
  | .inter left right => hasNoCase left && hasNoCase right
  | .diff left right => hasNoCase left && hasNoCase right
  | .symmDiff left right => hasNoCase left && hasNoCase right
  | .compl set => hasNoCase set
  | .caseless set => hasNoCase set

/-- The name of a property as it is looked up: of ASCII only, without blanks, underscores and
hyphens and without a leading `is`, in lower case. -/
def propertyName (name : List Char) : List Char :=
  let bare := match name.map Char.toLower with
    | 'i' :: 's' :: rest => rest
    | whole => whole
  bare.filter fun c => c.toNat < 0x80 && c != ' ' && c != '_' && c != '-'

/-- The name is one of a category, which a property of the same name does not hide. -/
def namesCategory (name : List Char) : Bool :=
  !(name.contains '=' || name.contains ':') &&
    [['c', 'f'], ['s', 'c'], ['l', 'c']].contains (propertyName name)

namespace Flags

/-- A set with its letters in either case, if the flags ask for that. -/
def fold (flags : Flags) (extent : Extent) (set : CharSet) : Except Fault CharSet :=
  if !flags.caseless then .ok set
  else if !flags.unicode then .ok (.caseless set)
  else if hasNoCase set then .ok set
  else fail .unknownCases extent

/-- A set or what is outside it. Outside a set of bytes there are parts of characters. -/
def complement (flags : Flags) (negated : Bool) (extent : Extent) (set : CharSet) :
    Except Fault CharSet :=
  if !negated then .ok set
  else if flags.unicode then .ok (.compl set)
  else fail .splitsCharacters extent

/-- The characters of a class with an escape. -/
def shorthand (flags : Flags) (kind : Shorthand) (negated : Bool) (extent : Extent) :
    Except Fault CharSet :=
  if flags.unicode then fail .unknownClass extent
  else flags.complement negated extent (.ofRanges kind.ranges)

/-- The characters with a property of a name. -/
def property (flags : Flags) (name : List Char) (extent : Extent) : Except Fault CharSet :=
  if !flags.unicode then fail .beyondAscii extent
  else if namesCategory name then fail .unknownCategory extent
  else fail .unknownProperty extent

/-- The character of a literal. As a byte it has to be one of ASCII. -/
def literal (flags : Flags) (char : Literal) : Except Fault Char :=
  if !flags.unicode && char.isByte && 0x80 ≤ char.char.toNat then
    fail .splitsCharacters char.extent
  else .ok char.char

/-- The character of a literal in a set. -/
def setLiteral (flags : Flags) (char : Literal) : Except Fault Char := do
  let c ← flags.literal char
  if flags.unicode || c.toNat < 0x80 then return c else fail .beyondAscii char.extent

end Flags

/-- The characters that stand between brackets. -/
def SetTree.meaning (flags : Flags) : SetTree → Except Fault CharSet
  | .empty _ => .ok .none
  | .literal char => CharSet.single <$> flags.setLiteral char
  | .range first last => do return .range (← flags.setLiteral first) (← flags.setLiteral last)
  | .named name negated extent => do
    let set ← flags.fold extent (.ofRanges name.ranges)
    flags.complement negated extent set
  | .shorthand kind negated extent => flags.shorthand kind negated extent
  | .property name extent => flags.property name extent
  | .bracket negated set extent => do
    let set ← flags.fold extent (← set.meaning flags)
    flags.complement negated extent set
  | .union left right => do return .union (← left.meaning flags) (← right.meaning flags)
  | .combine op left right => do
    let leftSet ← left.meaning flags
    let rightSet ← right.meaning flags
    let rightSet ← flags.fold right.extent rightSet
    let leftSet ← flags.fold left.extent leftSet
    return op.apply leftSet rightSet

/-! ### Whole patterns -/

namespace Flags

/-- The characters that a dot denotes. -/
def dot (flags : Flags) (extent : Extent) : Except Fault CharSet :=
  if !flags.unicode then fail .splitsCharacters extent
  else if flags.dotAll then .ok (.compl .none)
  else if flags.crlf then .ok (.compl (.ofRanges [('\r', '\r'), ('\n', '\n')]))
  else .ok (.compl (.single '\n'))

/-- The places that an anchor denotes. -/
def look (flags : Flags) : Anchor → Look
  | .start => if flags.multiLine then .lineStart flags.crlf else .textStart
  | .finish => if flags.multiLine then .lineEnd flags.crlf else .textEnd
  | .textStart => .textStart
  | .textEnd => .textEnd
  | .wordEdge => .wordEdge
  | .noWordEdge => .noWordEdge
  | .wordStart => .wordStart
  | .wordEnd => .wordEnd
  | .wordStartHalf => .wordStartHalf
  | .wordEndHalf => .wordEndHalf

end Flags

/-- The anchor asks for a word boundary. -/
def Anchor.isWord : Anchor → Bool
  | .start | .finish | .textStart | .textEnd => false
  | _ => true

/-- What an atom describes. -/
def Atom.meaning (flags : Flags) : Atom → Except Fault Pattern
  | .literal char => do
    let c ← flags.literal char
    return .one (← flags.fold char.extent (.single c))
  | .dot extent => .one <$> flags.dot extent
  | .anchor kind _ => .ok (.place (flags.look kind))
  | .shorthand kind negated extent => .one <$> flags.shorthand kind negated extent
  | .property name extent => .one <$> flags.property name extent

/-- What the flags are at a place, and whether words among all characters were asked for up to
it. -/
structure Mode where
  /-- The flags. -/
  flags : Flags := {}
  /-- A boundary of words among all characters was asked for. -/
  asksWords : Bool := false

/-- What a tree describes, and the mode after it. What is taken no times asks for nothing. -/
def Tree.meaning : Tree → Mode → Except Fault (Pattern × Mode)
  | .empty _, mode => .ok (.empty, mode)
  | .flags settings _, mode => .ok (.empty, { mode with flags := mode.flags.apply settings })
  | .atom single, mode => do
    let asks := match single with
      | .anchor kind _ => kind.isWord && mode.flags.unicode
      | _ => false
    return (← single.meaning mode.flags, { mode with asksWords := mode.asksWords || asks })
  | .bracket negated set extent, mode => do
    let set ← mode.flags.fold extent (← set.meaning mode.flags)
    return (.one (← mode.flags.complement negated extent set), mode)
  | .times body least most _, mode => do
    let (pattern, inner) ← body.meaning mode
    if most = some 0 then return (.empty, mode)
    else return (.times pattern least most, inner)
  | .group remembered settings body _, mode => do
    let (pattern, inner) ← body.meaning { mode with flags := mode.flags.apply settings }
    return (if remembered then .group pattern else pattern,
      { mode with asksWords := inner.asksWords })
  | .seq first second _, mode => do
    let (left, mode) ← first.meaning mode
    let (right, mode) ← second.meaning mode
    return (.seq left right, mode)
  | .alt left right _, mode => do
    let (left, mode) ← left.meaning mode
    let (right, mode) ← right.meaning mode
    return (.alt left right, mode)

end Slab.Pattern

namespace Slab

/-- The pattern that a text denotes, or what is wrong with the text. -/
def Pattern.ofChars (text : List Char) : Except Pattern.Flaw Pattern :=
  match Pattern.Tree.ofChars text with
  | .error fault => .error (.inText fault)
  | .ok tree =>
    match tree.meaning {} with
    | .error fault => .error (.inText fault)
    | .ok (pattern, mode) =>
      if Pattern.sizeLimit < pattern.size then .error .tooLarge
      else if mode.asksWords then .error .unknownWords
      else .ok pattern

end Slab
