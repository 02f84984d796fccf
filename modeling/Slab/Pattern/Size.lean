import Slab.Pattern
import Slab.Pattern.Fault

/-!
# The size of a pattern

A pattern is counted as the automaton that would match it, a state after the other, and counted
repetitions as copies. Patterns above a limit are refused.
-/

namespace Slab

namespace CharSet

/-- The set is one character, and which. -/
def onlyChar? : CharSet → Option Char
  | range first last => if first = last then some first else .none
  | _ => .none

/-- The set may hold a character beyond ASCII. -/
def passesAscii : CharSet → Bool
  | none => false
  | range _ last => 0x80 ≤ last.toNat
  | union left right => left.passesAscii || right.passesAscii
  | inter left right => left.passesAscii && right.passesAscii
  | diff left _ => left.passesAscii
  | symmDiff left right => left.passesAscii || right.passesAscii
  | compl set => !(set.contains '\u0080' && set.passesAscii)
  | caseless set => set.passesAscii

/-- The number of ranges that the characters of ASCII in the set form. -/
def asciiRanges (set : CharSet) : Nat :=
  let held := (List.range 0x80).map fun n => set.contains (Char.ofNat n)
  ((held.zip (false :: held)).filter fun (here, before) => here && !before).length

end CharSet

namespace Pattern

/-- The bytes of a state. -/
def stateSize : Nat := 32

/-- The bytes of a state with two ways on. -/
def forkSize : Nat := stateSize + 8

/-- The bytes of the states for a character of a set: one for each byte of a single character, a
state with its ranges and one to meet in for a set of characters of ASCII, and the states for all
beginnings of a character for other sets. -/
def setSize (set : CharSet) : Nat :=
  match set.onlyChar? with
  | some c => stateSize * c.utf8Size
  | none =>
    if set.passesAscii then 14 * stateSize + 8 * set.asciiRanges
    else 2 * stateSize + 8 * set.asciiRanges

/-- The pattern describes empty pieces only. -/
def isEmptyOnly : Pattern → Bool
  | empty => true
  | one _ => false
  | place _ => true
  | seq first second => first.isEmptyOnly && second.isEmptyOnly
  | alt left right => left.isEmptyOnly && right.isEmptyOnly
  | group body => body.isEmptyOnly
  | times body _ _ => body.isEmptyOnly

/-- The bytes of the states for a pattern. An empty piece is never taken more than once. -/
def statesSize : Pattern → Nat
  | empty => 0
  | one set => setSize set
  | place _ => stateSize
  | seq first second => first.statesSize + second.statesSize
  | alt left right => left.statesSize + right.statesSize + 2 * stateSize + 8
  | group body => body.statesSize + 2 * stateSize
  | times body least none =>
    if body.isEmptyOnly then body.statesSize + forkSize
    else max least 1 * body.statesSize + forkSize
  | times body least (some most) =>
    if body.isEmptyOnly then body.statesSize + forkSize
    else if least = most then least * body.statesSize
    else least * body.statesSize + (most - least) * (body.statesSize + forkSize) + stateSize

/-- The bytes of the whole automaton, with what is around the states for the pattern. -/
def size (pattern : Pattern) : Nat := pattern.statesSize + 208

/-- The greatest size that is accepted. -/
def sizeLimit : Nat := 10 * (1 <<< 20)

end Pattern

end Slab
