/-!
# Sharing a length among weights

`share` cuts a stretch of whole units into one piece per weight. The cuts are the exact ones
rounded to the nearest unit, a half going up, so the pieces follow each other without gaps and end
where the stretch ends.
-/

namespace Slab

/-- A stretch of a line: where it starts and how long it is. -/
structure Span where
  /-- The first unit of the stretch. -/
  start : Nat
  /-- The number of units. -/
  length : Nat
deriving DecidableEq, Repr

/-- The unit before which a stretch is cut for the weights up to the given sum, out of a positive
total. -/
def Span.cut (span : Span) (total sum : Nat) : Nat :=
  span.start + (sum * span.length + total / 2) / total

/-- The pieces cut so far, newest first, and those for further weights, where the weights so far
add up to `sum`. -/
def Span.piecesFrom (span : Span) (total sum : Nat) (pieces : List Span) : List Nat → List Span
  | [] => pieces.reverse
  | weight :: weights =>
    let here := span.cut total sum
    let there := span.cut total (sum + weight)
    span.piecesFrom total (sum + weight) (⟨here, there - here⟩ :: pieces) weights

/-- The pieces of a stretch shared in proportion to some weights. Where all weights are 0, all
pieces are empty and lie at the start. -/
def Span.share (span : Span) (weights : List Nat) : List Span :=
  let total := weights.foldr (· + ·) 0
  if total = 0 then weights.map fun _ => ⟨span.start, 0⟩
  else span.piecesFrom total 0 [] weights

end Slab
