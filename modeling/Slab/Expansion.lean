import Slab.Command

/-!
# Expansion

A program that refers to itself is expanded before it is scanned: every self-reference becomes a
nested copy of the whole program, closed as often as it takes to end the copy and everything the
copy opens. The copy refers to the program again, so this goes on, round by round, until the text
is long enough. `expandFrom` stops by itself when a round no longer lengthens the text, which
is exactly when there is no self-reference.
-/

namespace Slab

/-- The number of bytes of a text in UTF-8. -/
def byteLength (text : List Char) : Nat :=
  text.foldr (·.utf8Size + ·) 0

/-- The empty text has no bytes. -/
@[simp] theorem byteLength_nil : byteLength [] = 0 := rfl

/-- The bytes of the first character come first. -/
@[simp] theorem byteLength_cons (c : Char) (text : List Char) :
    byteLength (c :: text) = c.utf8Size + byteLength text := rfl

/-- The bytes of two texts add up. -/
@[simp] theorem byteLength_append (text more : List Char) :
    byteLength (text ++ more) = byteLength text + byteLength more := by
  induction text with
  | nil => rw [List.nil_append, byteLength_nil, Nat.zero_add]
  | cons c text ih => rw [List.cons_append, byteLength_cons, byteLength_cons, ih, Nat.add_assoc]

/-- A text has no more characters than bytes. -/
theorem length_le_byteLength (text : List Char) : text.length ≤ byteLength text := by
  induction text with
  | nil => exact Nat.le_refl 0
  | cons c text ih =>
      have hpos := c.utf8Size_pos
      rw [List.length_cons, byteLength_cons]
      omega

/-- The length that all expansions grow towards, before it is shared among the raises. -/
def expansionBudget : Nat := 200

/-- The length that the expansion of a program has to reach: the budget divided by the number of
its raises, rounded up. -/
def budgetFor (program : List Char) : Nat :=
  let raises := max 1 (program.count Command.raise.letter)
  (expansionBudget + raises - 1) / raises

/-- The nested copy of a program that stands in for each self-reference. -/
def nestedCopy (program : List Char) : List Char :=
  Command.nest.letter ::
    (program ++
      List.replicate (2 * (1 + program.count Command.nest.letter)) Command.breakRow.letter)

/-- A text with every self-reference replaced. -/
def substitute (replacement text : List Char) : List Char :=
  text.flatMap fun c => if c = Command.recurse.letter then replacement else [c]

/-- The text after the rounds that are still due, and the number of all rounds. -/
def expandFrom (replacement : List Char) (budget rounds : Nat) (text : List Char) :
    List Char × Nat :=
  if byteLength text < budget ∧ byteLength text < byteLength (substitute replacement text) then
    expandFrom replacement budget (rounds + 1) (substitute replacement text)
  else (text, rounds)
termination_by budget - byteLength text

/-- A program expanded until it is long enough. -/
structure Expansion where
  /-- The expanded text. -/
  program : List Char
  /-- The number of rounds it took. -/
  rounds : Nat
  /-- The length that had to be reached. -/
  budget : Nat
deriving DecidableEq, Repr

/-- The expansion of a program. -/
def expand (program : List Char) : Expansion :=
  let budget := budgetFor program
  let (text, rounds) := expandFrom (nestedCopy program) budget 0 program
  { program := text, rounds, budget }

end Slab
