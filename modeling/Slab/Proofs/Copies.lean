import Slab.Expansion

/-!
# Copies inside copies

A round of expansion puts the nested copy of the program into the whole text, so the text grows
at all its self-references at once. Seen from the program, what grows are the copies: after `n`
rounds the text is the program with `nthCopy program n` at each self-reference
(`expand_program_eq`), and a copy is the program with smaller copies in it, between an `S` and the
closes.
-/

namespace Slab

/-! ### Replacing self-references -/

/-- In an empty text nothing is replaced. -/
@[simp] theorem substitute_nil (replacement : List Char) : substitute replacement [] = [] := rfl

/-- A self-reference at the front is replaced. -/
@[simp] theorem substitute_recurse (replacement text : List Char) :
    substitute replacement ('i' :: text) = replacement ++ substitute replacement text := rfl

/-- Any other character at the front is kept. -/
theorem substitute_cons_of_ne {c : Char} (h : c ≠ 'i') (replacement text : List Char) :
    substitute replacement (c :: text) = c :: substitute replacement text := by
  have hc : c ≠ Command.recurse.letter := h
  simp [substitute, hc]

/-- Two texts are treated one after the other. -/
theorem substitute_append (replacement text more : List Char) :
    substitute replacement (text ++ more) =
      substitute replacement text ++ substitute replacement more :=
  List.flatMap_append

/-- A text without self-references stays as it is. -/
theorem substitute_of_notMem {text : List Char} (h : 'i' ∉ text) (replacement : List Char) :
    substitute replacement text = text := by
  induction text with
  | nil => rfl
  | cons c text ih =>
      rw [List.mem_cons, not_or] at h
      rw [substitute_cons_of_ne (Ne.symm h.1), ih h.2]

/-- Replacing twice is replacing once, by what the replacement becomes. -/
theorem substitute_substitute (outer inner text : List Char) :
    substitute outer (substitute inner text) = substitute (substitute outer inner) text := by
  induction text with
  | nil => rfl
  | cons c text ih =>
      by_cases h : c = 'i'
      · subst h
        rw [substitute_recurse, substitute_recurse, substitute_append, ih]
      · rw [substitute_cons_of_ne h, substitute_cons_of_ne h, substitute_cons_of_ne h, ih]

/-- Putting a self-reference for a self-reference changes nothing. -/
@[simp] theorem substitute_self (text : List Char) : substitute ['i'] text = text := by
  induction text with
  | nil => rfl
  | cons c text ih =>
      by_cases h : c = 'i'
      · subst h
        rw [substitute_recurse, ih]
        rfl
      · rw [substitute_cons_of_ne h, ih]

/-! ### The copies -/

/-- The closes that end a nested copy of a program. -/
def copyClose (program : List Char) : List Char :=
  List.replicate (2 * (1 + program.count 'S')) 'B'

/-- What stands at a self-reference of the program after `n` rounds. -/
def nthCopy (program : List Char) : Nat → List Char
  | 0 => ['i']
  | n + 1 => 'S' :: (substitute (nthCopy program n) program ++ copyClose program)

/-- After one round a nested copy of the program stands at each self-reference. -/
theorem nthCopy_one (program : List Char) : nthCopy program 1 = nestedCopy program := by
  rw [nthCopy, nthCopy, substitute_self]
  rfl

/-- A round of expansion turns a copy into the next larger one. -/
theorem substitute_nthCopy (program : List Char) (n : Nat) :
    substitute (nestedCopy program) (nthCopy program n) = nthCopy program (n + 1) := by
  induction n with
  | zero =>
      rw [nthCopy_one]
      exact List.append_nil _
  | succ n ih =>
      have hclose : 'i' ∉ copyClose program := by simp [copyClose]
      rw [nthCopy, substitute_cons_of_ne (by decide), substitute_append, substitute_substitute, ih,
        substitute_of_notMem hclose]
      rfl

/-- A round of expansion, seen from the program. -/
theorem substitute_substitute_nthCopy (program : List Char) (n : Nat) :
    substitute (nestedCopy program) (substitute (nthCopy program n) program) =
      substitute (nthCopy program (n + 1)) program := by
  rw [substitute_substitute, substitute_nthCopy]

/-- Expansion goes on by rounds that are counted. -/
theorem expandFrom_eq (program : List Char) (budget rounds n : Nat) :
    ∃ more, expandFrom (nestedCopy program) budget rounds (substitute (nthCopy program n) program) =
      (substitute (nthCopy program (n + more)) program, rounds + more) := by
  generalize htext : substitute (nthCopy program n) program = text
  fun_induction expandFrom (nestedCopy program) budget rounds text generalizing n with
  | case1 rounds text h ih =>
      obtain ⟨more, hmore⟩ := ih (n + 1) (by rw [← htext, substitute_substitute_nthCopy])
      refine ⟨more + 1, ?_⟩
      rw [hmore, Nat.add_assoc n, Nat.add_assoc rounds, Nat.add_comm 1 more]
  | case2 rounds text h => exact ⟨0, by rw [← htext]; rfl⟩

/-- The expanded program is the program with a copy at each self-reference, as deep as there were
rounds. -/
theorem expand_program_eq (program : List Char) :
    (expand program).program = substitute (nthCopy program (expand program).rounds) program := by
  obtain ⟨more, hmore⟩ := expandFrom_eq program (budgetFor program) 0 0
  rw [nthCopy, substitute_self, Nat.zero_add] at hmore
  show (expandFrom (nestedCopy program) (budgetFor program) 0 program).1 =
    substitute (nthCopy program (expandFrom (nestedCopy program) (budgetFor program) 0 program).2)
      program
  rw [hmore]

end Slab
