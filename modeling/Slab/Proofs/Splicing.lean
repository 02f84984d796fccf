import Slab.Proofs.Balance
import Slab.Proofs.Copies

/-!
# Units of a program with copies in it

A copy begins with another character than `B`, so a `B` before it does not pair with it, and it is
`Settled`, so a `B` behind it does not pair with it either. If the program does not end in an
unpaired `B`, the units of the expanded text are therefore the units of the program with those of
a copy at each self-reference (`lexemes_substitute_of_paired`), and the copies are settled again
(`settled_nthCopy_of_paired`). So the units of the expanded program are known (`lexemes_expand`),
and it does not end in an unpaired `B` (`not_endsUnpaired_expand`).
-/

namespace Slab

/-! ### Putting units for self-references -/

/-- The units of a program with others in the place of each self-reference. -/
def splice (copy units : List Lexeme) : List Lexeme :=
  units.flatMap fun unit => if unit = .command .recurse then copy else [unit]

/-- Without units there is nothing to replace. -/
@[simp] theorem splice_nil (copy : List Lexeme) : splice copy [] = [] := rfl

/-- A self-reference at the front is replaced. -/
@[simp] theorem splice_recurse (copy units : List Lexeme) :
    splice copy (.command .recurse :: units) = copy ++ splice copy units := rfl

/-- Any other unit at the front is kept. -/
theorem splice_cons_of_ne {unit : Lexeme} (h : unit ≠ .command .recurse)
    (copy units : List Lexeme) : splice copy (unit :: units) = unit :: splice copy units := by
  simp [splice, h]

/-- A character is kept as a unit, unless it is a self-reference. -/
theorem splice_ofChar {c : Char} (h : c ≠ 'i') (copy units : List Lexeme) :
    splice copy (.ofChar c :: units) = .ofChar c :: splice copy units := by
  apply splice_cons_of_ne
  intro hc
  exact h (Lexeme.ofChar_eq_command_iff.mp hc)

/-- Two groups of units are treated one after the other. -/
theorem splice_append (copy units more : List Lexeme) :
    splice copy (units ++ more) = splice copy units ++ splice copy more :=
  List.flatMap_append

/-! ### Texts for self-references -/

/-- A copy begins with a character other than `B`. -/
theorem nthCopy_eq_cons (program : List Char) (n : Nat) :
    ∃ c rest, c ≠ 'B' ∧ nthCopy program n = c :: rest := by
  cases n with
  | zero => exact ⟨'i', [], by decide, rfl⟩
  | succ n => exact ⟨'S', _, by decide, rfl⟩

section Substitution

variable {replacement program : List Char}

/-- Behind a character other than `B`, a text does not begin with `B` when self-references are
replaced by what does not either. -/
theorem substitute_eq_cons (hhead : ∃ c rest, c ≠ 'B' ∧ replacement = c :: rest) {c : Char}
    (hc : c ≠ 'B') (rest : List Char) :
    ∃ d more, d ≠ 'B' ∧ substitute replacement (c :: rest) = d :: more := by
  by_cases hi : c = 'i'
  · subst hi
    obtain ⟨d, more, hd, rfl⟩ := hhead
    exact ⟨d, more ++ substitute (d :: more) rest, hd, rfl⟩
  · exact ⟨c, _, hc, substitute_cons_of_ne hi _ _⟩

/-- Settled text can be put for the self-references: the outcome is settled, and its units are
those of the program with the new ones in place. -/
theorem lexemes_substitute_of_paired (hhead : ∃ c rest, c ≠ 'B' ∧ replacement = c :: rest)
    (hsettled : Settled replacement) (h : ¬EndsUnpaired program) :
    Settled (substitute replacement program) ∧
      lexemes (substitute replacement program) = splice (lexemes replacement) (lexemes program) := by
  induction program using unit_induction with
  | nil => exact ⟨settled_nil, rfl⟩
  | pair rest ih =>
      obtain ⟨hrest, hunits⟩ := ih fun hend => h hend.cons_pair
      have hB : 'B' ≠ 'i' := by decide
      rw [substitute_cons_of_ne hB, substitute_cons_of_ne hB, lexemes_pair, lexemes_pair,
        splice_cons_of_ne (by simp), ← hunits]
      exact ⟨(settled_closes 1).append hrest, rfl⟩
  | single c rest hB ih =>
      obtain ⟨hrest, hunits⟩ := ih fun hend => h (hend.cons_single hB)
      rw [lexemes_single hB]
      by_cases hi : c = 'i'
      · subst hi
        exact ⟨hsettled.append hrest, by rw [substitute_recurse, hsettled, hunits]; rfl⟩
      rw [substitute_cons_of_ne hi, splice_ofChar hi, ← hunits]
      by_cases hc : c = 'B'
      · subst hc
        -- what follows the row break is kept apart from it by its first character
        rcases rest with _ | ⟨d, rest⟩
        · exact absurd rfl h
        · have hd : d ≠ 'B' := by simpa using hB rfl
          obtain ⟨e, tail, he, heq⟩ := substitute_eq_cons hhead hd rest
          rw [heq] at hrest ⊢
          refine ⟨hrest.break he, lexemes_break ?_⟩
          simpa using he
      · exact ⟨hrest.cons hc, lexemes_cons_of_ne hc _⟩

/-- The copies of a program that does not end in an unpaired `B` are settled. -/
theorem settled_nthCopy_of_paired (h : ¬EndsUnpaired program) (n : Nat) :
    Settled (nthCopy program n) := by
  induction n with
  | zero => exact settled_nil.cons (by decide)
  | succ n ih =>
      have hbody := (lexemes_substitute_of_paired (nthCopy_eq_cons program n) ih h).1
      exact (hbody.append (settled_closes _)).cons (by decide)

/-- The units of a program with copies in it are those of the program with those of a copy at each
self-reference. -/
theorem lexemes_substitute_nthCopy (h : ¬EndsUnpaired program) (n : Nat) :
    lexemes (substitute (nthCopy program n) program) =
      splice (lexemes (nthCopy program n)) (lexemes program) :=
  (lexemes_substitute_of_paired (nthCopy_eq_cons program n) (settled_nthCopy_of_paired h n) h).2

/-- The units of a copy are those of the program with smaller copies in place, between an `S` and
the closes. -/
theorem lexemes_nthCopy_succ (h : ¬EndsUnpaired program) (n : Nat) :
    lexemes (nthCopy program (n + 1)) =
      .command .nest :: (splice (lexemes (nthCopy program n)) (lexemes program) ++
        List.replicate (1 + program.count 'S') .close) := by
  have hcopy := settled_nthCopy_of_paired h n
  have hbody := (lexemes_substitute_of_paired (nthCopy_eq_cons program n) hcopy h).1
  have hcloses := lexemes_closes (1 + program.count 'S') []
  rw [List.append_nil, lexemes_nil, List.append_nil] at hcloses
  rw [nthCopy, lexemes_cons_of_ne (by decide), hbody, lexemes_substitute_nthCopy h, copyClose,
    hcloses]
  rfl

/-- A copy does not end in an unpaired `B` either, and it has units. -/
theorem lexemes_nthCopy_eq_concat (h : ¬EndsUnpaired program) (n : Nat) :
    ∃ front unit, unit ≠ .command .breakRow ∧
      lexemes (nthCopy program n) = front ++ [unit] := by
  cases n with
  | zero => exact ⟨[], .command .recurse, by simp, rfl⟩
  | succ n =>
      rw [lexemes_nthCopy_succ h, Nat.add_comm 1, List.replicate_succ', ← List.append_assoc,
        ← List.cons_append]
      exact ⟨_, .close, by simp, rfl⟩

end Substitution

/-! ### The expanded program -/

section Expanded

variable {program : List Char}

/-- The units of the expanded program are those of the program with the largest copies in place. -/
theorem lexemes_expand (h : ¬EndsUnpaired program) :
    lexemes (expand program).program =
      splice (lexemes (nthCopy program (expand program).rounds)) (lexemes program) := by
  rw [← lexemes_substitute_nthCopy h, ← expand_program_eq]

/-- Expansion leaves no unpaired `B` at the end if there was none. -/
theorem not_endsUnpaired_expand (h : ¬EndsUnpaired program) :
    ¬EndsUnpaired (expand program).program := by
  obtain ⟨front, last, hlast, hcopy⟩ := lexemes_nthCopy_eq_concat h (expand program).rounds
  unfold EndsUnpaired at h ⊢
  rw [lexemes_expand h]
  rcases hend : (lexemes program).getLast? with _ | unit
  · simp [List.getLast?_eq_none_iff.mp hend]
  rw [hend] at h
  obtain ⟨units, hunits⟩ := List.getLast?_eq_some_iff.mp hend
  rw [hunits, splice_append]
  by_cases hrecurse : unit = .command .recurse
  · subst hrecurse
    rw [splice_recurse, splice_nil, List.append_nil, hcopy, ← List.append_assoc,
      List.getLast?_concat]
    simpa using hlast
  · rwa [splice_cons_of_ne hrecurse, splice_nil, List.getLast?_concat]

end Expanded

end Slab
