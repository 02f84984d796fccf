import Mathlib.Algebra.Order.Ring.GeomSum
import Mathlib.Tactic.Ring
import Slab.Proofs.Expanded
import Slab.Proofs.SelfCall
import Slab.Proofs.Tally

/-!
# How copies are closed

Behind each copy stand as many closes as the program has `S`s, and one for the `S` of the copy.

These are never too few: a copy does not end deeper than it began, whatever the program looks like
(`Reading.opened_readAll_nthCopy_le`). So the expanded program leaves no more open than the program
has `S`s, and **`expand_opened_le`** says that it is just as many, without any stray close, if the
program itself closes nothing.

They are too many if the program closes its own `S`s. A copy of a balanced program then acts as
closes of what is around it (`Balanced.countAll_nthCopy`), more of them with each round
(`surplus_succ`), and **`expand_overcloses`** counts those that find nothing to close. The expanded
program is balanced only if there was no `S` or no round; `not_balanced_expand` has a program for
which it is not.
-/

namespace Slab

variable {program replacement : List Char}

/-! ### Copies do not end deeper than they begin -/

namespace Reading

/-- A character opens at most one program, and only `S` does. -/
theorem opened_read_le (reading : Reading) (c : Char) :
    (reading.read c).tally.opened ≤ reading.tally.opened + [c].count 'S' := by
  by_cases hB : c = 'B'
  · subst hB
    rcases reading with ⟨tally, waiting⟩
    cases waiting with
    | false => exact Nat.le_refl _
    | true => exact Nat.sub_le _ _
  · rw [read_of_ne hB]
    by_cases hS : c = 'S'
    · subst hS
      exact Nat.le_refl _
    · have hunit : Lexeme.ofChar c ≠ .command .nest := fun h =>
        hS (Lexeme.ofChar_eq_command_iff.mp h)
      rw [Tally.count_of_ne (Lexeme.ofChar_ne_close c) hunit]
      exact Nat.le_add_right _ _

/-- Where what replaces the self-references does not end deeper than it begins, a text opens at
most as many programs as it has `S`s. -/
theorem opened_readAll_substitute_le
    (hcopy : ∀ reading : Reading,
      (reading.readAll replacement).tally.opened ≤ reading.tally.opened)
    (reading : Reading) (text : List Char) :
    (reading.readAll (substitute replacement text)).tally.opened ≤
      reading.tally.opened + text.count 'S' := by
  induction text generalizing reading with
  | nil => exact Nat.le_refl _
  | cons c text ih =>
      by_cases hi : c = 'i'
      · subst hi
        rw [substitute_recurse, readAll_append, List.count_cons_of_ne (by decide)]
        exact (ih _).trans (Nat.add_le_add_right (hcopy reading) _)
      · rw [substitute_cons_of_ne hi, readAll_cons, ← List.singleton_append, List.count_append,
          ← Nat.add_assoc]
        exact (ih _).trans (Nat.add_le_add_right (reading.opened_read_le c) _)

/-- A copy does not end deeper than it begins, wherever it stands. -/
theorem opened_readAll_nthCopy_le (program : List Char) (n : Nat) (reading : Reading) :
    (reading.readAll (nthCopy program n)).tally.opened ≤ reading.tally.opened := by
  induction n generalizing reading with
  | zero => exact Nat.le_refl _
  | succ n ih =>
      have hbody := opened_readAll_substitute_le ih ⟨reading.tally.nest 1, false⟩ program
      rw [nthCopy, readAll_cons, read_of_ne (by decide), readAll_append, copyClose,
        readAll_closes]
      simp only [Tally.close, Tally.nest] at hbody ⊢
      show (readAll ⟨reading.tally.nest 1, false⟩ _).tally.opened - _ ≤ _
      simp only [Tally.nest]
      omega

end Reading

/-! ### Copies of a program that closes nothing -/

namespace Tally

/-- Units that close nothing open as many programs as there are `S`s among them. -/
theorem countAll_of_close_notMem {units : List Lexeme} (h : Lexeme.close ∉ units) (tally : Tally) :
    tally.countAll units = tally.nest (units.count (.command .nest)) := by
  induction units generalizing tally with
  | nil => rfl
  | cons unit units ih =>
      rw [List.mem_cons, not_or] at h
      rw [countAll_cons, ih h.2]
      by_cases hnest : unit = .command .nest
      · subst hnest
        rw [count_nest, nest_nest, List.count_cons_self, Nat.add_comm]
      · rw [count_of_ne (Ne.symm h.1) hnest, List.count_cons_of_ne hnest]

/-- Copies that leave every tally alone may be left out. -/
theorem countAll_splice_of_idle {copy : List Lexeme}
    (hcopy : ∀ tally : Tally, tally.countAll copy = tally) (tally : Tally)
    (units : List Lexeme) : tally.countAll (splice copy units) = tally.countAll units := by
  induction units generalizing tally with
  | nil => rfl
  | cons unit units ih =>
      by_cases hrecurse : unit = .command .recurse
      · subst hrecurse
        rw [splice_recurse, countAll_append, hcopy, ih]
        rfl
      · rw [splice_cons_of_ne hrecurse, countAll_cons, ih, countAll_cons]

end Tally

/-- The units of a program without pairs open its `S`s and close nothing. -/
theorem Unpaired.countAll_lexemes (h : Unpaired program) (tally : Tally) :
    tally.countAll (lexemes program) = tally.nest (program.count 'S') := by
  rw [Tally.countAll_of_close_notMem (close_notMem_lexemes h.noPair),
    count_lexemes .nest (by simp)]
  rfl

/-- A copy of a program without pairs closes exactly what it opens. -/
theorem Unpaired.countAll_nthCopy (h : Unpaired program) (n : Nat) (tally : Tally) :
    tally.countAll (lexemes (nthCopy program n)) = tally := by
  induction n generalizing tally with
  | zero => rfl
  | succ n ih =>
      have hclosed := Tally.close_nest tally (1 + program.count 'S') 0
      rw [Nat.add_zero, Tally.close_zero] at hclosed
      rw [lexemes_nthCopy_succ h.not_endsUnpaired, Tally.countAll_cons, Tally.count_nest,
        Tally.countAll_append, Tally.countAll_splice_of_idle ih, h.countAll_lexemes,
        Tally.countAll_replicate_close, Tally.nest_nest, hclosed]

/-- The tally of an expanded program without pairs: its `S`s are open. -/
theorem Unpaired.tallyOf_expand (h : Unpaired program) :
    tallyOf (lexemes (expand program).program) = { opened := program.count 'S' } := by
  rw [tallyOf, lexemes_expand h.not_endsUnpaired,
    Tally.countAll_splice_of_idle (h.countAll_nthCopy _), h.countAll_lexemes, Tally.nest,
    Nat.zero_add]

/-- **Expansion leaves no further programs open.** What is told at the end of an expanded program
is how many programs are still open, if there are any, and there are at most as many as the
program itself has `S`s. If it has no two `B`s next to each other and none at its end, there are
just as many, and no close is a stray one. -/
theorem expand_opened_le (program : List Char) (ink : Ink) :
    let units := lexemes (expand program).program
    let last := (Builder.start ink).run units
    let remarks := (Builder.start ink).remarks units
    (∀ n, Remark.unclosed n ∈ remarks ↔ n = last.outer.length ∧ n ≠ 0) ∧
      last.outer.length ≤ program.count 'S' ∧
      (Unpaired program →
        last.outer.length = program.count 'S' ∧ Remark.strayClose ∉ remarks) := by
  intro units last remarks
  have hopened : last.outer.length = (tallyOf units).opened := Builder.outer_length_run _ units
  refine ⟨Builder.mem_remarks_unclosed_iff ink units, ?atMost, fun hpair => ?exactly⟩
  case atMost =>
    have hcopies := Reading.opened_readAll_nthCopy_le program (expand program).rounds
    have htext := Reading.opened_readAll_substitute_le hcopies ⟨{}, false⟩ program
    rw [← expand_program_eq, Reading.tally_readAll, Nat.zero_add] at htext
    rwa [hopened]
  case exactly =>
    have htally : tallyOf units = { opened := program.count 'S' } := hpair.tallyOf_expand
    have hstrays := Builder.count_strayClose_remarks ink units
    rw [htally] at hopened hstrays
    exact ⟨hopened, List.count_eq_zero.mp hstrays⟩

/-- An `S` of which a copy is made in one round stays open, its copy does not. -/
theorem expand_opened_le_oneRound :
    Unpaired "ppppppppppSbBi".toList ∧
      (expand "ppppppppppSbBi".toList).rounds = 1 ∧
      ((Builder.start {}).run (lexemes (expand "ppppppppppSbBi".toList).program)).outer.length =
        1 ∧
      Remark.strayClose ∉
        (Builder.start {}).remarks (lexemes (expand "ppppppppppSbBi".toList).program) ∧
      Remark.unclosed 1 ∈
        (Builder.start {}).remarks (lexemes (expand "ppppppppppSbBi".toList).program) := by
  have hpair : Unpaired "ppppppppppSbBi".toList := ⟨by decide +kernel, by decide +kernel⟩
  have hnest : "ppppppppppSbBi".toList.count 'S' = 1 := by decide +kernel
  obtain ⟨htold, -, hexactly⟩ := expand_opened_le "ppppppppppSbBi".toList {}
  obtain ⟨hopened, hstray⟩ := hexactly hpair
  rw [hnest] at hopened
  exact ⟨hpair, by decide +kernel, hopened, hstray, (htold 1).mpr ⟨hopened.symm, one_ne_zero⟩⟩

/-! ### Copies of a balanced program -/

/-- Where every copy acts as `e` closes, and the units between them close what is open and no
more, all of them act as closes. -/
theorem Tally.countAll_splice_of_closed {copy units : List Lexeme} {depth e : Nat}
    (hcopy : ∀ tally : Tally, tally.countAll copy = tally.close e)
    (h : openAfter depth units = some 0) (tally : Tally) :
    tally.countAll (splice copy units) =
      tally.close (depth + units.count (.command .recurse) * e) := by
  induction units generalizing depth tally with
  | nil =>
      obtain rfl : depth = 0 := by simpa using h
      simp
  | cons unit units ih =>
      by_cases hclose : unit = .close
      · subst hclose
        cases depth with
        | zero => rw [openAfter_zero_close] at h; cases h
        | succ depth =>
            rw [openAfter_succ_close] at h
            rw [splice_cons_of_ne (by simp), countAll_cons, count_close, ih h, close_close,
              List.count_cons_of_ne (by simp)]
            congr 1
            ring
      by_cases hnest : unit = .command .nest
      · subst hnest
        rw [openAfter_nest] at h
        rw [splice_cons_of_ne (by simp), countAll_cons, count_nest, ih h,
          List.count_cons_of_ne (by simp), Nat.add_comm depth 1, Nat.add_assoc, close_nest]
      rw [openAfter_of_ne hclose hnest] at h
      by_cases hrecurse : unit = .command .recurse
      · subst hrecurse
        rw [splice_recurse, countAll_append, hcopy, ih h, close_close, List.count_cons_self]
        congr 1
        ring
      · rw [splice_cons_of_ne hrecurse, countAll_cons, count_of_ne hclose hnest, ih h,
          List.count_cons_of_ne hrecurse]

/-- The closes that a copy of a balanced program has too many after `n` rounds. -/
def surplus (program : List Char) (n : Nat) : Nat :=
  program.count 'S' * ∑ k ∈ Finset.range n, program.count 'i' ^ k

/-- A copy has its own closes too many, and those of the copies in it. -/
theorem surplus_succ (program : List Char) (n : Nat) :
    surplus program (n + 1) =
      program.count 'S' + program.count 'i' * surplus program n := by
  rw [surplus, surplus, geom_sum_succ]
  ring

/-- There is none only without any `S` or before the first round. -/
theorem surplus_eq_zero_iff {n : Nat} : surplus program n = 0 ↔ 'S' ∉ program ∨ n = 0 := by
  cases n with
  | zero => simp [surplus]
  | succ n =>
      have hpos : ∑ k ∈ Finset.range (n + 1), program.count 'i' ^ k ≠ 0 := by
        rw [geom_sum_succ]
        exact Nat.succ_ne_zero _
      rw [surplus, Nat.mul_eq_zero, or_iff_left hpos, List.count_eq_zero,
        or_iff_left (Nat.succ_ne_zero n)]

namespace Balanced

/-- A balanced program acts as the closes that the copies in it have too many. -/
theorem countAll_splice (h : Balanced program) {copy : List Lexeme} {e : Nat}
    (hcopy : ∀ tally : Tally, tally.countAll copy = tally.close e) (tally : Tally) :
    tally.countAll (splice copy (lexemes program)) = tally.close (program.count 'i' * e) := by
  rw [Tally.countAll_splice_of_closed hcopy h.closed, count_lexemes .recurse (by simp),
    Nat.zero_add]
  rfl

/-- A copy of a balanced program acts as closes of what is around it. -/
theorem countAll_nthCopy (h : Balanced program) (n : Nat) (tally : Tally) :
    tally.countAll (lexemes (nthCopy program n)) = tally.close (surplus program n) := by
  induction n generalizing tally with
  | zero =>
      rw [surplus, Finset.sum_range_zero, Nat.mul_zero, Tally.close_zero]
      rfl
  | succ n ih =>
      rw [lexemes_nthCopy_succ h.paired, Tally.countAll_cons, Tally.count_nest,
        Tally.countAll_append, h.countAll_splice ih, Tally.countAll_replicate_close,
        Tally.close_close, surplus_succ]
      have hall : program.count 'i' * surplus program n + (1 + program.count 'S') =
          1 + (program.count 'S' + program.count 'i' * surplus program n) := by ring
      rw [hall, Tally.close_nest]

/-- The tally of a balanced program that has been expanded: nothing is open, and what the copies
have too many has nothing to close. -/
theorem tallyOf_expand (h : Balanced program) :
    tallyOf (lexemes (expand program).program) =
      { strays := program.count 'i' * surplus program (expand program).rounds } := by
  rw [tallyOf, lexemes_expand h.paired, h.countAll_splice (h.countAll_nthCopy _)]
  simp [Tally.close]

end Balanced

/-- **A copy of a balanced program closes too much.** The closes behind it are as many as if the
program closed none of its `S`s, so a copy ends further out than it began. At the end of the
expanded program nothing is open, and what the copies in it have too many are stray closes; it is
balanced only if there are none. -/
theorem expand_overcloses (h : Balanced program) (ink : Ink) :
    let expansion := expand program
    let units := lexemes expansion.program
    (∀ (n : Nat) (builder : Builder),
        (builder.run (lexemes (nthCopy program n))).outer.length =
          builder.outer.length - surplus program n) ∧
      ((Builder.start ink).run units).outer = [] ∧
      ((Builder.start ink).remarks units).count .strayClose =
        program.count 'i' * surplus program expansion.rounds ∧
      (Balanced expansion.program ↔ 'S' ∉ program ∨ expansion.rounds = 0) := by
  intro expansion units
  have htally : tallyOf units =
      { strays := program.count 'i' * surplus program expansion.rounds } := h.tallyOf_expand
  refine ⟨?copies, ?opened, ?strays, ?balanced⟩
  case copies =>
    intro n builder
    rw [Builder.outer_length_run, h.countAll_nthCopy]
    rfl
  case opened =>
    have hopened : ((Builder.start ink).run units).outer.length = (tallyOf units).opened :=
      Builder.outer_length_run _ units
    rw [htally] at hopened
    exact List.length_eq_zero_iff.mp hopened
  case strays => rw [Builder.count_strayClose_remarks, htally]
  case balanced =>
    have hpaired : ¬EndsUnpaired expansion.program := not_endsUnpaired_expand h.paired
    have hnone : tallyOf units = {} ↔
        program.count 'i' * surplus program expansion.rounds = 0 := by
      simp [htally]
    rw [balanced_iff, and_iff_left hpaired, hnone, Nat.mul_eq_zero, surplus_eq_zero_iff]
    apply or_iff_right_of_imp
    intro hrefers
    have hexpanded := expanded_of_notMem (List.count_eq_zero.mp hrefers)
    exact .inr (congrArg Expansion.rounds (expand_of_expanded hexpanded))

/-- An `S` that the program closes is closed once more in its copy, and then there is nothing left
for the last close. -/
theorem expand_overcloses_oneRound :
    let program := "ppppppppSiBB".toList
    let expanded := (expand program).program
    let remarks := (Builder.start {}).remarks (lexemes expanded)
    Balanced program ∧
      expanded = "ppppppppSSppppppppSiBBBBBBBB".toList ∧
      remarks.count .strayClose = 1 ∧ ¬Balanced expanded := by
  have hbalanced : Balanced "ppppppppSiBB".toList := by decide
  obtain ⟨-, -, hstrays, hstill⟩ := expand_overcloses hbalanced {}
  have hrounds : (expand "ppppppppSiBB".toList).rounds = 1 := by decide +kernel
  have hsurplus : "ppppppppSiBB".toList.count 'i' * surplus "ppppppppSiBB".toList 1 = 1 := by
    decide
  rw [hrounds] at hstrays hstill
  rw [hsurplus] at hstrays
  refine ⟨hbalanced, by decide +kernel, hstrays, ?_⟩
  rw [hstill]
  decide

/-- Expansion does not keep programs balanced. -/
theorem not_balanced_expand :
    ¬∀ program : List Char, 'i' ∈ program → Balanced program →
      Balanced (expand program).program := by
  intro hkeeps
  have hbalanced : Balanced "ppppppppSiBB".toList := by decide
  have hkept := hkeeps "ppppppppSiBB".toList (by decide) hbalanced
  revert hkept
  decide +kernel

end Slab
