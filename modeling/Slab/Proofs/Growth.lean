import Mathlib.Algebra.BigOperators.Intervals
import Mathlib.Algebra.Order.Floor.Div
import Mathlib.Data.List.Count
import Mathlib.Order.Bounds.Basic
import Mathlib.Tactic.Ring
import Slab.Proofs.Copies

/-!
# How a program grows

Expansion is a loop whose rounds can be counted in advance. A round puts the nested copy for each
self-reference, and the copy has as many of them as the program, so their number is multiplied by
the same factor in each round (`count_roundText`) and the length is a geometric sum
(`byteLength_roundText`). A program that refers to itself gets longer in each round, so the loop
ends, and it does as soon as that sum reaches the budget (`expandFrom_roundText`). All that follows
from it is put together in **`expand_growsExactly`**.
-/

namespace Slab

/-- The text after some rounds of expansion. -/
def roundText (program : List Char) (rounds : Nat) : List Char :=
  (substitute (nestedCopy program))^[rounds] program

/-- How long a program is after some rounds of expansion, in bytes. -/
def roundLength (program : List Char) (rounds : Nat) : Nat :=
  byteLength program + (byteLength program + 2 * (1 + program.count 'S')) *
    ∑ k ∈ Finset.Icc 1 rounds, program.count 'i' ^ k

/-! ### One round -/

/-- Self-references are replaced by self-references of the replacement. -/
theorem count_substitute (replacement text : List Char) :
    (substitute replacement text).count 'i' = text.count 'i' * replacement.count 'i' := by
  induction text with
  | nil => simp
  | cons c text ih =>
      by_cases hc : c = 'i'
      · subst hc
        rw [substitute_recurse, List.count_append, ih, List.count_cons_self]
        ring
      · rw [substitute_cons_of_ne hc, List.count_cons_of_ne hc, List.count_cons_of_ne hc, ih]

/-- A self-reference is one byte, and what replaces it is as long as it is. -/
theorem byteLength_substitute (replacement text : List Char) :
    byteLength (substitute replacement text) + text.count 'i' =
      byteLength text + text.count 'i' * byteLength replacement := by
  induction text with
  | nil => simp
  | cons c text ih =>
      by_cases hc : c = 'i'
      · subst hc
        have hi : 'i'.utf8Size = 1 := rfl
        rw [substitute_recurse, byteLength_append, byteLength_cons, List.count_cons_self, hi,
          Nat.succ_mul]
        omega
      · rw [substitute_cons_of_ne hc, byteLength_cons, byteLength_cons, List.count_cons_of_ne hc]
        omega

/-- A copy refers to the program as often as the program itself. -/
theorem count_nestedCopy (program : List Char) :
    (nestedCopy program).count 'i' = program.count 'i' := by
  have hS : Command.nest.letter ≠ 'i' := by decide
  have hB : Command.breakRow.letter ≠ 'i' := by decide
  rw [nestedCopy, List.count_cons_of_ne hS, List.count_append, List.count_replicate]
  simp [hB]

/-- A repeated character takes its bytes each time. -/
theorem byteLength_replicate (n : Nat) (c : Char) :
    byteLength (List.replicate n c) = n * c.utf8Size := by
  induction n with
  | zero => rw [List.replicate_zero, byteLength_nil, Nat.zero_mul]
  | succ n ih => rw [List.replicate_succ, byteLength_cons, ih, Nat.succ_mul, Nat.add_comm]

/-- A copy is longer than the program by an `S` and by the closes. -/
theorem byteLength_nestedCopy (program : List Char) :
    byteLength (nestedCopy program) =
      1 + (byteLength program + 2 * (1 + program.count 'S')) := by
  have hS : 'S'.utf8Size = 1 := rfl
  have hB : 'B'.utf8Size = 1 := rfl
  show byteLength ('S' :: (program ++ List.replicate (2 * (1 + program.count 'S')) 'B')) = _
  rw [byteLength_cons, byteLength_append, byteLength_replicate, hS, hB, Nat.mul_one]

/-! ### Any number of rounds -/

section Rounds

variable {program : List Char}

/-- Before the first round there is the program. -/
@[simp] theorem roundText_zero (program : List Char) : roundText program 0 = program := rfl

/-- One round more is one substitution more. -/
theorem roundText_succ (program : List Char) (rounds : Nat) :
    roundText program (rounds + 1) = substitute (nestedCopy program) (roundText program rounds) :=
  Function.iterate_succ_apply' _ _ _

/-- The self-references are multiplied in each round. -/
theorem count_roundText (program : List Char) (rounds : Nat) :
    (roundText program rounds).count 'i' = program.count 'i' ^ (rounds + 1) := by
  induction rounds with
  | zero => rw [roundText_zero, Nat.zero_add, Nat.pow_one]
  | succ rounds ih =>
      rw [roundText_succ, count_substitute, count_nestedCopy, ih, Nat.pow_succ _ (rounds + 1)]

/-- A round adds a power to the sum. -/
theorem roundLength_succ (program : List Char) (rounds : Nat) :
    roundLength program (rounds + 1) = roundLength program rounds +
      program.count 'i' ^ (rounds + 1) *
        (byteLength program + 2 * (1 + program.count 'S')) := by
  rw [roundLength, roundLength, Finset.sum_Icc_succ_top (Nat.le_add_left 1 rounds)]
  ring

/-- The length after some rounds is a geometric sum. -/
theorem byteLength_roundText (program : List Char) (rounds : Nat) :
    byteLength (roundText program rounds) = roundLength program rounds := by
  induction rounds with
  | zero => simp [roundLength]
  | succ rounds ih =>
      have hround := byteLength_substitute (nestedCopy program) (roundText program rounds)
      rw [byteLength_nestedCopy, count_roundText, ih, Nat.mul_add, Nat.mul_one] at hround
      rw [roundText_succ, roundLength_succ]
      omega

/-- Each round lengthens a program that refers to itself, by more than its own length. -/
theorem roundLength_add_le (hrefers : 'i' ∈ program) (rounds : Nat) :
    roundLength program rounds + (byteLength program + 2) ≤ roundLength program (rounds + 1) := by
  have hpow : 1 ≤ program.count 'i' ^ (rounds + 1) :=
    Nat.one_le_pow _ _ (List.count_pos_iff.mpr hrefers)
  have hmul := Nat.mul_le_mul_right (byteLength program + 2 * (1 + program.count 'S')) hpow
  rw [roundLength_succ]
  omega

/-- After some rounds a program that refers to itself is longer than as many programs. -/
theorem mul_le_roundLength (hrefers : 'i' ∈ program) (rounds : Nat) :
    rounds * (byteLength program + 2) ≤ roundLength program rounds := by
  induction rounds with
  | zero => omega
  | succ rounds ih =>
      have hround := roundLength_add_le hrefers rounds
      rw [Nat.succ_mul]
      omega

/-- The loop ends, and it ends with the first round after which the budget is reached. -/
theorem expandFrom_roundText (hrefers : 'i' ∈ program) (budget start : Nat) :
    ∃ rounds, expandFrom (nestedCopy program) budget start (roundText program start) =
        (roundText program rounds, rounds) ∧
      (∀ k, start ≤ k → k < rounds → roundLength program k < budget) ∧
      budget ≤ roundLength program rounds := by
  generalize htext : roundText program start = text
  fun_induction expandFrom (nestedCopy program) budget start text with
  | case1 start text hmore ih =>
      obtain ⟨rounds, hresult, hbelow, hreached⟩ := ih (by rw [roundText_succ, htext])
      refine ⟨rounds, hresult, ?_, hreached⟩
      intro k hstart hk
      rcases Nat.lt_or_eq_of_le hstart with hlater | rfl
      · exact hbelow k hlater hk
      · rw [← byteLength_roundText, htext]
        exact hmore.1
  | case2 start text hdone =>
      have hround := roundLength_add_le hrefers start
      rw [← byteLength_roundText, ← byteLength_roundText, roundText_succ, htext] at hround
      refine ⟨start, by rw [htext], ?_, ?_⟩
      · intro k hstart hk
        omega
      · rw [← byteLength_roundText, htext]
        omega

end Rounds

/-! ### The whole expansion -/

/-- What it means that a program grows exactly. -/
structure GrowsExactly (program : List Char) : Prop where
  /-- Before each of the rounds the text is shorter than the budget, and after them it is not: the
  loop ends there, with that text. -/
  loop : (∀ k < (expand program).rounds,
      byteLength (roundText program k) < (expand program).budget) ∧
    (expand program).budget ≤ byteLength (roundText program (expand program).rounds) ∧
    (expand program).program = roundText program (expand program).rounds
  /-- The budget is the part of 200 for each raise, rounded up. -/
  budget : (expand program).budget = 200 ⌈/⌉ max 1 (program.count 'p')
  /-- To reach the budget is to reach 200 when taken once for each raise. -/
  reaches_iff : ∀ k, 200 ≤ roundLength program k * max 1 (program.count 'p') ↔
    (expand program).budget ≤ roundLength program k
  /-- There are no more rounds than it takes for that. -/
  least : IsLeast {k | 200 ≤ roundLength program k * max 1 (program.count 'p')}
    (expand program).rounds
  /-- The length is the geometric sum. -/
  length : byteLength (expand program).program = roundLength program (expand program).rounds
  /-- The number of self-references is a power. -/
  references : (expand program).program.count 'i' =
    program.count 'i' ^ ((expand program).rounds + 1)
  /-- The expanded program is the program with copies inside copies. -/
  copies : (expand program).program =
    substitute (nthCopy program (expand program).rounds) program
  /-- The rounds are not many. -/
  rounds_le : (expand program).rounds ≤ (expand program).budget / (byteLength program + 2) + 1
  /-- The last round does not make the program much longer than the budget. -/
  length_le : 1 ≤ (expand program).rounds →
    byteLength (expand program).program ≤
      ((expand program).budget - 1) * (3 * byteLength program + 1)

/-- A copy is at most three times as long as the program. -/
theorem byteLength_nestedCopy_le {program : List Char} (hrefers : 'i' ∈ program) :
    byteLength (nestedCopy program) ≤ 3 * byteLength program + 1 := by
  have hopen : program.count 'S' < program.length :=
    List.count_lt_length_iff.mpr ⟨'i', hrefers, by decide⟩
  have hbytes := length_le_byteLength program
  rw [byteLength_nestedCopy]
  omega

/-- A round makes a text at most as many times longer as a copy is long. -/
theorem byteLength_substitute_le {replacement : List Char} (h : 1 ≤ byteLength replacement)
    (text : List Char) :
    byteLength (substitute replacement text) ≤ byteLength text * byteLength replacement := by
  induction text with
  | nil => simp
  | cons c text ih =>
      rw [byteLength_cons, Nat.add_mul]
      by_cases hc : c = 'i'
      · subst hc
        have hi : 'i'.utf8Size = 1 := rfl
        rw [substitute_recurse, byteLength_append, hi, Nat.one_mul]
        exact Nat.add_le_add_left ih _
      · rw [substitute_cons_of_ne hc, byteLength_cons]
        exact Nat.add_le_add (Nat.le_mul_of_pos_right _ h) ih

/-- The budget is reached when the product with the raises reaches 200. -/
theorem budgetFor_le_iff (program : List Char) (length : Nat) :
    budgetFor program ≤ length ↔ 200 ≤ length * max 1 (program.count 'p') := by
  have hraises : 0 < max 1 (program.count 'p') := by omega
  rw [Nat.mul_comm]
  exact ceilDiv_le_iff_le_mul hraises

/-- The budget pays for no more rounds than programs fit in it, and for the one that passes it. -/
theorem rounds_le_of_below {program : List Char} (hrefers : 'i' ∈ program) {budget rounds : Nat}
    (hbelow : ∀ k < rounds, roundLength program k < budget) :
    rounds ≤ budget / (byteLength program + 2) + 1 := by
  cases rounds with
  | zero => exact Nat.zero_le _
  | succ rounds =>
      have hprograms := mul_le_roundLength hrefers rounds
      have hlast := hbelow rounds (Nat.lt_succ_self rounds)
      have hfits : rounds ≤ budget / (byteLength program + 2) :=
        (Nat.le_div_iff_mul_le (by omega)).mpr (by omega)
      exact Nat.succ_le_succ hfits

/-- The round that passes the budget starts from a text below it. -/
theorem byteLength_roundText_le {program : List Char} (hrefers : 'i' ∈ program)
    {budget rounds : Nat} (hlast : roundLength program rounds < budget) :
    byteLength (roundText program (rounds + 1)) ≤
      (budget - 1) * (3 * byteLength program + 1) := by
  have hcopy : 1 ≤ byteLength (nestedCopy program) := by
    rw [byteLength_nestedCopy]
    omega
  rw [← byteLength_roundText] at hlast
  calc byteLength (roundText program (rounds + 1))
      = byteLength (substitute (nestedCopy program) (roundText program rounds)) := by
        rw [roundText_succ]
    _ ≤ byteLength (roundText program rounds) * byteLength (nestedCopy program) :=
        byteLength_substitute_le hcopy _
    _ ≤ (budget - 1) * (3 * byteLength program + 1) :=
        Nat.mul_le_mul (Nat.le_sub_one_of_lt hlast) (byteLength_nestedCopy_le hrefers)

/-- **A program that refers to itself grows exactly**: the number of rounds, the length and the
self-references of what it is expanded to are known in advance. -/
theorem expand_growsExactly {program : List Char} (hrefers : 'i' ∈ program) :
    GrowsExactly program := by
  obtain ⟨rounds, hloop, hlater, hreached⟩ :=
    expandFrom_roundText hrefers (budgetFor program) 0
  have hexpand : expand program = ⟨roundText program rounds, rounds, budgetFor program⟩ := by
    rw [roundText_zero] at hloop
    rw [expand, hloop]
  have hbelow : ∀ k < rounds, roundLength program k < budgetFor program :=
    fun k hk => hlater k (Nat.zero_le k) hk
  have hcopies := expand_program_eq program
  rw [hexpand] at hcopies
  constructor <;> rw [hexpand] <;> dsimp only
  case loop =>
    simp only [byteLength_roundText]
    exact ⟨hbelow, hreached, trivial⟩
  case budget => rfl
  case reaches_iff => exact fun k => (budgetFor_le_iff program _).symm
  case least =>
    refine ⟨(budgetFor_le_iff program _).mp hreached, fun k hk => ?_⟩
    by_contra hfewer
    have hpast := (budgetFor_le_iff program _).mpr hk
    have hshort := hbelow k (Nat.lt_of_not_le hfewer)
    omega
  case length => exact byteLength_roundText program rounds
  case references => exact count_roundText program rounds
  case copies => exact hcopies
  case rounds_le => exact rounds_le_of_below hrefers hbelow
  case length_le =>
    intro hround
    obtain ⟨earlier, rfl⟩ := Nat.exists_eq_add_of_le' hround
    exact byteLength_roundText_le hrefers (hbelow earlier (Nat.lt_succ_self earlier))

/-- Two rounds take this program, whose budget is 67 bytes, from 8 bytes over 32 to 80. -/
theorem expand_growsExactly_twoRounds :
    let program := "pppiéSi".toList
    'i' ∈ program ∧ GrowsExactly program ∧ (expand program).rounds = 2 ∧
      (expand program).budget = 67 ∧ roundLength program 1 = 32 ∧ roundLength program 2 = 80 :=
  ⟨by decide, expand_growsExactly (by decide), by decide +kernel, by decide, by decide,
    by decide⟩

end Slab
