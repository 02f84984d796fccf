import Mathlib.Algebra.BigOperators.Ring.List
import Mathlib.Data.Rat.Floor
import Mathlib.Tactic.FieldSimp
import Mathlib.Tactic.Linarith
import Mathlib.Tactic.Ring
import Slab.Proofs.Pieces

/-!
# Sharing is exact rounding

`Span.cut` works with whole numbers: it adds half of the total, which is itself cut down to a whole
number, and divides. What it computes is nevertheless the exact place of the cut, rounded to the
nearest unit with a half going up (`cut_eq_round`): the half that is lost for an odd total never
decides. As each piece lies between two rounded places, the pieces are exact up to less than one
unit, and they depend on the proportions of the weights only. All of it is put together in
**`share_exact`**.
-/

namespace Slab

namespace Span

variable {span piece : Span} {weights : List Nat} {weight : Nat} {i : Nat}

/-- Where a stretch is to be cut after some of the weights, counted from its start, if units could
be divided. -/
def exactCut (span : Span) (weights : List Nat) (i : Nat) : ℚ :=
  span.length * (weights.take i).sum / weights.sum

/-! ### Rounding by whole numbers -/

/-- To add half of the divisor before dividing is to round, although the half is cut down. -/
theorem round_div_eq (n d : Nat) : round ((n : ℚ) / d) = ((n + d / 2) / d : Nat) := by
  rcases Nat.eq_zero_or_pos d with rfl | hpos
  · simp
  have hd : (d : ℚ) ≠ 0 := by positivity
  have hquotient : (n : ℚ) / d + 1 / 2 = ((2 * n + d : Nat) : ℚ) / (2 * d : Nat) := by
    push_cast
    field_simp
  have hhalf : (2 * n + d) / 2 = n + d / 2 := by omega
  calc round ((n : ℚ) / d)
      = ⌊((2 * n + d : Nat) : ℚ) / (2 * d : Nat)⌋ := by rw [round_eq, hquotient]
    _ = ((2 * n + d) / (2 * d) : Nat) := by rw [Rat.floor_natCast_div_natCast, Int.natCast_ediv]
    _ = ((n + d / 2) / d : Nat) := by rw [← Nat.div_div_eq_div_mul, hhalf]

/-- A stretch is cut at the exact place, rounded. -/
theorem cut_eq_round (span : Span) (total sum : Nat) :
    (span.cut total sum : ℤ) = span.start + round ((span.length * sum : ℚ) / total) := by
  have hround := round_div_eq (sum * span.length) total
  rw [cut, Nat.cast_add, ← hround, mul_comm, Nat.cast_mul]

/-- The difference of two rounded numbers is the difference of the numbers up to less than one. -/
theorem abs_round_sub_round_lt_one (a b : ℚ) : |((round a : ℚ) - round b) - (a - b)| < 1 := by
  have ha := sub_half_lt_round a
  have ha' := round_le_add_half a
  have hb := sub_half_lt_round b
  have hb' := round_le_add_half b
  rw [abs_lt]
  constructor <;> linarith

/-! ### One piece -/

/-- The piece of a weight lies between the cut before it and the cut behind it. -/
theorem getElem?_cuts (span : Span) (total sum : Nat) (weights : List Nat) (i : Nat) :
    (span.cuts total sum weights)[i]? = weights[i]?.map fun weight =>
      let before := sum + (weights.take i).sum
      ⟨span.cut total before, span.cut total (before + weight) - span.cut total before⟩ := by
  induction weights generalizing sum i with
  | nil => rfl
  | cons weight weights ih =>
      cases i with
      | zero => rfl
      | succ i =>
          rw [cuts, List.getElem?_cons_succ, List.getElem?_cons_succ, ih, List.take_succ_cons,
            List.sum_cons, Nat.add_assoc]

/-- A piece reaches from one rounded place to the next one. -/
theorem ends_of_getElem?_share (h : (span.share weights)[i]? = some piece) :
    (piece.start : ℤ) = span.start + round (span.exactCut weights i) ∧
      (piece.stop : ℤ) = span.start + round (span.exactCut weights (i + 1)) := by
  rw [share_eq_cuts, getElem?_cuts, Option.map_eq_some_iff] at h
  obtain ⟨weight, hweight, rfl⟩ := h
  obtain ⟨hi, rfl⟩ := List.getElem?_eq_some_iff.mp hweight
  have hmono : span.cut weights.sum (weights.take i).sum ≤
      span.cut weights.sum ((weights.take i).sum + weights[i]) := cut_mono (Nat.le_add_right _ _)
  unfold exactCut
  rw [← cut_eq_round, ← cut_eq_round, List.sum_take_succ weights i hi, stop]
  simp only [Nat.zero_add]
  exact ⟨trivial, by rw [Nat.add_sub_cancel' hmono]⟩

/-- A piece is as long as the exact share of its weight, up to less than one unit. -/
theorem abs_length_sub_lt_one (h : (span.share weights)[i]? = some piece)
    (hweight : weights[i]? = some weight) :
    |(piece.length : ℚ) - span.length * weight / weights.sum| < 1 := by
  obtain ⟨hstart, hstop⟩ := ends_of_getElem?_share h
  have hlength : (piece.length : ℚ) =
      round (span.exactCut weights (i + 1)) - round (span.exactCut weights i) := by
    have hdiff : (piece.length : ℤ) =
        round (span.exactCut weights (i + 1)) - round (span.exactCut weights i) := by
      unfold stop at hstop
      omega
    exact_mod_cast hdiff
  have hexact : (span.length * weight / weights.sum : ℚ) =
      span.exactCut weights (i + 1) - span.exactCut weights i := by
    obtain ⟨hi, rfl⟩ := List.getElem?_eq_some_iff.mp hweight
    unfold exactCut
    rw [List.sum_take_succ weights i hi]
    push_cast
    ring
  rw [hlength, hexact]
  exact abs_round_sub_round_lt_one _ _

/-- A weight of 0 gets an empty piece. -/
theorem length_eq_zero_of_getElem?_share (h : (span.share weights)[i]? = some piece)
    (hzero : weights[i]? = some 0) : piece.length = 0 := by
  rw [share_eq_cuts, getElem?_cuts, hzero, Option.map_some, Option.some_inj] at h
  rw [← h]
  exact Nat.sub_self _

/-! ### All pieces -/

/-- Before all weights nothing is cut off. -/
theorem exactCut_zero (span : Span) (weights : List Nat) : span.exactCut weights 0 = 0 := by
  simp [exactCut]

/-- After all weights the whole stretch is cut off. -/
theorem exactCut_length (span : Span) (h : 0 < weights.sum) :
    span.exactCut weights weights.length = span.length := by
  have htotal : (weights.sum : ℚ) ≠ 0 := by positivity
  rw [exactCut, List.take_length, mul_div_cancel_right₀ _ htotal]

/-- Only the proportions of the weights matter for a cut. -/
theorem cut_mul (span : Span) {factor : Nat} (h : 0 < factor) (total sum : Nat) :
    span.cut (factor * total) (factor * sum) = span.cut total sum := by
  have hfactor : (factor : ℚ) ≠ 0 := by positivity
  have hcut : (span.cut (factor * total) (factor * sum) : ℤ) = span.cut total sum := by
    rw [cut_eq_round, cut_eq_round]
    push_cast
    rw [mul_left_comm, mul_div_mul_left _ _ hfactor]
  exact_mod_cast hcut

/-- Weights that are all multiplied by the same factor are cut in the same way. -/
theorem cuts_map_mul (span : Span) {factor : Nat} (h : 0 < factor) (total sum : Nat)
    (weights : List Nat) :
    span.cuts (factor * total) (factor * sum) (weights.map (factor * ·)) =
      span.cuts total sum weights := by
  induction weights generalizing sum with
  | nil => rfl
  | cons weight weights ih =>
      rw [List.map_cons, cuts, cuts, ← Nat.mul_add, ih, cut_mul span h, cut_mul span h]

/-- What it means that a stretch is shared exactly but for rounding. -/
structure SharedExactly (span : Span) (weights : List Nat) : Prop where
  /-- There is a piece for each weight. -/
  length_eq : (span.share weights).length = weights.length
  /-- Each piece reaches from the exact place of a cut, rounded with a half going up, to the exact
  place of the next cut, rounded in the same way. -/
  ends : ∀ (i : Nat) (piece : Span), (span.share weights)[i]? = some piece →
    (piece.start : ℤ) = span.start + round (span.exactCut weights i) ∧
      (piece.stop : ℤ) = span.start + round (span.exactCut weights (i + 1))
  /-- The first piece starts where the stretch starts. -/
  first : ∀ piece : Span, (span.share weights).head? = some piece → piece.start = span.start
  /-- Each piece starts where the one before it ends. -/
  next : ∀ (i : Nat) (piece next : Span), (span.share weights)[i]? = some piece →
    (span.share weights)[i + 1]? = some next → next.start = piece.stop
  /-- The last piece ends where the stretch ends. -/
  last : ∀ piece : Span, (span.share weights).getLast? = some piece →
    piece.stop = span.start + span.length
  /-- What is taken away from a cut for the length of a piece is never more than the cut. -/
  ordered : ∀ i : Nat, span.cut weights.sum (weights.take i).sum ≤
    span.cut weights.sum (weights.take (i + 1)).sum
  /-- The length of a piece differs from the exact share of its weight by less than one unit. -/
  error_lt_one : ∀ (i : Nat) (piece : Span) (weight : Nat), (span.share weights)[i]? = some piece →
    weights[i]? = some weight → |(piece.length : ℚ) - span.length * weight / weights.sum| < 1
  /-- A weight of 0 gets an empty piece. -/
  empty : ∀ (i : Nat) (piece : Span), (span.share weights)[i]? = some piece → weights[i]? = some 0 →
    piece.length = 0
  /-- Multiplying all weights by the same factor changes nothing. -/
  scaled : ∀ factor : Nat, 0 < factor → span.share (weights.map (factor * ·)) = span.share weights

/-- **Sharing is exact rounding**: a stretch is cut at the exact places, rounded to the nearest
unit with a half going up, and all else follows from it. Without any weight, all pieces are empty
and lie at the start. -/
theorem share_exact (span : Span) (weights : List Nat) :
    (0 < weights.sum → span.SharedExactly weights) ∧
      (weights.sum = 0 → span.share weights = weights.map fun _ => ⟨span.start, 0⟩) := by
  constructor
  · intro hpos
    constructor
    case length_eq => exact length_share span weights
    case ends => exact fun i piece hpiece => ends_of_getElem?_share hpiece
    case first =>
      intro piece hpiece
      rw [List.head?_eq_getElem?] at hpiece
      obtain ⟨hstart, -⟩ := ends_of_getElem?_share hpiece
      rw [exactCut_zero, round_zero, add_zero] at hstart
      exact_mod_cast hstart
    case next =>
      intro i piece next hpiece hnext
      obtain ⟨-, hstop⟩ := ends_of_getElem?_share hpiece
      obtain ⟨hstart, -⟩ := ends_of_getElem?_share hnext
      omega
    case last =>
      intro piece hpiece
      have hsome : weights.length ≠ 0 := by
        rintro hnone
        rw [List.length_eq_zero_iff.mp hnone] at hpos
        exact absurd hpos (Nat.lt_irrefl 0)
      rw [List.getLast?_eq_getElem?, length_share] at hpiece
      obtain ⟨-, hstop⟩ := ends_of_getElem?_share hpiece
      rw [Nat.sub_add_cancel (Nat.one_le_iff_ne_zero.mpr hsome), exactCut_length span hpos,
        round_natCast] at hstop
      exact_mod_cast hstop
    case ordered =>
      intro i
      apply cut_mono
      rw [List.take_add_one, List.sum_append]
      exact Nat.le_add_right _ _
    case error_lt_one =>
      exact fun i piece weight hpiece hweight => abs_length_sub_lt_one hpiece hweight
    case empty => exact fun i piece hpiece hzero => length_eq_zero_of_getElem?_share hpiece hzero
    case scaled =>
      intro factor hfactor
      have hsum : (weights.map (factor * ·)).sum = factor * weights.sum := by
        simpa using List.sum_map_mul_left weights id factor
      have hcuts := cuts_map_mul span hfactor weights.sum 0 weights
      rw [Nat.mul_zero, ← hsum] at hcuts
      rw [share_eq_cuts, share_eq_cuts, hcuts]
  · intro hzero
    rw [share_eq_cuts, hzero, cuts_of_total_eq_zero]

/-- Nine units from the second on are shared among the weights 1, 0, 2 and 2: the cuts fall behind
1.8 units, which is rounded to 2, and behind 5.4, which is rounded to 5. -/
theorem share_exact_nineUnits :
    0 < [1, 0, 2, 2].sum ∧ (⟨2, 9⟩ : Span).SharedExactly [1, 0, 2, 2] ∧
      (⟨2, 9⟩ : Span).share [1, 0, 2, 2] = [⟨2, 2⟩, ⟨4, 0⟩, ⟨4, 3⟩, ⟨7, 4⟩] :=
  ⟨by decide, (share_exact ⟨2, 9⟩ [1, 0, 2, 2]).1 (by decide), by decide⟩

end Span

end Slab
