import Mathlib.Algebra.GroupWithZero.Nat
import Slab.Share

/-!
# Pieces of a shared length

What `Span.share` gives are the spans between neighbouring cuts (`share_eq_cuts`), and these tile
the stretch: each piece starts where the one before it ends, the first at the start of the stretch
and the last at its end (`tiles_share`). So every unit of the stretch is in one piece, and in a list
of items zipped with pieces at most one item has it (`find?_zip_iff`); one item has it if there is
any weight at all (`exists_mem_zip_share`).
-/

namespace Slab

namespace Span

/-- The unit is in the span. -/
def Contains (span : Span) (unit : Nat) : Prop :=
  span.start ≤ unit ∧ unit < span.start + span.length

instance (span : Span) (unit : Nat) : Decidable (span.Contains unit) :=
  inferInstanceAs (Decidable (_ ∧ _))

/-- The end of a span is the unit after its last one. -/
def stop (span : Span) : Nat := span.start + span.length

/-! ### Cuts -/

variable {span : Span} {total : Nat}

/-- A greater sum is cut no earlier. -/
theorem cut_mono {sum more : Nat} (h : sum ≤ more) : span.cut total sum ≤ span.cut total more := by
  unfold cut
  have hshare := Nat.mul_le_mul_right span.length h
  have hround := Nat.div_le_div_right (c := total) (Nat.add_le_add_right hshare (total / 2))
  omega

/-- The cut before all weights is the start of the stretch. -/
theorem cut_zero (span : Span) (total : Nat) : span.cut total 0 = span.start := by
  have hhalf : total / 2 / total = 0 := by
    rw [Nat.div_div_eq_div_mul, Nat.mul_comm, ← Nat.div_div_eq_div_mul]
    rcases Nat.eq_zero_or_pos total with rfl | hpos
    · rfl
    · rw [Nat.div_self hpos]
  rw [cut, Nat.zero_mul, Nat.zero_add, hhalf, Nat.add_zero]

/-- The cut after all weights is the end of the stretch. -/
theorem cut_total (span : Span) (h : 0 < total) : span.cut total total = span.stop := by
  have hhalf : total / 2 / total = 0 := Nat.div_eq_of_lt (by omega)
  rw [cut, Nat.add_comm (total * span.length), Nat.add_mul_div_left _ _ h, hhalf, Nat.zero_add,
    stop]

/-- Without a weight nothing is cut off. -/
theorem cut_of_total_eq_zero (span : Span) (sum : Nat) : span.cut 0 sum = span.start := by
  rw [cut, Nat.div_zero, Nat.add_zero]

/-- The spans between neighbouring cuts, where the weights before them add up to `sum`. -/
def cuts (span : Span) (total sum : Nat) : List Nat → List Span
  | [] => []
  | weight :: weights =>
    ⟨span.cut total sum, span.cut total (sum + weight) - span.cut total sum⟩ ::
      span.cuts total (sum + weight) weights

/-- The pieces cut so far come first. -/
theorem piecesFrom_eq (span : Span) (total sum : Nat) (pieces : List Span) (weights : List Nat) :
    span.piecesFrom total sum pieces weights = pieces.reverse ++ span.cuts total sum weights := by
  induction weights generalizing sum pieces with
  | nil => simp [piecesFrom, cuts]
  | cons weight weights ih =>
      rw [piecesFrom, ih, List.reverse_cons, List.append_assoc]
      rfl

/-- Where there is nothing to share by, all cuts fall on the start. -/
theorem cuts_of_total_eq_zero (span : Span) (sum : Nat) (weights : List Nat) :
    span.cuts 0 sum weights = weights.map fun _ => ⟨span.start, 0⟩ := by
  induction weights generalizing sum with
  | nil => rfl
  | cons weight weights ih =>
      rw [cuts, ih, cut_of_total_eq_zero, cut_of_total_eq_zero, Nat.sub_self, List.map_cons]

/-- The pieces are the spans between neighbouring cuts. -/
theorem share_eq_cuts (span : Span) (weights : List Nat) :
    span.share weights = span.cuts weights.sum 0 weights := by
  rw [List.sum_eq_foldr]
  unfold share
  by_cases h : weights.foldr (· + ·) 0 = 0
  · rw [if_pos h, h, cuts_of_total_eq_zero]
  · rw [if_neg h, piecesFrom_eq]
    rfl

/-- There is a span between cuts for each weight. -/
theorem length_cuts (span : Span) (total sum : Nat) (weights : List Nat) :
    (span.cuts total sum weights).length = weights.length := by
  induction weights generalizing sum with
  | nil => rfl
  | cons weight weights ih => rw [cuts, List.length_cons, List.length_cons, ih]

/-- There is a piece for each weight. -/
theorem length_share (span : Span) (weights : List Nat) :
    (span.share weights).length = weights.length := by
  rw [share_eq_cuts, length_cuts]

/-! ### Tiling -/

/-- Spans that follow each other without gaps from one unit up to another. -/
def Tiles (start stop : Nat) : List Span → Prop
  | [] => start = stop
  | span :: spans => span.start = start ∧ Tiles span.stop stop spans

/-- Tiles end no earlier than they start. -/
theorem Tiles.le {start stop : Nat} {spans : List Span} (h : Tiles start stop spans) :
    start ≤ stop := by
  induction spans generalizing start with
  | nil => exact Nat.le_of_eq h
  | cons span spans ih =>
      obtain ⟨rfl, hrest⟩ := h
      exact Nat.le_trans (Nat.le_add_right _ _) (ih hrest)

/-- A tile lies between the two ends. -/
theorem Tiles.bounds {start stop : Nat} {spans : List Span} (h : Tiles start stop spans)
    (hmem : span ∈ spans) : start ≤ span.start ∧ span.stop ≤ stop := by
  induction spans generalizing start with
  | nil => exact absurd hmem List.not_mem_nil
  | cons first spans ih =>
      obtain ⟨rfl, hrest⟩ := h
      rcases List.mem_cons.mp hmem with rfl | hmem
      · exact ⟨Nat.le_refl _, hrest.le⟩
      · obtain ⟨hstart, hstop⟩ := ih hrest hmem
        exact ⟨Nat.le_trans (Nat.le_add_right _ _) hstart, hstop⟩

/-- Tiles leave no unit out between their ends. -/
theorem Tiles.exists_contains {start stop unit : Nat} {spans : List Span}
    (h : Tiles start stop spans) (hstart : start ≤ unit) (hstop : unit < stop) :
    ∃ span ∈ spans, span.Contains unit := by
  induction spans generalizing start with
  | nil =>
      obtain rfl : start = stop := h
      exact absurd hstop (Nat.not_lt.mpr hstart)
  | cons first spans ih =>
      obtain ⟨rfl, hrest⟩ := h
      rcases Nat.lt_or_ge unit first.stop with hfirst | hlater
      · exact ⟨first, List.mem_cons_self, hstart, hfirst⟩
      · obtain ⟨span, hspan, hunit⟩ := ih hrest hlater
        exact ⟨span, List.mem_cons_of_mem _ hspan, hunit⟩

/-- The spans between neighbouring cuts follow each other from the first cut to the last. -/
theorem tiles_cuts (span : Span) (total sum : Nat) (weights : List Nat) :
    Tiles (span.cut total sum) (span.cut total (sum + weights.sum))
      (span.cuts total sum weights) := by
  induction weights generalizing sum with
  | nil => rfl
  | cons weight weights ih =>
      have hmono : span.cut total sum ≤ span.cut total (sum + weight) :=
        cut_mono (Nat.le_add_right _ _)
      refine ⟨rfl, ?_⟩
      rw [stop, Nat.add_sub_cancel' hmono, List.sum_cons, ← Nat.add_assoc]
      exact ih (sum + weight)

/-- The pieces of a stretch tile it, if there is any weight. -/
theorem tiles_share (span : Span) {weights : List Nat} (h : 0 < weights.sum) :
    Tiles span.start span.stop (span.share weights) := by
  have htiles := span.tiles_cuts weights.sum 0 weights
  rwa [Nat.zero_add, cut_zero, cut_total span h, ← share_eq_cuts] at htiles

/-- The pieces of a stretch tile it or, without any weight, its start. -/
theorem exists_tiles_share (span : Span) (weights : List Nat) :
    ∃ stop ≤ span.stop, Tiles span.start stop (span.share weights) := by
  rcases Nat.eq_zero_or_pos weights.sum with hzero | hpos
  · refine ⟨span.start, Nat.le_add_right _ _, ?_⟩
    have htiles := span.tiles_cuts weights.sum 0 weights
    rwa [← share_eq_cuts, hzero, cut_of_total_eq_zero] at htiles
  · exact ⟨span.stop, Nat.le_refl _, span.tiles_share hpos⟩

/-- What is in a piece of a stretch is in the stretch. -/
theorem contains_of_mem_share {piece : Span} {weights : List Nat} {unit : Nat}
    (hmem : piece ∈ span.share weights) (h : piece.Contains unit) : span.Contains unit := by
  obtain ⟨stop, hle, htiles⟩ := span.exists_tiles_share weights
  obtain ⟨hstart, hstop⟩ := htiles.bounds hmem
  exact ⟨Nat.le_trans hstart h.1, Nat.lt_of_lt_of_le h.2 (Nat.le_trans hstop hle)⟩

/-! ### Items with pieces -/

variable {α : Type} {item : α} {piece : Span} {unit : Nat}

/-- Among items zipped with tiles, the first whose tile has the unit is the only one. -/
theorem Tiles.find?_zip_iff {start stop : Nat} {spans : List Span} (h : Tiles start stop spans)
    (items : List α) :
    (items.zip spans).find? (·.2.Contains unit) = some (item, piece) ↔
      (item, piece) ∈ items.zip spans ∧ piece.Contains unit := by
  constructor
  · intro hfind
    exact ⟨List.mem_of_find?_eq_some hfind, by simpa using List.find?_some hfind⟩
  · induction spans generalizing start items with
    | nil => simp
    | cons first spans ih =>
        cases items with
        | nil => simp
        | cons head items =>
            obtain ⟨-, hrest⟩ := h
            rintro ⟨hmem, hunit⟩
            rw [List.zip_cons_cons] at hmem ⊢
            rcases List.mem_cons.mp hmem with heq | hmem
            · cases heq
              exact List.find?_cons_of_pos (by simpa using hunit)
            · have hafter := (hrest.bounds (List.of_mem_zip hmem).2).1
              have hnot : ¬first.Contains unit := by
                intro hfirst
                exact Nat.not_lt.mpr (Nat.le_trans hafter hunit.1) hfirst.2
              rw [List.find?_cons_of_neg (by simpa using hnot)]
              exact ih hrest items ⟨hmem, hunit⟩

/-- Among items zipped with the pieces of a stretch, the first whose piece has the unit is the
only one. -/
theorem find?_zip_share_iff (items : List α) (weights : List Nat) :
    (items.zip (span.share weights)).find? (·.2.Contains unit) = some (item, piece) ↔
      (item, piece) ∈ items.zip (span.share weights) ∧ piece.Contains unit := by
  obtain ⟨stop, -, htiles⟩ := span.exists_tiles_share weights
  exact htiles.find?_zip_iff items

/-- Among items zipped with the pieces for their weights, there is one whose piece has the unit, if
there is any weight. -/
theorem exists_mem_zip_share (items : List α) (weight : α → Nat)
    (hpos : 0 < (items.map weight).sum) (h : span.Contains unit) :
    ∃ item piece, (item, piece) ∈ items.zip (span.share (items.map weight)) ∧
      piece.Contains unit := by
  obtain ⟨piece, hpiece, hunit⟩ := (span.tiles_share hpos).exists_contains h.1 h.2
  have hlength : (span.share (items.map weight)).length = items.length := by
    rw [length_share, List.length_map]
  rw [← List.map_snd_zip (Nat.le_of_eq hlength)] at hpiece
  obtain ⟨⟨item, piece⟩, hmem, rfl⟩ := List.mem_map.mp hpiece
  exact ⟨item, piece, hmem, hunit⟩

end Span

end Slab
