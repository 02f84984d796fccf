import Slab.Proofs.Running

/-!
# Where the open programs began

A position in a program stands for the moment before the unit there is taken in. `openers` lists
the positions of the `S` units whose programs are open at that moment, innermost first, and
`reached` is the builder at it. What waits around the innermost level is what the builder was at
the openers (`reached_outer`), so a close goes back to the moment of its `S` and puts the nested
grid in the place kept there (`reached_level_close`). `position_induction` is the induction over
positions that goes along: at a close it refers to the position of the opener as well.
-/

namespace Slab

/-! ### The openers of a position -/

/-- The positions of the `S` units that are open at a position, innermost first. -/
def openers (units : List Lexeme) : Nat → List Nat
  | 0 => []
  | k + 1 =>
    match units[k]? with
    | some (.command .nest) => k :: openers units k
    | some .close => (openers units k).tail
    | _ => openers units k

variable {units : List Lexeme} {unit : Lexeme} {k s : Nat} {rest : List Nat}

/-- An `S` opens a program at its position. -/
theorem openers_nest (h : units[k]? = some (.command .nest)) :
    openers units (k + 1) = k :: openers units k := by
  rw [openers, h]

/-- A close ends the program that was opened last. -/
theorem openers_close (h : units[k]? = some .close) :
    openers units (k + 1) = (openers units k).tail := by
  rw [openers, h]

/-- Other units open and close nothing. -/
theorem openers_of_ne (hclose : units[k]? ≠ some .close)
    (hnest : units[k]? ≠ some (.command .nest)) : openers units (k + 1) = openers units k := by
  rw [openers]
  split
  · exact absurd ‹_› hnest
  · exact absurd ‹_› hclose
  · rfl

/-- A close with nothing to close leaves nothing open. -/
theorem openers_of_stray (hnest : units[k]? ≠ some (.command .nest))
    (hclose : units[k]? = some .close → openers units k = []) :
    openers units (k + 1) = openers units k := by
  by_cases h : units[k]? = some .close
  · rw [openers_close h, hclose h]
    rfl
  · exact openers_of_ne h hnest

/-- An opener is an `S` before the position. -/
theorem mem_openers (h : s ∈ openers units k) : s < k ∧ units[s]? = some (.command .nest) := by
  induction k with
  | zero => cases h
  | succ k ih =>
      by_cases hnest : units[k]? = some (.command .nest)
      · rw [openers_nest hnest] at h
        rcases List.mem_cons.mp h with rfl | h
        · exact ⟨Nat.lt_succ_self s, hnest⟩
        · exact ⟨Nat.lt_succ_of_lt (ih h).1, (ih h).2⟩
      · have hmem : s ∈ openers units k := by
          by_cases hclose : units[k]? = some .close
          · rw [openers_close hclose] at h
            exact List.mem_of_mem_tail h
          · rwa [openers_of_ne hclose hnest] at h
        exact ⟨Nat.lt_succ_of_lt (ih hmem).1, (ih hmem).2⟩

/-- No position is open at itself or earlier. -/
theorem notMem_openers {j : Nat} (h : j ≤ k) : k ∉ openers units j := by
  intro hk
  have hlt := (mem_openers hk).1
  omega

/-- A program that is open now has been open ever since its `S`, inside of what was open then. -/
theorem openers_cons (h : openers units k = s :: rest) :
    openers units s = rest ∧ ∀ j, s < j → j ≤ k → s :: rest <:+ openers units j := by
  induction k using Nat.strongRecOn generalizing s rest with
  | ind k ih =>
      rcases k with _ | k
      · cases h
      -- what was already open before the last unit
      have hbefore : openers units k = s :: rest →
          openers units s = rest ∧ ∀ j, s < j → j ≤ k + 1 → s :: rest <:+ openers units j := by
        intro hk
        obtain ⟨hs, hsince⟩ := ih k (Nat.lt_succ_self k) hk
        refine ⟨hs, ?_⟩
        intro j hsj hjk
        rcases Nat.lt_or_eq_of_le hjk with hjk | rfl
        · exact hsince j hsj (Nat.le_of_lt_succ hjk)
        · simp only [h, List.suffix_rfl]
      by_cases hnest : units[k]? = some (.command .nest)
      · have hcons := h
        rw [openers_nest hnest] at hcons
        obtain ⟨rfl, hrest⟩ := List.cons.inj hcons
        refine ⟨hrest, ?_⟩
        intro j hkj hjk
        obtain rfl : j = k + 1 := by omega
        simp only [h, List.suffix_rfl]
      by_cases hclose : units[k]? = some .close
      · rw [openers_close hclose] at h
        rcases hk : openers units k with _ | ⟨closed, still⟩
        · rw [hk] at h
          cases h
        · obtain rfl : still = s :: rest := by rwa [hk] at h
          obtain ⟨hclosed, hopen⟩ := ih k (Nat.lt_succ_self k) hk
          have hlt : closed < k := (mem_openers (by rw [hk]; exact List.mem_cons_self)).1
          obtain ⟨hs, hsince⟩ := ih closed (Nat.lt_succ_of_lt hlt) hclosed
          refine ⟨hs, ?_⟩
          intro j hsj hjk
          rcases Nat.lt_or_ge closed j with hcj | hjc
          · rcases Nat.lt_or_eq_of_le hjk with hjk | rfl
            · exact (List.suffix_cons closed _).trans (hopen j hcj (Nat.le_of_lt_succ hjk))
            · simp only [openers_close hclose, hk, List.tail_cons, List.suffix_rfl]
          · exact hsince j hsj hjc
      · exact hbefore ((openers_of_ne hclose hnest).symm.trans h)

/-- The innermost opener comes before the position. -/
theorem lt_of_openers_cons (h : openers units k = s :: rest) : s < k :=
  (mem_openers (by rw [h]; exact List.mem_cons_self)).1

/-- What was open at an opener does not include it. -/
theorem notMem_of_openers_cons (h : openers units k = s :: rest) : s ∉ rest := by
  rw [← (openers_cons h).1]
  exact notMem_openers (Nat.le_refl s)

/-- The innermost opener is open at all positions behind it. -/
theorem mem_openers_of_between {j : Nat} (h : openers units k = s :: rest) (hs : s < j)
    (hk : j ≤ k) : s ∈ openers units j :=
  ((openers_cons h).2 j hs hk).subset List.mem_cons_self

/-- Where one program has ended and later another one does on the same level, that one has begun
after the first had ended. -/
theorem lt_opener_of_close {e t : Nat} (h : units[e]? = some .close)
    (hafter : openers units (e + 1) = rest) (hk : openers units k = t :: rest) (hek : e < k) :
    e < t := by
  rcases Nat.lt_trichotomy e t with het | rfl | hte
  · exact het
  · have hnest := (mem_openers (by rw [hk]; exact List.mem_cons_self)).2
    rw [h] at hnest
    cases hnest
  · have hopen : t ∈ openers units (e + 1) := mem_openers_of_between hk (by omega) (by omega)
    rw [hafter] at hopen
    exact absurd hopen (notMem_of_openers_cons hk)

/-! ### Induction over positions -/

/-- Induction over the positions of a program. The position after a close that ends a program may
refer to the one where that program was opened. -/
@[elab_as_elim]
theorem position_induction {motive : (k : Nat) → k ≤ units.length → Prop}
    (start : motive 0 (Nat.zero_le _))
    (nest : ∀ k (hk : k < units.length), units[k]? = some (.command .nest) →
      motive k (Nat.le_of_lt hk) → motive (k + 1) hk)
    (close : ∀ k s rest (hk : k < units.length) (hs : s < k), units[k]? = some .close →
      openers units k = s :: rest → motive s (Nat.le_of_lt (Nat.lt_trans hs hk)) →
      motive k (Nat.le_of_lt hk) → motive (k + 1) hk)
    (other : ∀ k unit (hk : k < units.length), units[k]? = some unit → unit ≠ .command .nest →
      (unit = .close → openers units k = []) → motive k (Nat.le_of_lt hk) → motive (k + 1) hk)
    (k : Nat) (hk : k ≤ units.length) : motive k hk := by
  induction k using Nat.strongRecOn with
  | ind k ih =>
      rcases k with _ | k
      · exact start
      have hunit : units[k]? = some units[k] := List.getElem?_eq_getElem hk
      have hbefore : motive k (Nat.le_of_lt hk) := ih k (Nat.lt_succ_self k) _
      by_cases hnest : units[k] = .command .nest
      · exact nest k hk (by rw [hunit, hnest]) hbefore
      by_cases hclose : units[k] = .close
      · rcases hopen : openers units k with _ | ⟨s, rest⟩
        · exact other k _ hk hunit hnest (fun _ => hopen) hbefore
        · have hs := lt_of_openers_cons hopen
          exact close k s rest hk hs (by rw [hunit, hclose]) hopen (ih s (Nat.lt_succ_of_lt hs) _)
            hbefore
      · exact other k _ hk hunit hnest (fun h => absurd h hclose) hbefore

/-! ### The builder at a position -/

/-- The builder at a position of a program. -/
def reached (units : List Lexeme) (ink : Ink) (k : Nat) : Builder :=
  (Builder.start ink).run (units.take k)

variable {ink : Ink}

/-- One position on, one unit more was taken in. -/
theorem reached_succ (h : units[k]? = some unit) :
    reached units ink (k + 1) = (reached units ink k).step unit := by
  unfold reached
  rw [List.take_add_one, h, Builder.run_append]
  rfl

/-- A level as it waits for the nested program that begins on it. -/
def Level.awaiting (level : Level) : Suspended :=
  ⟨level.suspend, level.ink.color?⟩

/-- What waits at a position is what was there at the openers. -/
theorem reached_outer (ink : Ink) (hk : k ≤ units.length) :
    (reached units ink k).outer =
      (openers units k).map fun s => (reached units ink s).level.awaiting := by
  induction k, hk using position_induction with
  | start => rfl
  | nest k _ h ih =>
      rw [reached_succ h, openers_nest h, List.map_cons, ← ih]
      rfl
  | close k s rest _ _ h hopen _ ih =>
      rw [hopen, List.map_cons] at ih
      rw [reached_succ h, openers_close h, hopen, List.tail_cons, Builder.step, Builder.close, ih]
  | other k unit _ h hnest hstray ih =>
      rw [openers_of_stray (by simpa [h] using hnest) (by simpa [h] using hstray), ← ih,
        reached_succ h]
      by_cases hclose : unit = .close
      · rw [hstray hclose] at ih
        rw [hclose, Builder.step, Builder.close, ih]
        rfl
      · rw [Builder.step_eq_modify _ hclose hnest]
        rfl

/-- A nested program starts on a fresh level. -/
theorem reached_level_nest (h : units[k]? = some (.command .nest)) :
    (reached units ink (k + 1)).level = (reached units ink k).level.nestedStart := by
  rw [reached_succ h]
  rfl

/-- A close goes on from the `S`, with the nested grid in the place kept for it. -/
theorem reached_level_close (h : units[k]? = some .close) (hopen : openers units k = s :: rest) :
    (reached units ink (k + 1)).level =
      (reached units ink s).level.hold (reached units ink k).level.finish := by
  have hk : k < units.length := (List.getElem?_eq_some_iff.mp h).1
  have houter := reached_outer ink (Nat.le_of_lt hk)
  rw [hopen, List.map_cons] at houter
  rw [reached_succ h, Builder.step, Builder.close, houter]
  rfl

/-- Any other unit changes the innermost level. -/
theorem reached_level_other (h : units[k]? = some unit) (hnest : unit ≠ .command .nest)
    (hstray : unit = .close → openers units k = []) :
    (reached units ink (k + 1)).level = (reached units ink k).level.take unit := by
  have hk : k < units.length := (List.getElem?_eq_some_iff.mp h).1
  rw [reached_succ h]
  by_cases hclose : unit = .close
  · have houter := reached_outer ink (Nat.le_of_lt hk)
    rw [hstray hclose] at houter
    rw [hclose, Builder.step, Builder.close, houter]
    rfl
  · rw [Builder.step_eq_modify _ hclose hnest]
    rfl

/-! ### The end of a program -/

/-- The units of a program and the closes that are missing at its end. -/
def closedUnits (program : List Char) : List Lexeme :=
  let units := lexemes program
  units ++ List.replicate (openers units units.length).length .close

/-- Behind its units and the closes that are missing, a program is at its end: nothing is open. -/
theorem reached_closedUnits (program : List Char) (ink : Ink) :
    reached (closedUnits program) ink (closedUnits program).length =
      ⟨((Builder.start ink).run (lexemes program)).unwind, []⟩ := by
  have houter := reached_outer ink (Nat.le_refl (lexemes program).length)
  have hall : reached (lexemes program) ink (lexemes program).length =
      (Builder.start ink).run (lexemes program) := by
    rw [reached, List.take_length]
  rw [hall] at houter
  have hlength := congrArg List.length houter
  rw [List.length_map] at hlength
  have hclose := Builder.run_replicate_close ((Builder.start ink).run (lexemes program)).level
    ((Builder.start ink).run (lexemes program)).outer []
  rw [List.append_nil, hlength] at hclose
  rw [reached, List.take_length, closedUnits, Builder.run_append]
  exact hclose

/-- The grid of a program is the level at the end of its units, when all is closed. -/
theorem scan_eq_reached (program : List Char) (ink : Ink) :
    scan program ink =
      (reached (closedUnits program) ink (closedUnits program).length).level.finish := by
  rw [reached_closedUnits]
  rfl

end Slab
