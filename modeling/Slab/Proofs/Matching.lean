import Mathlib.Data.Finset.Lattice.Fold
import Mathlib.Order.Lattice.Nat
import Mathlib.Tactic.Ring
import Slab.Proofs.Flat
import Slab.Proofs.Tally

/-!
# Brackets in numbers

Which close ends which nested program depends on all that was read before, and a stray close shifts
the matching of everything behind it. How many closes are strays and how many programs are open can
be told from two numbers all the same: the `S`s and the pairs of `B`s in each prefix of the text.
The strays are the greatest excess of pairs over `S`s (`overhang`), and what is open is the excess
of `S`s over pairs, once the strays are discounted.

`Reading.readAll_eq` is the invariant: it follows a text character by character, because a prefix
may end between two `B`s. **`matching_eq`** says it of the builder and of what is told about a
program.
-/

namespace Slab

/-! ### Pairs -/

/-- The pairs of adjacent `B`s, found from the left: half of the `B`s of every run, rounded
down. -/
def pairCount (text : List Char) : Nat :=
  ((text.splitOnP (· != 'B')).map (·.length / 2)).sum

/-- The `B`s that a text ends in. -/
def trailingBreaks (text : List Char) : Nat :=
  ((text.splitOnP (· != 'B')).getLastD []).length

/-- A character other than `B` at the end makes no pair and ends a run. -/
theorem pairCount_concat_of_ne {c : Char} (h : c ≠ 'B') (text : List Char) :
    pairCount (text ++ [c]) = pairCount text ∧ trailingBreaks (text ++ [c]) = 0 := by
  have hcut : (c != 'B') = true := bne_iff_ne.mpr h
  unfold pairCount trailingBreaks
  rw [splitOnP_concat_of_pos (p := (· != 'B')) text hcut]
  simp

/-- A `B` at the end lengthens the last run, and makes a pair if the run was odd. -/
theorem pairCount_concat_break (text : List Char) :
    pairCount (text ++ ['B']) = pairCount text + trailingBreaks text % 2 ∧
      trailingBreaks (text ++ ['B']) = trailingBreaks text + 1 := by
  have hbreak : ('B' != 'B') = false := rfl
  obtain ⟨runs, run, hruns, hmore⟩ := splitOnP_concat_of_neg (· != 'B') text hbreak
  have hhalf : (run.length + 1) / 2 = run.length / 2 + run.length % 2 := by omega
  unfold pairCount trailingBreaks
  rw [hruns, hmore]
  simp [hhalf, Nat.add_assoc]

/-- Two `B`s at the front make a pair. -/
theorem pairCount_pair (rest : List Char) :
    pairCount ('B' :: 'B' :: rest) = pairCount rest + 1 := by
  have hhalf : ∀ n, (n + 1 + 1) / 2 = n / 2 + 1 := by omega
  unfold pairCount
  rcases hruns : rest.splitOnP (· != 'B') with _ | ⟨run, runs⟩
  · exact absurd hruns (List.splitOnP_ne_nil _ _)
  · simp [List.splitOnP_cons_eq_if_modifyHead, hruns, hhalf]
    ring

/-- A character that does not pair with the next one makes no pair. -/
theorem pairCount_single {c : Char} {rest : List Char} (h : c = 'B' → rest.head? ≠ some 'B') :
    pairCount (c :: rest) = pairCount rest := by
  unfold pairCount
  by_cases hc : c = 'B'
  · subst hc
    rcases rest with _ | ⟨d, rest⟩
    · rfl
    · have hd : d ≠ 'B' := by simpa using h rfl
      simp [List.splitOnP_cons_eq_if_modifyHead, hd]
  · simp [List.splitOnP_cons_eq_if_modifyHead, hc]

/-- The pairs are the closes among the units. -/
theorem count_close_lexemes (text : List Char) : (lexemes text).count .close = pairCount text := by
  induction text using unit_induction with
  | nil => rfl
  | pair rest ih => rw [lexemes_pair, List.count_cons_self, ih, pairCount_pair]
  | single c rest hB ih =>
      rw [lexemes_single hB, List.count_cons_of_ne (Lexeme.ofChar_ne_close c), ih,
        pairCount_single hB]

/-! ### Excess -/

/-- By how much the pairs of a prefix exceed its `S`s, at most; 0 if they never do. -/
def overhang (text : List Char) : Nat :=
  (Finset.range (text.length + 1)).sup fun k => pairCount (text.take k) - (text.take k).count 'S'

/-- A text that is longer by a character has one prefix more, itself. -/
theorem overhang_concat (text : List Char) (c : Char) :
    overhang (text ++ [c]) =
      max (overhang text) (pairCount (text ++ [c]) - (text ++ [c]).count 'S') := by
  have hshorter : ∀ k ∈ Finset.range (text.length + 1),
      pairCount ((text ++ [c]).take k) - ((text ++ [c]).take k).count 'S' =
        pairCount (text.take k) - (text.take k).count 'S' := by
    intro k hk
    rw [List.take_append_of_le_length (Nat.le_of_lt_succ (Finset.mem_range.mp hk))]
  have hall : (text ++ [c]).take (text.length + 1) = text ++ [c] := by
    rw [List.take_of_length_le]
    simp
  unfold overhang
  rw [List.length_append, List.length_singleton, Finset.range_add_one, Finset.sup_insert, hall,
    Finset.sup_congr rfl hshorter, max_comm]

namespace Reading

/-- What has been read of a text, in numbers. -/
structure Counts (reading : Reading) (text : List Char) : Prop where
  /-- A `B` waits if the `B`s at the end are odd in number. -/
  waiting : reading.waiting = decide (trailingBreaks text % 2 = 1)
  /-- The strays are the greatest excess of pairs. -/
  strays : reading.tally.strays = overhang text
  /-- What is open and what was paired are what was opened and what was stray. -/
  opened : reading.tally.opened + pairCount text = text.count 'S' + overhang text

variable {reading : Reading} {text : List Char}

/-- A `B` more makes a pair or waits for one. -/
theorem Counts.read_break (h : reading.Counts text) : (reading.read 'B').Counts (text ++ ['B']) := by
  obtain ⟨hwaiting, hstrays, hopened⟩ := h
  obtain ⟨hpairs, htrailing⟩ := pairCount_concat_break text
  have hcount : (text ++ ['B']).count 'S' = text.count 'S' := by simp
  have hoverhang := overhang_concat text 'B'
  rw [hpairs, hcount] at hoverhang
  rcases reading with ⟨⟨opened, strays⟩, waiting⟩
  dsimp only at hstrays hopened
  cases waiting with
  | false =>
      have heven : trailingBreaks text % 2 ≠ 1 := by simpa using hwaiting
      rw [read_first]
      refine ⟨?_, ?_, ?_⟩
      · rw [htrailing, eq_comm, decide_eq_true_iff]
        omega
      · show strays = _
        omega
      · show opened + _ = _
        omega
  | true =>
      have hodd : trailingBreaks text % 2 = 1 := by simpa using hwaiting
      rw [read_pair]
      refine ⟨?_, ?_, ?_⟩
      · rw [htrailing, eq_comm, decide_eq_false_iff_not]
        omega
      · show strays + (1 - opened) = _
        omega
      · show opened - 1 + _ = _
        omega

/-- Any other character ends a run, and `S` opens a program. -/
theorem Counts.read_of_ne (h : reading.Counts text) {c : Char} (hB : c ≠ 'B') :
    (reading.read c).Counts (text ++ [c]) := by
  obtain ⟨hwaiting, hstrays, hopened⟩ := h
  obtain ⟨hpairs, htrailing⟩ := pairCount_concat_of_ne hB text
  have hoverhang := overhang_concat text c
  have hcount : (text ++ [c]).count 'S' = text.count 'S' + [c].count 'S' := List.count_append
  have hunit : reading.tally.count (.ofChar c) = reading.tally.nest ([c].count 'S') := by
    by_cases hS : c = 'S'
    · subst hS
      rfl
    · have hnest : Lexeme.ofChar c ≠ .command .nest := fun heq =>
        hS (Lexeme.ofChar_eq_command_iff.mp heq)
      rw [Tally.count_of_ne (Lexeme.ofChar_ne_close c) hnest,
        List.count_cons_of_ne hS, List.count_nil, Tally.nest_zero]
  rw [hpairs, hcount] at hoverhang
  rw [Reading.read_of_ne hB, hunit]
  refine ⟨?_, ?_, ?_⟩
  · rw [htrailing]
    rfl
  · show reading.tally.strays = _
    omega
  · show reading.tally.opened + [c].count 'S' + _ = _
    omega

/-- What has been read of a text from the start. -/
theorem counts_readAll (text : List Char) : ((⟨{}, false⟩ : Reading).readAll text).Counts text := by
  induction text using List.reverseRecOn with
  | nil => exact ⟨rfl, rfl, rfl⟩
  | append_singleton text c ih =>
      rw [readAll_append]
      show (((⟨{}, false⟩ : Reading).readAll text).read c).Counts (text ++ [c])
      by_cases hB : c = 'B'
      · subst hB
        exact ih.read_break
      · exact ih.read_of_ne hB

end Reading

/-- The tally of a text, in numbers. -/
theorem tallyOf_lexemes (text : List Char) :
    (tallyOf (lexemes text)).strays = overhang text ∧
      (tallyOf (lexemes text)).opened + pairCount text = text.count 'S' + overhang text := by
  have hcounts := Reading.counts_readAll text
  rw [tallyOf, ← Reading.tally_readAll]
  exact ⟨hcounts.strays, hcounts.opened⟩

/-! ### The text of some units -/

/-- A unit of one character has that as its text. -/
theorem Lexeme.chars_ofChar (c : Char) : (Lexeme.ofChar c).chars = [c] := by
  unfold Lexeme.ofChar
  rcases hcommand : Command.ofChar? c with _ | command
  · rfl
  · rw [Command.eq_letter_of_ofChar? hcommand]
    rfl

/-- The first units of a text are written at its front. -/
theorem spell_take_lexemes_begins (text : List Char) (k : Nat) :
    spell ((lexemes text).take k) <+: text := by
  induction text using unit_induction generalizing k with
  | nil => simp [spell]
  | pair rest ih =>
      rcases k with _ | k
      · exact List.nil_prefix
      · rw [lexemes_pair, List.take_succ_cons]
        exact (List.prefix_append_right_inj ['B', 'B']).mpr (ih k)
  | single c rest hB ih =>
      rcases k with _ | k
      · exact List.nil_prefix
      · rw [lexemes_single hB, List.take_succ_cons, spell, List.flatMap_cons, Lexeme.chars_ofChar]
        exact (List.prefix_append_right_inj [c]).mpr (ih k)

/-- The first units of a text are cut from their own text again. -/
theorem lexemes_spell_take_lexemes (text : List Char) (k : Nat) :
    lexemes (spell ((lexemes text).take k)) = (lexemes text).take k := by
  induction text using unit_induction generalizing k with
  | nil => simp [spell]
  | pair rest ih =>
      rcases k with _ | k
      · rfl
      · rw [lexemes_pair, List.take_succ_cons]
        show lexemes ('B' :: 'B' :: spell ((lexemes rest).take k)) = _
        rw [lexemes_pair, ih]
  | single c rest hB ih =>
      rcases k with _ | k
      · rfl
      · have hhead : c = 'B' → (spell ((lexemes rest).take k)).head? ≠ some 'B' := by
          intro hc hhead
          obtain ⟨more, hmore⟩ := spell_take_lexemes_begins rest k
          apply hB hc
          rw [← hmore, List.head?_append, hhead]
          rfl
        rw [lexemes_single hB, List.take_succ_cons, spell, List.flatMap_cons, Lexeme.chars_ofChar]
        show lexemes (c :: spell ((lexemes rest).take k)) = _
        rw [lexemes_single hhead, ih]

/-! ### Builders -/

namespace Builder

/-- As many programs are open after a text as it has `S`s more than pairs, and the strays. -/
theorem outer_length_run_lexemes (ink : Ink) (text : List Char) :
    (((start ink).run (lexemes text)).outer.length : ℤ) =
      text.count 'S' - pairCount text + overhang text := by
  have hopened : ((start ink).run (lexemes text)).outer.length =
      (tallyOf (lexemes text)).opened := outer_length_run (start ink) (lexemes text)
  have hcounts := (tallyOf_lexemes text).2
  rw [hopened]
  omega

/-- At the end of a program it is told once how many programs stay open, if there are any. -/
theorem count_unclosed_remarks (ink : Ink) (units : List Lexeme) (n : Nat) :
    ((start ink).remarks units).count (.unclosed n) =
      if n = ((start ink).run units).outer.length ∧ n ≠ 0 then 1 else 0 := by
  have hnone : Remark.unclosed n ∉ (start ink, ([] : List Remark)).2 := List.not_mem_nil
  have hnotes := Tally.unclosed_notMem_foldl hnone units
  rw [remarks_eq, List.count_append, List.count_reverse, List.count_eq_zero.mpr hnotes,
    Nat.zero_add]
  rcases ((start ink).run units).outer with _ | ⟨waiting, outer⟩
  · simp
  · simp only [List.isEmpty_cons, Bool.false_eq_true, if_false, List.count_singleton, beq_iff_eq,
      Remark.unclosed.injEq, List.length_cons]
    split_ifs <;> omega

end Builder

/-- **Brackets match as their numbers say.** The closes are the pairs of adjacent `B`s, found from
the left. As many of them are told to be strays as the pairs of a prefix exceed its `S`s, at most.
At the end as many programs are open as there are `S`s more than pairs, once the strays are
discounted, and that number is told once, unless it is 0; and after any units of the program the
same is true of what has been read. -/
theorem matching_eq (program : List Char) (ink : Ink) :
    let units := lexemes program
    let remarks := (Builder.start ink).remarks units
    let last := (Builder.start ink).run units
    units.count .close = pairCount program ∧
      remarks.count .strayClose = overhang program ∧
      (last.outer.length : ℤ) = program.count 'S' - pairCount program + overhang program ∧
      (∀ n, remarks.count (.unclosed n) = if n = last.outer.length ∧ n ≠ 0 then 1 else 0) ∧
      ∀ k, let read := spell (units.take k)
        read <+: program ∧
          (((Builder.start ink).run (units.take k)).outer.length : ℤ) =
            read.count 'S' - pairCount read + overhang read := by
  intro units remarks last
  refine ⟨count_close_lexemes program, ?strays, Builder.outer_length_run_lexemes ink program,
    Builder.count_unclosed_remarks ink units, ?between⟩
  case strays => rw [Builder.count_strayClose_remarks, (tallyOf_lexemes program).1]
  case between =>
    intro k read
    refine ⟨spell_take_lexemes_begins program k, ?_⟩
    rw [← lexemes_spell_take_lexemes program k]
    exact Builder.outer_length_run_lexemes ink read

end Slab
