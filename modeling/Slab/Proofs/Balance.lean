import Slab.Proofs.Running

/-!
# Balanced texts

`openAfter` counts the nested programs that are open, and fails on a close with nothing to close.
A run over units that it gets through never looks at what was open before (`run_frame`). A text is
`Balanced` if it closes all that it opens and nothing else, and does not end in a `B` that could
pair with what follows. Such a text is cut the same way wherever it stands, and a run over it ends
on the level on which it began (`run_nested_balanced`).
-/

namespace Slab

/-! ### Counting what is open -/

/-- How many nested programs are open after some units, if there were `depth` before; nothing if
there is a close with nothing to close. -/
def openAfter : Nat → List Lexeme → Option Nat
  | depth, [] => some depth
  | depth, .command .nest :: units => openAfter (depth + 1) units
  | 0, .close :: _ => none
  | depth + 1, .close :: units => openAfter depth units
  | depth, _ :: units => openAfter depth units

/-- Without units nothing is opened or closed. -/
@[simp] theorem openAfter_nil (depth : Nat) : openAfter depth [] = some depth := by
  rw [openAfter]

/-- An `S` opens a nested program. -/
@[simp] theorem openAfter_nest (depth : Nat) (units : List Lexeme) :
    openAfter depth (.command .nest :: units) = openAfter (depth + 1) units := by
  rw [openAfter]

/-- A close needs something to close. -/
@[simp] theorem openAfter_zero_close (units : List Lexeme) :
    openAfter 0 (.close :: units) = none := by
  rw [openAfter]

/-- A close ends the innermost nested program. -/
@[simp] theorem openAfter_succ_close (depth : Nat) (units : List Lexeme) :
    openAfter (depth + 1) (.close :: units) = openAfter depth units := by
  rw [openAfter]

/-- Other units open and close nothing. -/
theorem openAfter_of_ne {unit : Lexeme} (hclose : unit ≠ .close) (hnest : unit ≠ .command .nest)
    (depth : Nat) (units : List Lexeme) :
    openAfter depth (unit :: units) = openAfter depth units := by
  rw [openAfter]
  · exact hnest
  · rintro - rfl
    exact hclose rfl
  · rintro _ - rfl
    exact hclose rfl

/-- A run in which every close has something to close never looks at what was open before it. -/
theorem Builder.run_frame {units : List Lexeme} {opened : List Suspended} {n : Nat}
    (h : openAfter opened.length units = some n) (level : Level) (outer : List Suspended) :
    (⟨level, opened ++ outer⟩ : Builder).run units =
        ⟨((⟨level, opened⟩ : Builder).run units).level,
          ((⟨level, opened⟩ : Builder).run units).outer ++ outer⟩ ∧
      ((⟨level, opened⟩ : Builder).run units).outer.length = n := by
  induction units generalizing level opened with
  | nil =>
      rw [openAfter_nil] at h
      exact ⟨rfl, Option.some.inj h⟩
  | cons unit units ih =>
      by_cases hclose : unit = .close
      · subst hclose
        rcases opened with _ | ⟨waiting, opened⟩
        · rw [List.length_nil, openAfter_zero_close] at h
          cases h
        · rw [List.length_cons, openAfter_succ_close] at h
          exact ih h (waiting.resume level.finish)
      by_cases hnest : unit = .command .nest
      · subst hnest
        let waiting : Suspended := ⟨level.suspend, level.ink.color?⟩
        have hmore : openAfter (waiting :: opened).length units = some n := by
          rwa [openAfter_nest] at h
        exact ih hmore level.nestedStart
      · rw [openAfter_of_ne hclose hnest] at h
        simp only [run_cons, step_eq_modify _ hclose hnest]
        exact ih h (level.take unit)

/-! ### Where a text can be cut -/

/-- A text that does not begin with `B` has no say in how what precedes it is cut. -/
theorem lexemes_append {more : List Char} (h : more.head? ≠ some 'B') (text : List Char) :
    lexemes (text ++ more) = lexemes text ++ lexemes more := by
  induction text using unit_induction with
  | nil => rfl
  | pair rest ih => rw [List.cons_append, List.cons_append, lexemes_pair, lexemes_pair, ih,
      List.cons_append]
  | single c rest hB ih =>
      have hnext : c = 'B' → (rest ++ more).head? ≠ some 'B' := by
        intro hc
        rcases rest with _ | ⟨d, rest⟩
        · exact h
        · exact hB hc
      rw [List.cons_append, lexemes_single hnext, lexemes_single hB, ih, List.cons_append]

/-- The last character is a `B` that has not found a second one. -/
def EndsUnpaired (text : List Char) : Prop :=
  (lexemes text).getLast? = some (.command .breakRow)

instance (text : List Char) : Decidable (EndsUnpaired text) :=
  inferInstanceAs (Decidable ((lexemes text).getLast? = some (.command .breakRow)))

/-- A close in front has no say in how a text ends. -/
theorem EndsUnpaired.cons_pair {rest : List Char} (h : EndsUnpaired rest) :
    EndsUnpaired ('B' :: 'B' :: rest) := by
  unfold EndsUnpaired at h ⊢
  rw [lexemes_pair, List.getLast?_cons, h]
  rfl

/-- Nor has a character in front that does not pair. -/
theorem EndsUnpaired.cons_single {c : Char} {rest : List Char}
    (hB : c = 'B' → rest.head? ≠ some 'B') (h : EndsUnpaired rest) : EndsUnpaired (c :: rest) := by
  unfold EndsUnpaired at h ⊢
  rw [lexemes_single hB, List.getLast?_cons, h]
  rfl

/-- A text that ends in another character than `B` does not end in an unpaired one. -/
theorem not_endsUnpaired_concat {c : Char} (hc : c ≠ 'B') (text : List Char) :
    ¬EndsUnpaired (text ++ [c]) := by
  have hhead : [c].head? ≠ some 'B' := by simpa using hc
  rw [EndsUnpaired, lexemes_append hhead, lexemes_cons_of_ne hc, lexemes_nil,
    List.getLast?_concat, Option.some_inj, Lexeme.ofChar_eq_command_iff]
  exact hc

/-- A text that does not end in an unpaired `B` is cut the same way whatever follows. -/
theorem settled_of_not_endsUnpaired {text : List Char} (h : ¬EndsUnpaired text) :
    Settled text := by
  induction text using unit_induction with
  | nil => exact settled_nil
  | pair rest ih =>
      intro more
      rw [List.cons_append, List.cons_append, lexemes_pair, lexemes_pair,
        ih fun hend => h hend.cons_pair, List.cons_append]
  | single c rest hB ih =>
      have hrest : Settled rest := ih fun hend => h (hend.cons_single hB)
      by_cases hc : c = 'B'
      · subst hc
        rcases rest with _ | ⟨d, rest⟩
        · exact absurd rfl h
        · have hd : d ≠ 'B' := by simpa using hB rfl
          exact hrest.break hd
      · exact hrest.cons hc

/-! ### Balanced texts -/

/-- The text closes all that it opens and nothing else, and what follows cannot pair with its
end. -/
structure Balanced (text : List Char) : Prop where
  /-- Every `S` is closed, and no close is a stray one. -/
  closed : openAfter 0 (lexemes text) = some 0
  /-- The last character is not an unpaired `B`. -/
  paired : ¬EndsUnpaired text

instance (text : List Char) : Decidable (Balanced text) :=
  decidable_of_iff (openAfter 0 (lexemes text) = some 0 ∧ ¬EndsUnpaired text)
    ⟨fun h => ⟨h.1, h.2⟩, fun h => ⟨h.closed, h.paired⟩⟩

/-- A balanced text is a nested program that a close behind it ends: it leaves the levels around
it alone, and its grid is put in the place that the `S` stood for. -/
theorem Builder.run_nested_balanced {body : List Char} (h : Balanced body) (builder : Builder)
    (rest : List Char) :
    builder.run (lexemes ('S' :: (body ++ 'B' :: 'B' :: rest))) =
      (builder.modify (·.hold (scan body builder.level.ink.spend))).run (lexemes rest) := by
  obtain ⟨level, outer⟩ := builder
  have hsettled := settled_of_not_endsUnpaired h.paired
  let waiting : Suspended := ⟨level.suspend, level.ink.color?⟩
  let last := (Builder.start level.ink.spend).run (lexemes body)
  have hclosed : openAfter ([] : List Suspended).length (lexemes body) = some 0 := h.closed
  obtain ⟨hrun, hopened⟩ := run_frame hclosed level.nestedStart (waiting :: outer)
  have hnone : last.outer = [] := List.length_eq_zero_iff.mp hopened
  have hscan : scan body level.ink.spend = last.level.finish := by
    rw [scan_eq]
    show last.unwind.finish = _
    rw [Builder.unwind, hnone, List.foldl_nil]
  rw [lexemes_cons_of_ne (by decide), hsettled, lexemes_pair, run_cons]
  show (⟨level.nestedStart, [] ++ waiting :: outer⟩ : Builder).run _ = _
  rw [run_append, hrun]
  show (⟨last.level, last.outer ++ waiting :: outer⟩ : Builder).run _ = _
  rw [hnone, List.nil_append, run_cons, step_close_cons, ← hscan]
  rfl

end Slab
