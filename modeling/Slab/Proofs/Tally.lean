import Slab.Proofs.Balance

/-!
# Tallies of brackets

What a run does to the stack of open programs, and how many closes it finds with nothing to close,
depends on the brackets alone. A `Tally` keeps the two numbers: `outer_length_run`,
`count_strayClose_remarks` and `mem_remarks_unclosed_iff` say that they are what the run of a
program ends with and what is told about it. Closes that follow each other can be counted in one
go (`countAll_replicate_close`), and a text is balanced exactly if its tally is empty
(`balanced_iff`).

A tally can also be kept character by character, if one knows whether a `B` waits for a second one
(`tally_readAll`). Then it does not matter how a text is cut, so it can be read in parts.
-/

namespace Slab

/-- What the brackets met so far amount to. -/
structure Tally where
  /-- The nested programs that are open. -/
  opened : Nat := 0
  /-- The closes that had nothing to close. -/
  strays : Nat := 0
deriving DecidableEq

namespace Tally

variable {tally : Tally}

/-- Begin some nested programs. -/
def nest (tally : Tally) (n : Nat) : Tally :=
  { tally with opened := tally.opened + n }

/-- Meet some closes. Those that are too many are strays. -/
def close (tally : Tally) (n : Nat) : Tally :=
  ⟨tally.opened - n, tally.strays + (n - tally.opened)⟩

/-- Take account of a unit. -/
def count (tally : Tally) : Lexeme → Tally
  | .close => tally.close 1
  | .command .nest => tally.nest 1
  | _ => tally

/-- Take account of some units in order. -/
def countAll (tally : Tally) (units : List Lexeme) : Tally :=
  units.foldl count tally

/-! ### Opening and closing -/

/-- Opening nothing changes nothing. -/
@[simp] theorem nest_zero (tally : Tally) : tally.nest 0 = tally := rfl

/-- Programs can be opened in two goes. -/
theorem nest_nest (tally : Tally) (n m : Nat) : (tally.nest n).nest m = tally.nest (n + m) := by
  simp only [nest, Nat.add_assoc]

/-- No closes change nothing. -/
@[simp] theorem close_zero (tally : Tally) : tally.close 0 = tally := by
  simp [close]

/-- Closes can be met in two goes. -/
theorem close_close (tally : Tally) (n m : Nat) :
    (tally.close n).close m = tally.close (n + m) := by
  simp only [close, mk.injEq]
  omega

/-- What is opened is closed first. -/
theorem close_nest (tally : Tally) (n m : Nat) :
    (tally.nest n).close (n + m) = tally.close m := by
  simp only [nest, close, mk.injEq]
  omega

/-! ### Counting units -/

/-- A close is met. -/
@[simp] theorem count_close (tally : Tally) : tally.count .close = tally.close 1 := rfl

/-- An `S` opens a program. -/
@[simp] theorem count_nest (tally : Tally) : tally.count (.command .nest) = tally.nest 1 := rfl

/-- Other units open and close nothing. -/
theorem count_of_ne {unit : Lexeme} (hclose : unit ≠ .close) (hnest : unit ≠ .command .nest)
    (tally : Tally) : tally.count unit = tally := by
  unfold count
  split
  · exact absurd rfl hclose
  · exact absurd rfl hnest
  · rfl

/-- Without units nothing changes. -/
@[simp] theorem countAll_nil (tally : Tally) : tally.countAll [] = tally := rfl

/-- The first unit is counted first. -/
@[simp] theorem countAll_cons (tally : Tally) (unit : Lexeme) (units : List Lexeme) :
    tally.countAll (unit :: units) = (tally.count unit).countAll units := rfl

/-- Units can be counted in two goes. -/
theorem countAll_append (tally : Tally) (units more : List Lexeme) :
    tally.countAll (units ++ more) = (tally.countAll units).countAll more :=
  List.foldl_append

/-- Closes in a row are met in one go. -/
theorem countAll_replicate_close (tally : Tally) (n : Nat) :
    tally.countAll (List.replicate n .close) = tally.close n := by
  induction n generalizing tally with
  | zero => rw [List.replicate_zero, countAll_nil, close_zero]
  | succ n ih => rw [List.replicate_succ, countAll_cons, count_close, ih, close_close,
      Nat.add_comm]

/-- A stray close is not taken back. -/
theorem strays_le_countAll (tally : Tally) (units : List Lexeme) :
    tally.strays ≤ (tally.countAll units).strays := by
  induction units generalizing tally with
  | nil => exact Nat.le_refl _
  | cons unit units ih =>
      rw [countAll_cons]
      refine Nat.le_trans ?_ (ih _)
      unfold count
      split
      · exact Nat.le_add_right _ _
      · exact Nat.le_refl _
      · exact Nat.le_refl _

/-- All closes have something to close exactly if there are no more strays than before. -/
theorem openAfter_eq_some_iff {depth n strays : Nat} {units : List Lexeme} :
    openAfter depth units = some n ↔ (⟨depth, strays⟩ : Tally).countAll units = ⟨n, strays⟩ := by
  induction units generalizing depth with
  | nil => simp
  | cons unit units ih =>
      rw [countAll_cons]
      by_cases hclose : unit = .close
      · subst hclose
        cases depth with
        | zero =>
            have hstrays := strays_le_countAll ((⟨0, strays⟩ : Tally).close 1) units
            rw [openAfter_zero_close, count_close]
            refine ⟨nofun, fun heq => ?_⟩
            rw [heq] at hstrays
            exact absurd hstrays (Nat.not_succ_le_self strays)
        | succ depth =>
            have hone : (⟨depth + 1, strays⟩ : Tally).close 1 = ⟨depth, strays⟩ := by
              simp [close]
            rw [openAfter_succ_close, count_close, hone, ih]
      by_cases hnest : unit = .command .nest
      · subst hnest
        rw [openAfter_nest, ih]
        rfl
      · rw [openAfter_of_ne hclose hnest, count_of_ne hclose hnest, ih]

/-! ### Tallies of a run -/

/-- The tally of a builder and of what has been noted on the way. -/
def ofProgress (progress : Builder × List Remark) : Tally :=
  ⟨progress.1.outer.length, progress.2.count .strayClose⟩

/-- A step with its note is counted. -/
theorem ofProgress_stepNoting (progress : Builder × List Remark) (unit : Lexeme) :
    ofProgress (Builder.stepNoting progress unit) = (ofProgress progress).count unit := by
  obtain ⟨⟨level, outer⟩, notes⟩ := progress
  rcases unit with _ | command | char
  · cases outer with
    | nil => simp [ofProgress, Builder.stepNoting, Builder.remark?, close]
    | cons waiting outer => simp [ofProgress, Builder.stepNoting, Builder.remark?, close]
  · by_cases hnest : command = .nest
    · subst hnest
      rfl
    · have hcommand : Lexeme.command command ≠ .command .nest := by simpa using hnest
      rw [count_of_ne (by simp) hcommand, ofProgress, Builder.stepNoting,
        Builder.step_eq_modify _ (by simp) hcommand]
      rfl
  · simp [ofProgress, Builder.stepNoting, Builder.remark?, Builder.step, count]

/-- A run with its notes is counted. -/
theorem ofProgress_foldl (progress : Builder × List Remark) (units : List Lexeme) :
    ofProgress (units.foldl Builder.stepNoting progress) = (ofProgress progress).countAll units := by
  induction units generalizing progress with
  | nil => rfl
  | cons unit units ih => rw [List.foldl_cons, ih, ofProgress_stepNoting, countAll_cons]

/-- Notes do not change a run. -/
theorem fst_foldl_stepNoting (progress : Builder × List Remark) (units : List Lexeme) :
    (units.foldl Builder.stepNoting progress).1 = progress.1.run units := by
  induction units generalizing progress with
  | nil => rfl
  | cons unit units ih => rw [List.foldl_cons, ih]; rfl

/-- On the way nothing is told about programs that stay open. -/
theorem unclosed_notMem_foldl {progress : Builder × List Remark} {n : Nat}
    (h : Remark.unclosed n ∉ progress.2) (units : List Lexeme) :
    Remark.unclosed n ∉ (units.foldl Builder.stepNoting progress).2 := by
  induction units generalizing progress with
  | nil => exact h
  | cons unit units ih =>
      apply ih
      rw [Builder.stepNoting, List.mem_append, not_or]
      refine ⟨?_, h⟩
      unfold Builder.remark?
      split
      · split <;> simp
      · simp
      · simp

end Tally

/-- The tally of a program. -/
def tallyOf (units : List Lexeme) : Tally :=
  ({} : Tally).countAll units

namespace Builder

/-- As many programs are open after a run as have been counted. -/
theorem outer_length_run (builder : Builder) (units : List Lexeme) :
    (builder.run units).outer.length =
      (({ opened := builder.outer.length } : Tally).countAll units).opened := by
  have htally := Tally.ofProgress_foldl (builder, []) units
  rw [← Tally.fst_foldl_stepNoting (builder, [])]
  exact congrArg Tally.opened htally

/-- What is told are the notes on the way and the programs that stay open. -/
theorem remarks_eq (builder : Builder) (units : List Lexeme) :
    builder.remarks units = (units.foldl stepNoting (builder, [])).2.reverse ++
      (if (builder.run units).outer.isEmpty then []
        else [Remark.unclosed (builder.run units).outer.length]) := by
  rw [← Tally.fst_foldl_stepNoting (builder, [])]
  rfl

/-- Of a program, as many strays are told as have been counted. -/
theorem count_strayClose_remarks (ink : Ink) (units : List Lexeme) :
    ((start ink).remarks units).count .strayClose = (tallyOf units).strays := by
  have htally := Tally.ofProgress_foldl (start ink, []) units
  have hunclosed : ∀ outer : List Suspended,
      (if outer.isEmpty then [] else [Remark.unclosed outer.length]).count .strayClose = 0 := by
    intro outer
    split <;> simp
  rw [remarks_eq, List.count_append, List.count_reverse, hunclosed, Nat.add_zero]
  exact congrArg Tally.strays htally

/-- At the end of a program it is told how many programs stay open, if there are any. -/
theorem mem_remarks_unclosed_iff (ink : Ink) (units : List Lexeme) (n : Nat) :
    Remark.unclosed n ∈ (start ink).remarks units ↔
      n = ((start ink).run units).outer.length ∧ n ≠ 0 := by
  have hnone : Remark.unclosed n ∉ (start ink, ([] : List Remark)).2 := List.not_mem_nil
  have hnotes := Tally.unclosed_notMem_foldl hnone units
  rw [remarks_eq, List.mem_append, List.mem_reverse]
  rcases ((start ink).run units).outer with _ | ⟨waiting, outer⟩
  · simp [hnotes]
  · simp only [hnotes, List.isEmpty_cons, Bool.false_eq_true, if_false, List.mem_singleton,
      Remark.unclosed.injEq, List.length_cons, false_or]
    omega

end Builder

/-- A text is balanced exactly if its tally is empty and it does not end in an unpaired `B`. -/
theorem balanced_iff {text : List Char} :
    Balanced text ↔ tallyOf (lexemes text) = {} ∧ ¬EndsUnpaired text := by
  constructor
  · rintro ⟨hclosed, hpaired⟩
    exact ⟨Tally.openAfter_eq_some_iff.mp hclosed, hpaired⟩
  · rintro ⟨htally, hpaired⟩
    exact ⟨Tally.openAfter_eq_some_iff.mpr htally, hpaired⟩

/-! ### Reading character by character -/

/-- A tally in the middle of a text. -/
structure Reading where
  /-- The tally of the units that are complete. -/
  tally : Tally
  /-- The last character is a `B` that may pair with the next one. -/
  waiting : Bool

namespace Reading

/-- Read one character more. -/
def read (reading : Reading) (c : Char) : Reading :=
  if c = 'B' then
    if reading.waiting then ⟨reading.tally.close 1, false⟩ else ⟨reading.tally, true⟩
  else ⟨reading.tally.count (.ofChar c), false⟩

/-- Read a text. -/
def readAll (reading : Reading) (text : List Char) : Reading :=
  text.foldl read reading

/-- In the empty text there is nothing to read. -/
@[simp] theorem readAll_nil (reading : Reading) : reading.readAll [] = reading := rfl

/-- The first character is read first. -/
@[simp] theorem readAll_cons (reading : Reading) (c : Char) (text : List Char) :
    reading.readAll (c :: text) = (reading.read c).readAll text := rfl

/-- A text can be read in two parts. -/
theorem readAll_append (reading : Reading) (text more : List Char) :
    reading.readAll (text ++ more) = (reading.readAll text).readAll more :=
  List.foldl_append

/-- A character other than `B` does not pair with what waits. -/
theorem read_of_ne {c : Char} (h : c ≠ 'B') (reading : Reading) :
    reading.read c = ⟨reading.tally.count (.ofChar c), false⟩ := by
  rw [read, if_neg h]

/-- A `B` pairs with one that waits. -/
theorem read_pair (tally : Tally) : (⟨tally, true⟩ : Reading).read 'B' = ⟨tally.close 1, false⟩ :=
  rfl

/-- A `B` waits for another one. -/
theorem read_first (tally : Tally) : (⟨tally, false⟩ : Reading).read 'B' = ⟨tally, true⟩ := rfl

/-- Pairs of `B`s are closes, whether or not a `B` waits for the first of them; if one does, another
one waits in the end. -/
theorem readAll_closes (reading : Reading) (n : Nat) :
    reading.readAll (List.replicate (2 * n) 'B') = ⟨reading.tally.close n, reading.waiting⟩ := by
  induction n generalizing reading with
  | zero => simp
  | succ n ih =>
      have hpair : (reading.read 'B').read 'B' = ⟨reading.tally.close 1, reading.waiting⟩ := by
        rcases reading with ⟨tally, waiting⟩
        cases waiting <;> rfl
      rw [Nat.mul_succ, List.replicate_succ, List.replicate_succ, readAll_cons, readAll_cons,
        hpair, ih, Tally.close_close, Nat.add_comm]

/-- Before a text that does not begin with `B`, it does not matter whether a `B` waits. -/
theorem tally_readAll_waiting {text : List Char} (h : text.head? ≠ some 'B') (tally : Tally) :
    ((⟨tally, true⟩ : Reading).readAll text).tally =
      ((⟨tally, false⟩ : Reading).readAll text).tally := by
  rcases text with _ | ⟨c, text⟩
  · rfl
  · have hc : c ≠ 'B' := by simpa using h
    rw [readAll_cons, readAll_cons, read_of_ne hc, read_of_ne hc]

/-- Reading a text character by character gives the tally of its units. -/
theorem tally_readAll (text : List Char) (tally : Tally) :
    ((⟨tally, false⟩ : Reading).readAll text).tally = tally.countAll (lexemes text) := by
  induction text using unit_induction generalizing tally with
  | nil => rfl
  | pair rest ih =>
      rw [readAll_cons, readAll_cons, read_first, read_pair, ih, lexemes_pair]
      rfl
  | single c rest hB ih =>
      rw [lexemes_single hB, Tally.countAll_cons, ← ih, readAll_cons]
      by_cases hc : c = 'B'
      · subst hc
        rw [read_first, tally_readAll_waiting (hB rfl)]
        rfl
      · rw [read_of_ne hc]

end Reading

end Slab
