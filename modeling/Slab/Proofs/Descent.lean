import Slab.Proofs.Running

/-!
# Recursive descent

A builder keeps the levels around the innermost one on a stack and never looks ahead further than
one character. The plain reading of a program has no stack: at an `S` it captures the body by
counting brackets forward, reads the body as a program of its own on a fresh level, and goes on
behind the close. `capture` and `Level.descend` are that reading, and **`scan_eq_descend`** says
that both give the same grid for every text.

The counting forward and the stack agree because what is captured at depth `k + n` is what is
captured at depth `k`, a close, and what is captured at depth `n` behind it (`capture_add`). So a
run with a level waiting goes through the captured body, closes, and continues with the rest
(`unwind_run_waiting`); a body that is never closed is the whole rest of the text, and then the
end of the text closes it.
-/

namespace Slab

/-! ### Capturing a body -/

/-- The text up to the close that ends `depth` open nested programs, and the text behind that
close. Brackets in the captured text are kept. Without such a close all is captured. -/
def capture (depth : Nat) : List Char → List Char × List Char
  | [] => ([], [])
  | 'B' :: 'B' :: rest =>
    if depth = 1 then ([], rest)
    else ('B' :: 'B' :: (capture (depth - 1) rest).1, (capture (depth - 1) rest).2)
  | 'S' :: rest => ('S' :: (capture (depth + 1) rest).1, (capture (depth + 1) rest).2)
  | c :: rest => (c :: (capture depth rest).1, (capture depth rest).2)

/-- The end of the text ends the capture. -/
@[simp] theorem capture_nil (depth : Nat) : capture depth [] = ([], []) := rfl

/-- The close that brings the depth to zero ends the capture. -/
@[simp] theorem capture_one_close (rest : List Char) :
    capture 1 ('B' :: 'B' :: rest) = ([], rest) := rfl

/-- A close further in is captured. -/
theorem capture_close {depth : Nat} (h : depth ≠ 1) (rest : List Char) :
    capture depth ('B' :: 'B' :: rest) =
      ('B' :: 'B' :: (capture (depth - 1) rest).1, (capture (depth - 1) rest).2) := by
  rw [capture, if_neg h]

/-- An `S` is captured and adds to the depth. -/
@[simp] theorem capture_nest (depth : Nat) (rest : List Char) :
    capture depth ('S' :: rest) =
      ('S' :: (capture (depth + 1) rest).1, (capture (depth + 1) rest).2) := by
  rw [capture]

/-- Every other character is captured. -/
theorem capture_single {c : Char} {rest : List Char} (hS : c ≠ 'S')
    (hB : c = 'B' → rest.head? ≠ some 'B') (depth : Nat) :
    capture depth (c :: rest) = (c :: (capture depth rest).1, (capture depth rest).2) := by
  rw [capture]
  · rintro rest' rfl rfl
    exact hB rfl rfl
  · rintro rfl
    exact hS rfl

/-- What is captured and what is left are together no longer than the text. -/
theorem length_capture_le (depth : Nat) (text : List Char) :
    (capture depth text).1.length + (capture depth text).2.length ≤ text.length := by
  induction text using bracket_induction generalizing depth with
  | nil => simp
  | close rest ih =>
      by_cases h : depth = 1
      · subst h
        simp
        omega
      · have := ih (depth - 1)
        rw [capture_close h]
        simp only [List.length_cons]
        omega
  | nest rest ih =>
      have := ih rest (Nat.le_refl _) (depth + 1)
      rw [capture_nest]
      simp only [List.length_cons]
      omega
  | single c rest hS hB ih =>
      have := ih depth
      rw [capture_single hS hB]
      simp only [List.length_cons]
      omega

/-- A text that does not begin with `B` is not captured as one that does. -/
theorem head?_capture_ne {text : List Char} (h : text.head? ≠ some 'B') (depth : Nat) :
    (capture depth text).1.head? ≠ some 'B' := by
  rcases text with _ | ⟨c, rest⟩
  · simp
  · have hc : c ≠ 'B' := by simpa using h
    by_cases hS : c = 'S'
    · subst hS
      simp
    · rw [capture_single hS fun hB => absurd hB hc]
      simpa using hc

/-- Capturing goes inside out: a capture over `k + n` open programs consists of one over `k`, its
close, and one over `n` from there. -/
theorem capture_add (text : List Char) {k n : Nat} (hk : k ≠ 0) (hn : n ≠ 0) :
    capture k (capture (k + n) text).1 =
        ((capture k text).1, (capture n (capture k text).2).1) ∧
      (capture (k + n) text).2 = (capture n (capture k text).2).2 := by
  induction text using bracket_induction generalizing k with
  | nil => simp
  | close rest ih =>
      rw [capture_close (by omega : k + n ≠ 1)]
      by_cases h : k = 1
      · subst h
        have : 1 + n - 1 = n := by omega
        simp [this]
      · obtain ⟨h1, h2⟩ := ih (k := k - 1) (by omega)
        have : k + n - 1 = k - 1 + n := by omega
        rw [capture_close h, capture_close h, this, h1]
        exact ⟨rfl, h2⟩
  | nest rest ih =>
      obtain ⟨h1, h2⟩ := ih rest (Nat.le_refl _) (k := k + 1) (by omega)
      have : k + n + 1 = k + 1 + n := by omega
      simp only [capture_nest, this, h1]
      exact ⟨trivial, h2⟩
  | single c rest hS hB ih =>
      obtain ⟨h1, h2⟩ := ih hk
      rw [capture_single hS hB (k + n), capture_single hS hB k,
        capture_single hS fun hc => head?_capture_ne (hB hc) _, h1]
      exact ⟨rfl, h2⟩

/-! ### Reading a program by descent -/

namespace Level

/-- The level after a text that is read by descent: nothing is open around it, so that a close
is a stray one; the body of a nested program is read on a fresh level without hue, and its grid
is put in the place that the `S` stood for. -/
def descend (level : Level) : List Char → Level
  | [] => level
  | 'B' :: 'B' :: rest => level.strayClose.descend rest
  | 'S' :: rest =>
    let grid := (level.nestedStart.descend (capture 1 rest).1).finish
    (level.suspend.attach level.ink.color? grid).descend (capture 1 rest).2
  | c :: rest => (level.take (.ofChar c)).descend rest
termination_by text => text.length
decreasing_by
  all_goals
    simp only [List.length_cons]
    first
      | omega
      | have := length_capture_le 1 rest
        omega

/-- An empty text changes nothing. -/
@[simp] theorem descend_nil (level : Level) : level.descend [] = level := by
  rw [descend]

/-- A close at the front is a stray one. -/
theorem descend_close (level : Level) (rest : List Char) :
    level.descend ('B' :: 'B' :: rest) = level.strayClose.descend rest := by
  rw [descend]

/-- A nested program at the front is read on its own. -/
theorem descend_nest (level : Level) (rest : List Char) :
    level.descend ('S' :: rest) =
      (level.hold (level.nestedStart.descend (capture 1 rest).1).finish).descend
        (capture 1 rest).2 := by
  rw [descend]
  rfl

/-- Any other character at the front acts on the level. -/
theorem descend_single (level : Level) {c : Char} {rest : List Char} (hS : c ≠ 'S')
    (hB : c = 'B' → rest.head? ≠ some 'B') :
    level.descend (c :: rest) = (level.take (.ofChar c)).descend rest := by
  rw [descend]
  · rintro rest' rfl rfl
    exact hB rfl rfl
  · rintro rfl
    exact hS rfl

end Level

/-! ### Both readings agree -/

namespace Builder

/-- A run with a level waiting reads the captured body, hands its grid to that level, and goes on
behind the close; or, where there is no such close, ends with it. -/
theorem unwind_run_waiting (text : List Char) (level : Level) (waiting : Suspended)
    (outer : List Suspended) :
    ((⟨level, waiting :: outer⟩ : Builder).run (lexemes text)).unwind =
      ((⟨waiting.resume (level.descend (capture 1 text).1).finish, outer⟩ : Builder).run
        (lexemes (capture 1 text).2)).unwind := by
  induction text using bracket_induction generalizing level waiting outer with
  | nil => simp
  | close rest ih => simp
  | nest rest ih =>
      have hrest := length_capture_le 1 rest
      obtain ⟨hbody, hafter⟩ := capture_add rest (k := 1) (n := 1) (by omega) (by omega)
      rw [lexemes_cons_of_ne (by decide : 'S' ≠ 'B')]
      show ((⟨level.nestedStart, ⟨level.suspend, level.ink.color?⟩ :: waiting :: outer⟩ :
        Builder).run (lexemes rest)).unwind = _
      -- the inner body first, then what is left of the outer one
      rw [ih rest (Nat.le_refl _), ih (capture 1 rest).2 (by omega), capture_nest,
        level.descend_nest, hbody, hafter]
      rfl
  | single c rest hS hB ih =>
      rw [lexemes_single hB, run_cons, step_ofChar _ hS, capture_single hS hB,
        level.descend_single hS fun hc => head?_capture_ne (hB hc) _]
      exact ih _ _ _

/-- A run with nothing open ends with the level that descent ends with. -/
theorem unwind_run_eq_descend (text : List Char) (level : Level) :
    ((⟨level, []⟩ : Builder).run (lexemes text)).unwind = level.descend text := by
  induction text using bracket_induction generalizing level with
  | nil => simp
  | close rest ih =>
      rw [lexemes_pair, run_cons, step_close_nil, level.descend_close]
      exact ih _
  | nest rest ih =>
      have hrest := length_capture_le 1 rest
      rw [lexemes_cons_of_ne (by decide : 'S' ≠ 'B'), level.descend_nest]
      show ((⟨level.nestedStart, [⟨level.suspend, level.ink.color?⟩]⟩ : Builder).run
        (lexemes rest)).unwind = _
      rw [unwind_run_waiting, ih (capture 1 rest).2 (by omega)]
      rfl
  | single c rest hS hB ih =>
      rw [lexemes_single hB, run_cons, step_ofChar _ hS, level.descend_single hS hB]
      exact ih _

end Builder

/-- **Scanning is recursive descent**: the walk with its stack of suspended levels gives, for
every text and every ink, the grid that the reading without a stack gives. -/
theorem scan_eq_descend (program : List Char) (ink : Ink) :
    scan program ink = ((Level.start ink).descend program).finish := by
  rw [scan_eq]
  exact congrArg Level.finish (Builder.unwind_run_eq_descend program (.start ink))

end Slab
