import Slab.Proofs.Appending
import Slab.Proofs.Breaks
import Slab.Proofs.Heights

/-!
# What can be deleted

A character that is no command leaves a builder as it is, wherever it stands (`step_ofChar_noise`).
The letters `m`, `n` and `f` end a run of raises and do nothing else (`step_ofChar_idle`). That
shows only between two raises: behind any other command no run is there to be ended
(`modify_idle_of_getLast?_ne`), and before any other command the run would end anyway
(`finish_run_idle`).

The second case needs some care, as an `S` suspends the level with the run that it has counted.
Such a run is never looked at: placing a grid starts a new one. So builders count as the same if
they are once the levels that wait are `rested`, and they stay the same along a run
(`rested_run`). **`scan_delete`** puts the cases together, with texts that show why the exceptions
are made.
-/

namespace Slab

/-! ### Levels that wait -/

namespace Suspended

/-- The level that waits, without its run of raises. -/
def rested (waiting : Suspended) : Suspended :=
  { waiting with level := waiting.level.idle }

/-- A nested grid is placed without a look at the run of raises. -/
@[simp] theorem resume_rested (waiting : Suspended) (grid : Grid) :
    waiting.rested.resume grid = waiting.resume grid := rfl

/-- A run of raises is forgotten once. -/
@[simp] theorem map_rested_map_rested (outer : List Suspended) :
    (outer.map rested).map rested = outer.map rested := by
  rw [List.map_map]
  rfl

end Suspended

namespace Builder

/-- The builder without the runs of raises on the levels that wait. -/
def rested (builder : Builder) : Builder :=
  { builder with outer := builder.outer.map .rested }

/-- What a unit does to a builder does not depend on runs of raises on levels that wait. -/
theorem rested_step (builder : Builder) (unit : Lexeme) :
    (builder.rested.step unit).rested = (builder.step unit).rested := by
  obtain ⟨level, outer⟩ := builder
  by_cases hclose : unit = .close
  · subst hclose
    rcases outer with _ | ⟨waiting, outer⟩
    · rfl
    · simp only [rested, List.map_cons, step_close_cons, Suspended.resume_rested,
        Suspended.map_rested_map_rested]
  by_cases hnest : unit = .command .nest
  · subst hnest
    simp only [rested, step_nest, List.map_cons, Suspended.map_rested_map_rested]
  · simp only [step_eq_modify _ hclose hnest, rested, modify, Suspended.map_rested_map_rested]

/-- Nor does what a run does. -/
theorem rested_run (builder : Builder) (units : List Lexeme) :
    (builder.rested.run units).rested = (builder.run units).rested := by
  induction units generalizing builder with
  | nil => simp only [run_nil, rested, Suspended.map_rested_map_rested]
  | cons unit units ih => rw [run_cons, run_cons, ← ih, rested_step, ih]

/-- Nor does how a program ends. -/
theorem finish_rested (builder : Builder) : builder.rested.finish = builder.finish := by
  unfold finish unwind rested
  rw [List.foldl_map]
  rfl

/-- So builders that only differ there end the same way. -/
theorem finish_run_of_rested_eq {builder other : Builder} (h : builder.rested = other.rested)
    (units : List Lexeme) : (builder.run units).finish = (other.run units).finish := by
  rw [← finish_rested, ← rested_run, h, rested_run, finish_rested]

/-! ### Idle commands -/

/-- Before a command other than a raise there is no need to end a run of raises. -/
theorem rested_step_idle (builder : Builder) {unit : Lexeme} (hraise : unit ≠ .command .raise)
    (hnoise : ∀ c, unit ≠ .noise c) :
    ((builder.modify .idle).step unit).rested = (builder.step unit).rested := by
  obtain ⟨level, outer⟩ := builder
  rcases unit with _ | command | c
  · rcases outer with _ | ⟨waiting, outer⟩
    · rfl
    · rfl
  · cases command with
    | raise => exact absurd rfl hraise
    | _ => rfl
  · exact absurd rfl (hnoise c)

/-- Nor is there before a text whose first command is not a raise. -/
theorem finish_run_idle (builder : Builder) {units : List Lexeme}
    (h : (commandsOf units).head? ≠ some .raise) :
    ((builder.modify .idle).run units).finish = (builder.run units).finish := by
  induction units with
  | nil =>
      have hrows : builder.level.idle.finish = builder.level.finish := rfl
      exact finish_congr hrows builder.outer
  | cons unit units ih =>
      rcases unit with _ | command | c
      · exact finish_run_of_rested_eq (builder.rested_step_idle (by simp) (by simp)) units
      · have hraise : Lexeme.command command ≠ .command .raise := by
          rintro ⟨⟩
          exact h rfl
        exact finish_run_of_rested_eq (builder.rested_step_idle hraise (by simp)) units
      · exact ih h

/-- Behind a text whose last command is not a raise, no run of raises is there to be ended. -/
theorem modify_idle_of_getLast?_ne {units : List Lexeme} (ink : Ink)
    (h : (commandsOf units).getLast? ≠ some .raise) :
    ((start ink).run units).modify .idle = (start ink).run units := by
  have hrun := raiseRun_reached ink (Nat.le_refl units.length)
  rw [reached, List.take_length, lastRun_eq_zero h] at hrun
  rw [modify, Level.idle, ← hrun]

/-! ### Characters -/

/-- A character that is no command does nothing. -/
theorem step_ofChar_noise (builder : Builder) {c : Char} (h : Command.ofChar? c = none) :
    builder.step (.ofChar c) = builder := by
  rw [Lexeme.ofChar, h]
  rfl

/-- The letters `m`, `n` and `f` end a run of raises and do nothing else. -/
theorem step_ofChar_idle (builder : Builder) {c : Char} (h : c ∈ ['m', 'n', 'f']) :
    builder.step (.ofChar c) = builder.modify .idle := by
  simp only [List.mem_cons, List.not_mem_nil, or_false] at h
  rcases h with rfl | rfl | rfl
  · rfl
  · rfl
  · rfl

end Builder

/-- None of these characters is a `B`. -/
theorem ne_break_of_idle {c : Char} (h : Command.ofChar? c = none ∨ c ∈ ['m', 'n', 'f']) :
    c ≠ 'B' := by
  rintro rfl
  exact absurd h (by decide)

/-! ### The texts on both sides -/

/-- The texts meet within a pair of `B`s: the first ends in one that is unpaired and the second
begins with one. -/
def MeetInPair (before after : List Char) : Prop :=
  EndsUnpaired before ∧ after.head? = some 'B'

instance (before after : List Char) : Decidable (MeetInPair before after) :=
  inferInstanceAs (Decidable (_ ∧ _))

/-- The texts meet within a run of raises: the last command of the first is a raise, and so is the
first command of the second. -/
def MeetInRun (before after : List Char) : Prop :=
  (commands before).getLast? = some .raise ∧ (commands after).head? = some .raise

instance (before after : List Char) : Decidable (MeetInRun before after) :=
  inferInstanceAs (Decidable (_ ∧ _))

section Meeting

variable {before after : List Char} {c : Char} {ink : Ink}

/-- A character between two texts that is not `B` is a unit there. -/
theorem scan_append_cons (hc : c ≠ 'B') :
    scan (before ++ c :: after) ink =
      ((((Builder.start ink).run (lexemes before)).step (.ofChar c)).run (lexemes after)).finish := by
  have hhead : (c :: after).head? ≠ some 'B' := by simpa using hc
  rw [scan, lexemes_append hhead, lexemes_cons_of_ne hc, Builder.run_append, Builder.run_cons]

/-- It can be deleted if the rest of the program does not tell that it was there. -/
theorem scan_delete_of_finish (hc : c ≠ 'B') (hmeet : ¬MeetInPair before after)
    (hrest : ((((Builder.start ink).run (lexemes before)).step (.ofChar c)).run
        (lexemes after)).finish =
      (((Builder.start ink).run (lexemes before)).run (lexemes after)).finish) :
    scan (before ++ c :: after) ink = scan (before ++ after) ink := by
  have hcut : EndsUnpaired before → after.head? ≠ some 'B' := fun hends hhead =>
    hmeet ⟨hends, hhead⟩
  rw [scan_append_cons hc, hrest, scan, lexemes_append_of_not_cut hcut, Builder.run_append]

/-- A character that is no command can be deleted. -/
theorem scan_delete_noise (hmeet : ¬MeetInPair before after) (hc : Command.ofChar? c = none) :
    scan (before ++ c :: after) ink = scan (before ++ after) ink := by
  refine scan_delete_of_finish (ne_break_of_idle (Or.inl hc)) hmeet ?_
  rw [Builder.step_ofChar_noise _ hc]

/-- A command that does nothing can be deleted where it does not part a run of raises. -/
theorem scan_delete_idle (hmeet : ¬MeetInPair before after) (hruns : ¬MeetInRun before after)
    (hc : c ∈ ['m', 'n', 'f']) : scan (before ++ c :: after) ink = scan (before ++ after) ink := by
  refine scan_delete_of_finish (ne_break_of_idle (Or.inr hc)) hmeet ?_
  rw [Builder.step_ofChar_idle _ hc]
  rcases not_and_or.mp hruns with hlast | hfirst
  · rw [← commandsOf_lexemes] at hlast
    rw [Builder.modify_idle_of_getLast?_ne ink hlast]
  · rw [← commandsOf_lexemes] at hfirst
    exact Builder.finish_run_idle _ hfirst

end Meeting

/-- **What can be deleted.** A character that is no command can be deleted anywhere but within a
pair of `B`s, and so can `m`, `n` and `f`, except where they also part a run of raises. These
exceptions are needed: a pair of `B`s is found where any of these characters stood, and a longer
run of raises where `m`, `n` or `f` did. -/
theorem scan_delete (ink : Ink) :
    (∀ before after c, ¬MeetInPair before after → Command.ofChar? c = none →
        scan (before ++ c :: after) ink = scan (before ++ after) ink) ∧
      (∀ before after, ∀ c ∈ ['m', 'n', 'f'],
        ¬MeetInPair before after → ¬MeetInRun before after →
          scan (before ++ c :: after) ink = scan (before ++ after) ink) ∧
      (∀ c, Command.ofChar? c = none ∨ c ∈ ['m', 'n', 'f'] →
        scan ("bB".toList ++ c :: "Bb".toList) ink ≠ scan ("bB".toList ++ "Bb".toList) ink) ∧
      ∀ c ∈ ['m', 'n', 'f'],
        scan ("bp".toList ++ c :: "pb".toList) ink ≠ scan ("bp".toList ++ "pb".toList) ink := by
  refine ⟨fun _ _ _ hmeet hc => scan_delete_noise hmeet hc,
    fun _ _ _ hc hmeet hruns => scan_delete_idle hmeet hruns hc, ?pair, ?run⟩
  case pair =>
    intro c hc heq
    have hparted : (scan ("bB".toList ++ c :: "Bb".toList) ink).rows.length = 2 := by
      rw [scan_append_cons (ne_break_of_idle hc)]
      rcases hc with hnoise | hidle
      · rw [Builder.step_ofChar_noise _ hnoise]
        rfl
      · rw [Builder.step_ofChar_idle _ hidle]
        rfl
    have hjoined : (scan ("bB".toList ++ "Bb".toList) ink).rows.length = 1 := rfl
    rw [heq, hjoined] at hparted
    exact absurd hparted (by decide)
  case run =>
    intro c hc heq
    have hparted : (scan ("bp".toList ++ c :: "pb".toList) ink).rows.map (·.height) = [2] := by
      rw [scan_append_cons (ne_break_of_idle (Or.inr hc)), Builder.step_ofChar_idle _ hc]
      rfl
    have hjoined : (scan ("bp".toList ++ "pb".toList) ink).rows.map (·.height) = [3] := rfl
    rw [heq, hjoined] at hparted
    exact absurd hparted (by decide)

/-- The noise stands within a run of raises, and the run goes on behind it; `m` stands before the
run, in a nested program that is left open. -/
theorem scan_delete_insideRun :
    scan "bSp?pbBBb".toList {} = scan "bSppbBBb".toList {} ∧
      scan "bSmppb".toList {} = scan "bSppb".toList {} :=
  ⟨(scan_delete {}).1 "bSp".toList "pbBBb".toList '?' (by decide) (by decide),
    (scan_delete {}).2.1 "bS".toList "ppb".toList 'm' (by decide) (by decide) (by decide)⟩

end Slab
