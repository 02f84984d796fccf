import Slab.Compile
import Slab.Proofs.Copies
import Slab.Proofs.Depth
import Slab.Proofs.Moves
import Slab.Proofs.Splicing

/-!
# Expansion as a program that calls itself

Expansion works on text: it writes copies of the program, with closes behind them, in place of the
self-references. What it means is a call: on meeting itself, the program is run on a fresh level,
and its grid is put in the place of the self-reference. `unfolding program n` is the grid of a
program whose calls go `n` deep; the innermost self-references grow in the pale colour.
**`compile_eq_unfolding`** says that compiling a program without adjacent `B`s and without a `B`
at its end is this, with as many levels of calls as expansion took rounds, and that such a program
has that depth, and one more, if it opens nothing itself.

The proof has a part about text and a part about runs. Such a program stays `Settled` when copies
are put into it, so the units of the expanded text are the units of the program with those of a
copy at each self-reference (`lexemes_substitute`). A run over a copy is then a call
(`run_nthCopy`): the copy is run above whatever is open (`runCalling_frame`), and its closes are
just as many as it takes to end what it opened.
-/

namespace Slab

/-! ### Programs that call themselves -/

/-- What a self-reference does: it calls, and the grid that comes back is put in its place, or,
where calls have come to an end, it grows in the pale colour. -/
def Level.refer (level : Level) : Option (Ink → Grid) → Level
  | some describe => level.hold (describe level.nestedStart.ink)
  | none => level.grow (some .pale)

/-- Take in one unit of a program whose self-references are calls. -/
def Builder.stepCalling (call : Option (Ink → Grid)) (builder : Builder) : Lexeme → Builder
  | .command .recurse => builder.modify (·.refer call)
  | unit => builder.step unit

/-- Take in the units of a program whose self-references are calls. -/
def Builder.runCalling (call : Option (Ink → Grid)) (builder : Builder) (units : List Lexeme) :
    Builder :=
  units.foldl (Builder.stepCalling call) builder

/-- The grid of a program in which a self-reference is a call of the program itself, as long as
calls go at most `n` deep. -/
def unfolding (program : List Char) : Nat → Ink → Grid
  | 0, ink => ((Builder.start ink).runCalling none (lexemes program)).finish
  | n + 1, ink =>
    ((Builder.start ink).runCalling (some (unfolding program n)) (lexemes program)).finish

/-- What a self-reference calls when calls may go `n` deep. -/
def innerCall (program : List Char) : Nat → Option (Ink → Grid)
  | 0 => none
  | n + 1 => some (unfolding program n)

/-- A program whose calls go `n` deep is run with what they call. -/
theorem unfolding_eq (program : List Char) (n : Nat) (ink : Ink) :
    unfolding program n ink =
      ((Builder.start ink).runCalling (innerCall program n) (lexemes program)).finish := by
  cases n <;> rfl

namespace Builder

variable {call : Option (Ink → Grid)}

/-- The first unit is taken in first. -/
@[simp] theorem runCalling_cons (builder : Builder) (unit : Lexeme) (units : List Lexeme) :
    builder.runCalling call (unit :: units) =
      (builder.stepCalling call unit).runCalling call units := rfl

/-- A self-reference is a call on the innermost level. -/
@[simp] theorem stepCalling_recurse (builder : Builder) :
    builder.stepCalling call (.command .recurse) = builder.modify (·.refer call) := rfl

/-- Every other unit does what it always does. -/
theorem stepCalling_of_ne {unit : Lexeme} (h : unit ≠ .command .recurse) (builder : Builder) :
    builder.stepCalling call unit = builder.step unit := by
  unfold stepCalling
  split
  · exact absurd rfl h
  · rfl

end Builder

/-- What a unit does to the innermost level where self-references are calls. -/
def Level.takeCalling (call : Option (Ink → Grid)) (level : Level) : Lexeme → Level
  | .command .recurse => level.refer call
  | unit => level.take unit

/-- A unit other than a self-reference acts as it always does. -/
theorem Level.takeCalling_of_ne {call : Option (Ink → Grid)} {unit : Lexeme}
    (h : unit ≠ .command .recurse) (level : Level) :
    level.takeCalling call unit = level.take unit := by
  unfold takeCalling
  split
  · exact absurd rfl h
  · rfl

namespace Builder

variable {call : Option (Ink → Grid)}

/-- A unit other than the brackets only changes the innermost level. -/
theorem stepCalling_eq_modify (builder : Builder) {unit : Lexeme} (hclose : unit ≠ .close)
    (hnest : unit ≠ .command .nest) :
    builder.stepCalling call unit = builder.modify (·.takeCalling call unit) := by
  by_cases h : unit = .command .recurse
  · subst h
    rfl
  · rw [stepCalling_of_ne h, step_eq_modify builder hclose hnest]
    simp only [Level.takeCalling_of_ne h]

/-- A run that closes nothing never looks at what was open before it, and opens a level for each
`S`. -/
theorem runCalling_frame (call : Option (Ink → Grid)) {units : List Lexeme}
    (h : Lexeme.close ∉ units) (level : Level) (opened outer : List Suspended) :
    (⟨level, opened ++ outer⟩ : Builder).runCalling call units =
        ⟨((⟨level, opened⟩ : Builder).runCalling call units).level,
          ((⟨level, opened⟩ : Builder).runCalling call units).outer ++ outer⟩ ∧
      ((⟨level, opened⟩ : Builder).runCalling call units).outer.length =
        opened.length + units.count (.command .nest) := by
  induction units generalizing level opened with
  | nil => exact ⟨rfl, rfl⟩
  | cons unit units ih =>
      rw [List.mem_cons, not_or] at h
      by_cases hnest : unit = .command .nest
      · subst hnest
        obtain ⟨hrun, hlength⟩ :=
          ih h.2 level.nestedStart (⟨level.suspend, level.ink.color?⟩ :: opened)
        refine ⟨hrun, ?_⟩
        rw [runCalling_cons, stepCalling_of_ne (by simp), step_nest, hlength,
          List.count_cons_self, List.length_cons]
        omega
      · rw [List.count_cons_of_ne hnest]
        simp only [runCalling_cons, stepCalling_eq_modify _ (Ne.symm h.1) hnest]
        exact ih h.2 (level.takeCalling call unit) opened

/-- A run without brackets stays on its level. -/
theorem runCalling_eq_foldl {units : List Lexeme} (hclose : Lexeme.close ∉ units)
    (hnest : Lexeme.command .nest ∉ units) (level : Level) (outer : List Suspended) :
    (⟨level, outer⟩ : Builder).runCalling call units =
      ⟨units.foldl (Level.takeCalling call) level, outer⟩ := by
  induction units generalizing level with
  | nil => rfl
  | cons unit units ih =>
      rw [List.mem_cons, not_or] at hclose hnest
      rw [runCalling_cons, stepCalling_eq_modify _ (Ne.symm hclose.1) (Ne.symm hnest.1)]
      exact ih hclose.2 hnest.2 _

end Builder

/-! ### The units of a program with copies in it -/

/-- No two `B`s are adjacent, and the last character is not a `B`. -/
structure Unpaired (text : List Char) : Prop where
  /-- No two `B`s are adjacent. -/
  noPair : ¬['B', 'B'] <:+: text
  /-- The last character is not a `B`. -/
  noLast : text.getLast? ≠ some 'B'

/-- A text without pairs that does not end in `B` does not end in an unpaired one. -/
theorem Unpaired.not_endsUnpaired {text : List Char} (h : Unpaired text) : ¬EndsUnpaired text := by
  rcases hlast : text.getLast? with _ | c
  · rw [List.getLast?_eq_none_iff.mp hlast]
    simp [EndsUnpaired]
  · obtain ⟨front, rfl⟩ := List.getLast?_eq_some_iff.mp hlast
    apply not_endsUnpaired_concat
    rintro rfl
    exact h.noLast hlast

/-- In a program without pairs, settled text can be put for the self-references: the outcome is
settled, and its units are those of the program with the new ones in place. -/
theorem lexemes_substitute {replacement : List Char}
    (hhead : ∃ c rest, c ≠ 'B' ∧ replacement = c :: rest) (hsettled : Settled replacement)
    {program : List Char} (h : Unpaired program) :
    Settled (substitute replacement program) ∧
      lexemes (substitute replacement program) = splice (lexemes replacement) (lexemes program) :=
  lexemes_substitute_of_paired hhead hsettled h.not_endsUnpaired

/-- A copy in a program without pairs is settled. -/
theorem settled_nthCopy {program : List Char} (h : Unpaired program) (n : Nat) :
    Settled (nthCopy program n) :=
  settled_nthCopy_of_paired h.not_endsUnpaired n

/-! ### A copy is a call -/

namespace Builder

/-- Where a run over what replaces the self-references is a call, a run over the whole text is one
in which they are calls. -/
theorem run_flatMap {call : Option (Ink → Grid)} {copy : List Lexeme}
    (hcopy : ∀ builder : Builder, builder.run copy = builder.modify (·.refer call))
    (units : List Lexeme) (builder : Builder) :
    builder.run (splice copy units) = builder.runCalling call units := by
  induction units generalizing builder with
  | nil => rfl
  | cons unit units ih =>
      by_cases h : unit = .command .recurse
      · subst h
        rw [splice_recurse, run_append, hcopy, ih, runCalling_cons, stepCalling_recurse]
      · rw [splice_cons_of_ne h, run_cons, ih, runCalling_cons, stepCalling_of_ne h]

/-- A run over a copy of a program without pairs is a call. -/
theorem run_nthCopy {program : List Char} (h : Unpaired program) (n : Nat) (builder : Builder) :
    builder.run (lexemes (nthCopy program n)) =
      builder.modify (·.refer (innerCall program n)) := by
  induction n generalizing builder with
  | zero => rfl
  | succ n ih =>
      obtain ⟨level, outer⟩ := builder
      have hunits := lexemes_nthCopy_succ h.not_endsUnpaired n
      have hbody := run_flatMap (fun builder => ih builder) (lexemes program)
      -- the run over the body of the copy, once on its own and once above what is open
      let body := (Builder.start level.ink.spend).runCalling (innerCall program n) (lexemes program)
      let waiting : Suspended := ⟨level.suspend, level.ink.color?⟩
      obtain ⟨hframe, hlength⟩ := runCalling_frame (innerCall program n)
        (close_notMem_lexemes h.noPair) level.nestedStart [] (waiting :: outer)
      have hopened : body.outer.length = program.count 'S' := by
        show ((⟨level.nestedStart, []⟩ : Builder).runCalling _ _).outer.length = _
        rw [hlength, count_lexemes _ (by decide), List.length_nil, Nat.zero_add]
        rfl
      calc (⟨level, outer⟩ : Builder).run (lexemes (nthCopy program (n + 1)))
          = ((⟨level.nestedStart, waiting :: outer⟩ : Builder).runCalling (innerCall program n)
              (lexemes program)).run (List.replicate (1 + program.count 'S') .close) := by
            rw [hunits, run_cons, run_append, hbody]
            rfl
        _ = (⟨body.level, body.outer ++ waiting :: outer⟩ : Builder).run
              (List.replicate body.outer.length .close ++ [.close]) := by
            rw [hopened, ← List.replicate_succ', Nat.add_comm 1]
            exact congrArg (run · (List.replicate (program.count 'S' + 1) .close)) hframe
        _ = ⟨waiting.resume body.unwind.finish, outer⟩ := by
            rw [run_append, run_replicate_close]
            rfl
        _ = (⟨level, outer⟩ : Builder).modify (·.refer (innerCall program (n + 1))) := by
            show _ = (⟨level.hold (unfolding program n level.ink.spend), outer⟩ : Builder)
            rw [unfolding_eq]
            rfl

end Builder

/-! ### How deep calls go -/

namespace Level

variable {call : Option (Ink → Grid)}

/-- All grids held by the cells of the level come from calls. -/
def HoldsOnlyCalled (call : Option (Ink → Grid)) (level : Level) : Prop :=
  ∀ grid ∈ level.finish.nested, ∃ describe ink, call = some describe ∧ grid = describe ink

/-- The level has met a self-reference: there is a row, and if there was something to call, a
cell holds a grid. -/
def HasReferred (call : Option (Ink → Grid)) (level : Level) : Prop :=
  ¬level.finish.isEmpty ∧ (call ≠ none → ∃ grid, grid ∈ level.finish.nested)

/-- Beyond what a self-reference places, no unit brings in a grid. -/
theorem HoldsOnlyCalled.takeCalling {level : Level} (h : level.HoldsOnlyCalled call)
    (unit : Lexeme) : (level.takeCalling call unit).HoldsOnlyCalled call := by
  intro grid hgrid
  rcases unit with _ | command | char
  · exact h grid hgrid
  · cases command with
    | grow => exact h grid (mem_nested_grow.mp hgrid)
    | raise => exact h grid (mem_nested_raise.mp hgrid)
    | recurse =>
        rcases call with _ | describe
        · exact h grid (mem_nested_grow.mp hgrid)
        · rcases mem_nested_of_attach hgrid with rfl | hbefore
          · exact ⟨describe, _, rfl, rfl⟩
          · exact h grid hbefore
    | _ => exact h grid hgrid
  · exact h grid hgrid

/-- A self-reference makes a row, and places the grid that it calls for. -/
theorem hasReferred_refer (level : Level) : (level.refer call).HasReferred call := by
  rcases call with _ | describe
  · exact ⟨not_isEmpty_grow _ _, fun h => absurd rfl h⟩
  · exact ⟨not_isEmpty_attach _ _ _, fun _ => ⟨_, mem_nested_attach_self _ _ _⟩⟩

/-- No later unit takes back what a self-reference brought. -/
theorem HasReferred.takeCalling {level : Level} (h : level.HasReferred call) (unit : Lexeme) :
    (level.takeCalling call unit).HasReferred call := by
  rcases unit with _ | command | char
  · exact h
  · cases command with
    | grow =>
        refine ⟨not_isEmpty_grow _ _, ?_⟩
        intro hcall
        obtain ⟨grid, hgrid⟩ := h.2 hcall
        exact ⟨grid, mem_nested_grow.mpr hgrid⟩
    | raise =>
        refine ⟨fun hempty => h.1 (level.isEmpty_raise.mp hempty), ?_⟩
        intro hcall
        obtain ⟨grid, hgrid⟩ := h.2 hcall
        exact ⟨grid, mem_nested_raise.mpr hgrid⟩
    | recurse => exact level.hasReferred_refer
    | breakRow =>
        refine ⟨fun hempty => h.1 ?_, h.2⟩
        simpa [Grid.isEmpty, Level.takeCalling, Level.take, obey, breakRow] using hempty
    | _ => exact h
  · exact h

/-- Along a run on one level, only calls bring in grids. -/
theorem HoldsOnlyCalled.foldl (units : List Lexeme) {level : Level}
    (h : level.HoldsOnlyCalled call) :
    (units.foldl (Level.takeCalling call) level).HoldsOnlyCalled call := by
  induction units generalizing level with
  | nil => exact h
  | cons unit units ih => exact ih (h.takeCalling unit)

/-- Along a run on one level, what a self-reference brought stays. -/
theorem HasReferred.foldl (units : List Lexeme) {level : Level} (h : level.HasReferred call) :
    (units.foldl (Level.takeCalling call) level).HasReferred call := by
  induction units generalizing level with
  | nil => exact h
  | cons unit units ih => exact ih (h.takeCalling unit)

/-- A run on one level that meets a self-reference ends with what it brought. -/
theorem hasReferred_foldl {units : List Lexeme} (h : Lexeme.command .recurse ∈ units)
    (level : Level) : (units.foldl (Level.takeCalling call) level).HasReferred call := by
  obtain ⟨before, after, rfl⟩ := List.append_of_mem h
  rw [List.foldl_append]
  exact HasReferred.foldl after (hasReferred_refer _)

end Level

section Brackets

variable {program : List Char}

/-- A program without brackets is run on one level. -/
theorem unfolding_eq_foldl (hpair : ¬['B', 'B'] <:+: program) (hnest : 'S' ∉ program) (n : Nat)
    (ink : Ink) :
    unfolding program n ink =
      ((lexemes program).foldl (Level.takeCalling (innerCall program n)) (.start ink)).finish := by
  have hopen : Lexeme.command .nest ∉ lexemes program := by
    rw [← List.count_eq_zero, count_lexemes _ (by decide)]
    exact List.count_eq_zero.mpr hnest
  rw [unfolding_eq, Builder.start,
    Builder.runCalling_eq_foldl (close_notMem_lexemes hpair) hopen]
  rfl

/-- Without brackets, the cells of the outermost grid hold what the program calls and nothing
else. -/
theorem mem_nested_unfolding (hpair : ¬['B', 'B'] <:+: program) (hnest : 'S' ∉ program) {n : Nat}
    {ink : Ink} {grid : Grid} (h : grid ∈ (unfolding program n ink).nested) :
    ∃ describe ink', innerCall program n = some describe ∧ grid = describe ink' := by
  rw [unfolding_eq_foldl hpair hnest] at h
  have hstart : (Level.start ink).HoldsOnlyCalled (innerCall program n) := by
    intro grid hgrid
    exact absurd hgrid List.not_mem_nil
  exact hstart.foldl (lexemes program) grid h

/-- A program that refers to itself and has no brackets is as deep as its calls go, and one more. -/
theorem depth_unfolding (hrefers : 'i' ∈ program) (hpair : ¬['B', 'B'] <:+: program)
    (hnest : 'S' ∉ program) (n : Nat) (ink : Ink) : (unfolding program n ink).depth = n + 1 := by
  have hrecurse : Lexeme.command .recurse ∈ lexemes program := by
    rw [← List.count_pos_iff, count_lexemes _ (by decide)]
    exact List.count_pos_iff.mpr hrefers
  have hreferred : ∀ n ink, ¬(unfolding program n ink).isEmpty ∧
      (innerCall program n ≠ none → ∃ grid, grid ∈ (unfolding program n ink).nested) := by
    intro n ink
    rw [unfolding_eq_foldl hpair hnest]
    exact Level.hasReferred_foldl hrecurse _
  induction n generalizing ink with
  | zero =>
      have hnone : (unfolding program 0 ink).nested = [] := by
        rw [List.eq_nil_iff_forall_not_mem]
        intro grid hgrid
        obtain ⟨describe, ink', hcall, -⟩ := mem_nested_unfolding hpair hnest hgrid
        cases hcall
      rw [Grid.depth_of_not_isEmpty (hreferred 0 ink).1, hnone]
      rfl
  | succ n ih =>
      obtain ⟨hrows, hsome⟩ := hreferred (n + 1) ink
      obtain ⟨held, hheld⟩ := hsome (by simp [innerCall])
      rw [Grid.depth_of_not_isEmpty hrows,
        Grid.maxDepth_of_forall_eq (d := n + 1) (List.ne_nil_of_mem hheld)]
      intro grid hgrid
      obtain ⟨describe, ink', hcall, rfl⟩ := mem_nested_unfolding hpair hnest hgrid
      obtain rfl : unfolding program n = describe := Option.some.inj hcall
      exact ih ink'

end Brackets

/-! ### Compiling -/

/-- **Expansion is self-call**: a program that refers to itself, without adjacent `B`s and without
a `B` at its end, is compiled to the grid that it describes when its self-references are calls,
going as deep as expansion takes rounds; if it has no `S` of its own, that is its depth but for
the outermost level. -/
theorem compile_eq_unfolding (program : String) (ink : Ink) (hrefers : 'i' ∈ program.toList)
    (hpair : ¬['B', 'B'] <:+: program.toList) (hlast : program.toList.getLast? ≠ some 'B') :
    compile program { allowExpansion := true, ink } =
        unfolding program.toList (expand program.toList).rounds ink ∧
      ('S' ∉ program.toList →
        (compile program { allowExpansion := true, ink }).depth =
          (expand program.toList).rounds + 1) := by
  have hcompile : compile program { allowExpansion := true, ink } =
      unfolding program.toList (expand program.toList).rounds ink := by
    have h : Unpaired program.toList := ⟨hpair, hlast⟩
    have hrec : isRecursive program.toList := List.contains_iff_mem.mpr hrefers
    obtain ⟨-, hunits⟩ := lexemes_substitute (nthCopy_eq_cons _ _)
      (settled_nthCopy h (expand program.toList).rounds) h
    show scan (if isRecursive program.toList then _ else _) ink = _
    rw [if_pos hrec, expand_program_eq, scan, hunits, unfolding_eq,
      Builder.run_flatMap (Builder.run_nthCopy h _)]
  refine ⟨hcompile, ?_⟩
  intro hnest
  rw [hcompile, depth_unfolding hrefers hpair hnest]

/-- With ten raises a short program is expanded in one round: it calls itself once. -/
theorem compile_eq_unfolding_once :
    'i' ∈ "ppppppppppBbi".toList ∧ ¬['B', 'B'] <:+: "ppppppppppBbi".toList ∧
      "ppppppppppBbi".toList.getLast? ≠ some 'B' ∧ 'S' ∉ "ppppppppppBbi".toList ∧
      compile "ppppppppppBbi" { allowExpansion := true, ink := {} } =
        unfolding "ppppppppppBbi".toList 1 {} ∧
      (compile "ppppppppppBbi" { allowExpansion := true, ink := {} }).depth = 2 := by
  have hrefers : 'i' ∈ "ppppppppppBbi".toList := by decide +kernel
  have hpair : ¬['B', 'B'] <:+: "ppppppppppBbi".toList := by decide +kernel
  have hlast : "ppppppppppBbi".toList.getLast? ≠ some 'B' := by decide +kernel
  have hnest : 'S' ∉ "ppppppppppBbi".toList := by decide +kernel
  have hrounds : (expand "ppppppppppBbi".toList).rounds = 1 := by decide +kernel
  obtain ⟨hcompile, hdepth⟩ := compile_eq_unfolding "ppppppppppBbi" {} hrefers hpair hlast
  rw [hrounds] at hcompile hdepth
  exact ⟨hrefers, hpair, hlast, hnest, hcompile, hdepth hnest⟩

end Slab
