import Mathlib.Data.List.Forall2
import Slab.Proofs.Moves
import Slab.Proofs.Recasting
import Slab.Proofs.Running

/-!
# Colours do not shape grids

The shape of a grid is what is left of it when all colours are taken away, at every depth. A builder
never looks at a colour, so the shape of what it builds can be built without any: **`scan_shape`**
says that it is the grid of the program in which every letter for the ink stands for nothing and
every self-reference is plain growth. Hence **`compile_shape`**: programs that differ in such letters
only, started with any inks, have grids of the same shape.
-/

namespace Slab

/-! ### Shapes -/

mutual

/-- The grid without any colours, those of the grids inside it included. -/
def Grid.shape : Grid → Grid
  | ⟨rows⟩ => ⟨shapeRows rows⟩

/-- Rows without any colours. -/
def shapeRows : List Row → List Row
  | [] => []
  | ⟨height, cells⟩ :: rows => ⟨height, shapeCells cells⟩ :: shapeRows rows

/-- Cells without any colours. -/
def shapeCells : List Cell → List Cell
  | [] => []
  | ⟨width, _, none⟩ :: cells => ⟨width, none, none⟩ :: shapeCells cells
  | ⟨width, _, some grid⟩ :: cells => ⟨width, none, some grid.shape⟩ :: shapeCells cells

end

/-- Cells are erased one by one. -/
theorem shapeCells_eq_map (cells : List Cell) : shapeCells cells = cells.map (Cell.erase .shape) := by
  induction cells with
  | nil => rw [shapeCells, List.map_nil]
  | cons cell cells ih =>
      obtain ⟨width, color, _ | grid⟩ := cell
      · rw [shapeCells, List.map_cons, ih]
        rfl
      · rw [shapeCells, List.map_cons, ih]
        rfl

/-- Rows are erased one by one. -/
theorem shapeRows_eq_map (rows : List Row) : shapeRows rows = rows.map (Row.erase .shape) := by
  induction rows with
  | nil => rw [shapeRows, List.map_nil]
  | cons row rows ih =>
      obtain ⟨height, cells⟩ := row
      rw [shapeRows, shapeCells_eq_map, List.map_cons, ih]
      rfl

/-- In the shape of a grid its own cells are erased, and the grids in them are shapes. -/
theorem Grid.shape_eq (grid : Grid) : grid.shape = ⟨grid.rows.map (Row.erase .shape)⟩ := by
  obtain ⟨rows⟩ := grid
  rw [shape, shapeRows_eq_map]

/-- What a command is to shapes: all that is only about colours is the same, and all growth is. -/
def Command.shape : Command → Command
  | .hue _ => .modeShift
  | .lighten => .modeShift
  | .modeReset => .modeShift
  | .recurse => .grow
  | command => command

/-- Nothing else becomes a row break. -/
theorem breakRow_keptBy_shape : Command.breakRow.KeptBy .shape := by
  intro other
  cases other <;> simp [Command.shape]

/-- Nothing else becomes the beginning of a nested program. -/
theorem nest_keptBy_shape : Command.nest.KeptBy .shape := by
  intro other
  cases other <;> simp [Command.shape]

namespace Level

/-- The level without any colours, and with the ink that programs start with. -/
def shape (level : Level) : Level :=
  level.erase .shape {}

/-- The finished shape is the shape of the finished grid. -/
theorem finish_shape (level : Level) : level.shape.finish = level.finish.shape := by
  rw [Grid.shape_eq, rows_finish, List.map_reverse, ← allRows_erase .shape {}]
  rfl

/-- Units act on shapes as they do on levels: there is no hue to grow with, and self-references
grow without one. -/
theorem shape_take (level : Level) (unit : Lexeme) :
    (level.take unit).shape = level.shape.take (unit.recast .shape) := by
  rcases unit with _ | command | char
  · rfl
  · cases command with
    | grow => exact level.erase_grow _ _ _
    | recurse => exact level.erase_grow _ _ _
    | raise => exact level.erase_raise _ _
    | breakRow => exact level.erase_breakRow _ _
    | _ => rfl
  · rfl

end Level

/-- The level that waits, without any colours; its cell will have none either. -/
def Suspended.shape (waiting : Suspended) : Suspended :=
  ⟨waiting.level.shape, none⟩

/-- A nested grid of some shape is placed in a level of some shape. -/
theorem Suspended.resume_shape (waiting : Suspended) (grid : Grid) :
    (waiting.resume grid).shape = waiting.shape.resume grid.shape :=
  waiting.level.erase_attach _ _ waiting.color grid

namespace Builder

/-- The builder without any colours. -/
def shape (builder : Builder) : Builder :=
  { level := builder.level.shape, outer := builder.outer.map Suspended.shape }

/-- Units act on shapes as they do on builders. -/
theorem shape_step (builder : Builder) (unit : Lexeme) :
    (builder.step unit).shape = builder.shape.step (unit.recast .shape) := by
  rcases unit with _ | command | char
  · obtain ⟨level, _ | ⟨waiting, outer⟩⟩ := builder
    · rfl
    · rw [step_close_cons, shape, waiting.resume_shape, ← level.finish_shape]
      rfl
  · by_cases hnest : command = .nest
    · subst hnest
      rfl
    · have hshape : command.shape ≠ .nest := fun h => hnest ((nest_keptBy_shape command).mp h)
      have hlevel := builder.level.shape_take (.command command)
      rw [step_eq_modify _ (by simp) (by simpa using hnest), Lexeme.recast,
        step_eq_modify _ (by simp) (by simpa using hshape)]
      exact congrArg (Builder.mk · _) hlevel
  · rfl

/-- Programs act on shapes as they do on builders. -/
theorem shape_run (builder : Builder) (units : List Lexeme) :
    (builder.run units).shape = builder.shape.run (units.map (Lexeme.recast .shape)) := by
  induction units generalizing builder with
  | nil => rfl
  | cons unit units ih => rw [run_cons, ih, shape_step, List.map_cons, run_cons]

/-- The shape of the outermost level at the end is what the shape ends with. -/
theorem unwind_shape (builder : Builder) : builder.shape.unwind = builder.unwind.shape := by
  obtain ⟨level, outer⟩ := builder
  induction outer generalizing level with
  | nil => rfl
  | cons waiting outer ih =>
      rw [unwind_cons, ← ih, shape, shape, waiting.resume_shape, ← level.finish_shape]
      rfl

end Builder

/-- **The shape of a scanned grid** is the grid of the program in which letters for the ink do
nothing and self-references are plain growth, whatever the ink is. -/
theorem scan_shape (program : List Char) (ink : Ink) :
    (scan program ink).shape = scan (program.map (recast .shape)) {} := by
  rw [scan_eq, scan_eq, ← Level.finish_shape, ← Builder.unwind_shape, Builder.shape_run,
    lexemes_recast breakRow_keptBy_shape]
  rfl

/-! ### Programs that differ in colours -/

/-- A command of which only expansion can tell what it is: all that is only about colours is the
same. -/
def Command.dull : Command → Command
  | .hue _ => .modeShift
  | .lighten => .modeShift
  | .modeReset => .modeShift
  | command => command

/-- What is only about colours does not matter for expansion. -/
theorem keepsStructure_dull : KeepsStructure .dull where
  breakRow := by
    intro other
    cases other <;> simp [Command.dull]
  nest := by
    intro other
    cases other <;> simp [Command.dull]
  raise := by
    intro other
    cases other <;> simp [Command.dull]
  recurse := by
    intro other
    cases other <;> simp [Command.dull]

/-- What expansion cannot tell apart, shapes cannot either. -/
theorem Command.shape_dull (command : Command) : command.dull.shape = command.shape := by
  cases command <;> rfl

/-- The shape of a compiled grid is already that of the program with dull letters. -/
theorem compileChars_shape (program : List Char) (options : CompileOptions) :
    (compileChars program options).shape =
      scan ((options.prepare (program.map (recast .dull))).map (recast .shape)) {} := by
  rw [compileChars, scan_shape, prepare_recast keepsStructure_dull, List.map_map]
  congr 1
  apply List.map_congr_left
  intro c _
  rw [Function.comp_apply, recast_recast]
  simp only [Command.shape_dull]

/-- Characters that are the same once they are recast make texts that are. -/
theorem map_recast_eq {related : Char → Char → Prop} {change : Command → Command}
    (h : ∀ c d, related c d → recast change c = recast change d) {text other : List Char}
    (htext : List.Forall₂ related text other) :
    text.map (recast change) = other.map (recast change) := by
  rw [← List.forall₂_eq_eq_eq, List.forall₂_map_left_iff, List.forall₂_map_right_iff]
  exact htext.imp h

/-- The letters that are only about the ink, or about nothing. -/
def inkLetters : List Char := ['r', 'g', 't', 'y', 'f', 'h', 'm', 'n']

/-- The letters that grow, once expansion is over. -/
def growthLetters : List Char := ['b', 'i']

/-- The characters are the same, or both are among the given ones. -/
def Exchanged (letters : List Char) (c d : Char) : Prop :=
  c = d ∨ c ∈ letters ∧ d ∈ letters

instance (letters : List Char) (c d : Char) : Decidable (Exchanged letters c d) :=
  inferInstanceAs (Decidable (c = d ∨ c ∈ letters ∧ d ∈ letters))

/-- Exchanged characters are the same once they are recast, if all the letters are. -/
theorem Exchanged.recast_eq {letters : List Char} {change : Command → Command} {letter c d : Char}
    (hletters : ∀ c ∈ letters, recast change c = letter) (h : Exchanged letters c d) :
    recast change c = recast change d := by
  rcases h with rfl | ⟨hc, hd⟩
  · rfl
  · rw [hletters c hc, hletters d hd]

/-- Letters that are only about the ink, and characters that are no letters, leave the rows as they
are. -/
theorem Level.finish_take_inkLetter {c : Char}
    (h : c ∈ inkLetters ∨ Command.ofChar? c = none) (level : Level) :
    c ≠ 'B' ∧ c ≠ 'S' ∧ (level.take (.ofChar c)).finish = level.finish := by
  rcases h with h | h
  · simp only [inkLetters, List.mem_cons, List.not_mem_nil, or_false] at h
    rcases h with rfl | rfl | rfl | rfl | rfl | rfl | rfl | rfl <;> exact ⟨by decide, by decide, rfl⟩
  · refine ⟨?_, ?_, ?_⟩
    · rintro rfl
      cases h
    · rintro rfl
      cases h
    · rw [Lexeme.ofChar, h]
      rfl

/-- A text of such characters leaves the rows as they are. -/
theorem Builder.finish_run_inkLetters {text : List Char}
    (h : ∀ c ∈ text, c ∈ inkLetters ∨ Command.ofChar? c = none) (level : Level) :
    ((⟨level, []⟩ : Builder).run (lexemes text)).finish = level.finish := by
  induction text generalizing level with
  | nil => rfl
  | cons c text ih =>
      rw [List.forall_mem_cons] at h
      obtain ⟨hB, hS, hfinish⟩ := level.finish_take_inkLetter h.1
      rw [lexemes_cons_of_ne hB, run_cons, step_ofChar _ hS, ← hfinish]
      exact ih h.2 _

/-- **Colours do not shape grids.** If programs are the same but for letters that are only about
the ink, their grids have the same shape, whatever the inks are that they start with and whether or
not they are expanded; without expansion, growth and self-references may be exchanged as well. And
such letters, with characters that are none, make no row at all. -/
theorem compile_shape :
    (∀ (program other : String) (allowExpansion : Bool) (ink ink' : Ink),
      List.Forall₂ (Exchanged inkLetters) program.toList other.toList →
        (compile program { allowExpansion, ink }).shape =
          (compile other { allowExpansion, ink := ink' }).shape) ∧
    (∀ (program other : String) (ink ink' : Ink),
      List.Forall₂ (fun c d => Exchanged inkLetters c d ∨ Exchanged growthLetters c d)
          program.toList other.toList →
        (compile program { allowExpansion := false, ink }).shape =
          (compile other { allowExpansion := false, ink := ink' }).shape) ∧
    ∀ (program : String) (options : CompileOptions),
      (∀ c ∈ program.toList, c ∈ inkLetters ∨ Command.ofChar? c = none) →
        compile program options = .empty := by
  refine ⟨?_, ?_, ?_⟩
  · intro program other allowExpansion ink ink' h
    have hdull : ∀ c ∈ inkLetters, recast .dull c = 'm' :=
      List.forall_iff_forall_mem.mp (by decide)
    rw [compile, compile, compileChars_shape, compileChars_shape,
      map_recast_eq (fun c d => Exchanged.recast_eq hdull) h]
    rfl
  · intro program other ink ink' h
    have hshape : ∀ c ∈ inkLetters, recast .shape c = 'm' :=
      List.forall_iff_forall_mem.mp (by decide)
    have hgrow : ∀ c ∈ growthLetters, recast .shape c = 'b' :=
      List.forall_iff_forall_mem.mp (by decide)
    show (scan program.toList ink).shape = (scan other.toList ink').shape
    rw [scan_shape, scan_shape, map_recast_eq _ h]
    rintro c d (hink | hgrowth)
    · exact hink.recast_eq hshape
    · exact hgrowth.recast_eq hgrow
  · intro program options h
    have hplain : ¬isRecursive program.toList := by
      intro hrecursive
      have hi := h 'i' (List.contains_iff_mem.mp hrecursive)
      exact absurd hi (by decide)
    rw [compile, compileChars, CompileOptions.prepare, if_neg (by simp [hplain])]
    exact Builder.finish_run_inkLetters h _

/-- Other hues and no lightening in a program that is expanded, from an ink that is not a number;
growth for a self-reference in one that is not; and letters for the ink only. -/
theorem compile_shape_threePrograms :
    List.Forall₂ (Exchanged inkLetters) "rbSihpBBé".toList "mbSifpBBé".toList ∧
      (compile "rbSihpBBé" { ink := ⟨some .pale, 0 / 0⟩ }).shape = (compile "mbSifpBBé").shape ∧
      List.Forall₂ (fun c d => Exchanged inkLetters c d ∨ Exchanged growthLetters c d)
        "rbSipBB".toList "nbSbpBB".toList ∧
      (compile "rbSipBB" { allowExpansion := false }).shape =
        (compile "nbSbpBB" { allowExpansion := false, ink := ⟨some .pale, 2⟩ }).shape ∧
      (∀ c ∈ "rgt yfé hmn".toList, c ∈ inkLetters ∨ Command.ofChar? c = none) ∧
      compile "rgt yfé hmn" = .empty := by
  have hink : List.Forall₂ (Exchanged inkLetters) "rbSihpBBé".toList "mbSifpBBé".toList := by
    decide +kernel
  have hgrowth : List.Forall₂ (fun c d => Exchanged inkLetters c d ∨ Exchanged growthLetters c d)
      "rbSipBB".toList "nbSbpBB".toList := by
    decide +kernel
  have hnone : ∀ c ∈ "rgt yfé hmn".toList, c ∈ inkLetters ∨ Command.ofChar? c = none :=
    List.forall_iff_forall_mem.mp (by decide +kernel)
  obtain ⟨hexpanded, hscanned, hempty⟩ := compile_shape
  exact ⟨hink, hexpanded _ _ true _ _ hink, hgrowth, hscanned _ _ _ _ hgrowth, hnone,
    hempty _ _ hnone⟩

end Slab
