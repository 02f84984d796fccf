import Slab.CommandLine.Run
import Slab.Proofs.Growth

/-!
# Expanded programs

A program is `Expanded` if it has no self-reference or has reached its budget: then expansion
leaves it as it is (`expand_of_expanded`). The outcome of an expansion is expanded
(`expanded_expand`), because the program has not lost any raise and so its budget has not become
larger. Hence it does not matter whether an expanded program may be expanded again, and a command
line that prints it can be followed by one that draws it: **`expand_stable`** says all this.

On the way from one command line to the other, the text gets a line feed at its end and loses all
line ends there. For a program that does not end in one, nothing is lost (`noLineEnd_expand`,
`trimLineEnds_concat`).
-/

namespace Slab

variable {program : List Char}

/-! ### Nothing is left to expand -/

/-- The program does not refer to itself, or it is long enough. -/
def Expanded (program : List Char) : Prop :=
  'i' ∈ program → budgetFor program ≤ byteLength program

/-- Expansion leaves an expanded program as it is, in no round. -/
theorem expand_of_expanded (h : Expanded program) :
    expand program = { program, rounds := 0, budget := budgetFor program } := by
  have hdone : expandFrom (nestedCopy program) (budgetFor program) 0 program = (program, 0) := by
    rw [expandFrom, if_neg]
    rintro ⟨hshort, hgrows⟩
    by_cases hrefers : 'i' ∈ program
    · exact Nat.not_lt.mpr (h hrefers) hshort
    · rw [substitute_of_notMem hrefers] at hgrows
      exact Nat.lt_irrefl _ hgrows
  rw [expand, hdone]

/-- A character other than the self-reference does not get lost. -/
theorem count_le_count_substitute {c : Char} (hc : c ≠ 'i') (replacement text : List Char) :
    text.count c ≤ (substitute replacement text).count c := by
  induction text with
  | nil => exact Nat.le_refl 0
  | cons d text ih =>
      by_cases hd : d = 'i'
      · subst hd
        rw [substitute_recurse, List.count_cons_of_ne hc.symm, List.count_append]
        omega
      · rw [substitute_cons_of_ne hd, List.count_cons, List.count_cons]
        omega

/-- A program with more raises has to reach no more. -/
theorem budgetFor_le_of_count_le {more : List Char} (h : program.count 'p' ≤ more.count 'p') :
    budgetFor more ≤ budgetFor program := by
  have hreached := (budgetFor_le_iff program _).mp le_rfl
  have hraises : max 1 (program.count 'p') ≤ max 1 (more.count 'p') := by omega
  exact (budgetFor_le_iff more _).mpr (hreached.trans (Nat.mul_le_mul_left _ hraises))

/-- A program that does not refer to itself is expanded. -/
theorem expanded_of_notMem (h : 'i' ∉ program) : Expanded program :=
  fun hrefers => absurd hrefers h

/-- The outcome of an expansion is expanded. -/
theorem expanded_expand (program : List Char) : Expanded (expand program).program := by
  by_cases hrefers : 'i' ∈ program
  · intro _
    obtain ⟨rounds, hresult, -, hreached⟩ :=
      expandFrom_roundText hrefers (budgetFor program) 0
    have htext : (expand program).program = roundText program rounds := by
      show (expandFrom (nestedCopy program) (budgetFor program) 0 program).1 = _
      rw [roundText_zero] at hresult
      rw [hresult]
    have hraises : program.count 'p' ≤ (expand program).program.count 'p' := by
      rw [expand_program_eq]
      exact count_le_count_substitute (by decide) _ _
    calc budgetFor (expand program).program
        ≤ budgetFor program := budgetFor_le_of_count_le hraises
      _ ≤ byteLength (expand program).program := by rwa [htext, byteLength_roundText]
  · have hexpanded := expanded_of_notMem hrefers
    rwa [expand_of_expanded hexpanded]

/-! ### Compiling an expanded program -/

/-- An expanded program is scanned as it is, whether or not it may be expanded. -/
theorem prepare_of_expanded (h : Expanded program) (options : CompileOptions) :
    options.prepare program = program := by
  rw [CompileOptions.prepare, expand_of_expanded h, ite_self]

/-- Where expansion is allowed, what is scanned is the expanded program. -/
theorem prepare_eq_expand (program : List Char) (ink : Ink) :
    ({ allowExpansion := true, ink } : CompileOptions).prepare program =
      (expand program).program := by
  by_cases hrefers : 'i' ∈ program
  · have hrec : isRecursive program = true := List.contains_iff_mem.mpr hrefers
    simp [CompileOptions.prepare, hrec]
  · have hexpanded := expanded_of_notMem hrefers
    rw [prepare_of_expanded hexpanded, expand_of_expanded hexpanded]

/-- An expanded program is compiled to the same grid, whether or not it may be expanded again. -/
theorem compileChars_expand (program : List Char) (allowExpansion : Bool) (ink : Ink) :
    compileChars (expand program).program { allowExpansion, ink } =
      compileChars program { allowExpansion := true, ink } := by
  rw [compileChars, compileChars, prepare_of_expanded (expanded_expand program),
    prepare_eq_expand]

/-! ### Line ends -/

/-- The text does not end in a line feed or a carriage return. -/
def NoLineEnd (text : List Char) : Prop :=
  ∀ c ∈ text.getLast?, c ≠ '\n' ∧ c ≠ '\r'

/-- The last character decides about the line end. -/
theorem noLineEnd_concat {text : List Char} {c : Char} :
    NoLineEnd (text ++ [c]) ↔ c ≠ '\n' ∧ c ≠ '\r' := by
  simp [NoLineEnd]

/-- A copy ends in a command. -/
theorem noLineEnd_append_nthCopy (text program : List Char) (n : Nat) :
    NoLineEnd (text ++ nthCopy program n) := by
  cases n with
  | zero => exact noLineEnd_concat.mpr (by decide)
  | succ n =>
      have hlast : copyClose program =
          List.replicate (2 * program.count 'S' + 1) 'B' ++ ['B'] := by
        rw [copyClose, ← List.replicate_succ']
        congr 1
        omega
      rw [nthCopy, hlast, ← List.append_assoc, ← List.cons_append, ← List.append_assoc]
      exact noLineEnd_concat.mpr (by decide)

/-- Expansion puts no line end at the end. -/
theorem noLineEnd_expand (h : NoLineEnd program) : NoLineEnd (expand program).program := by
  rw [expand_program_eq]
  rcases List.eq_nil_or_concat' program with rfl | ⟨text, c, rfl⟩
  · exact h
  · rw [substitute_append]
    by_cases hc : c = 'i'
    · subst hc
      rw [substitute_recurse, substitute_nil, List.append_nil]
      exact noLineEnd_append_nthCopy _ _ _
    · rw [substitute_cons_of_ne hc, substitute_nil]
      exact noLineEnd_concat.mpr (noLineEnd_concat.mp h)

namespace CommandLine

/-- A line feed that is put at the end of a text is taken away again. -/
theorem trimLineEnds_concat {text : List Char} (h : NoLineEnd text) :
    trimLineEnds (text ++ ['\n']) = text := by
  rw [trimLineEnds, List.reverse_append, List.reverse_singleton, List.singleton_append,
    List.dropWhile_cons_of_pos (by decide)]
  rcases List.eq_nil_or_concat' text with rfl | ⟨text, c, rfl⟩
  · rfl
  · obtain ⟨hfeed, hreturn⟩ := noLineEnd_concat.mp h
    rw [List.reverse_append, List.reverse_singleton, List.singleton_append,
      List.dropWhile_cons_of_neg (by simp [hfeed, hreturn]), List.reverse_cons,
      List.reverse_reverse]

/-- A text is read from its own bytes. -/
theorem fromUTF8?_toUTF8 (text : String) : String.fromUTF8? text.toUTF8 = some text := by
  rw [String.fromUTF8?, String.toUTF8_eq_toByteArray, dif_pos text.isValidUTF8]
  rfl

/-- A program that is printed on a line of its own is read from that line. -/
theorem programOfInput?_line (h : NoLineEnd program) :
    programOfInput? (String.ofList program ++ "\n").toUTF8 = some program := by
  have hline : (String.ofList program ++ "\n").toList = program ++ ['\n'] := by simp
  rw [programOfInput?, fromUTF8?_toUTF8, Option.map_some, hline, trimLineEnds_concat h]

/-! ### One command line after another -/

/-- Three command lines with the same options, but for these: the first draws a program with its
self-references expanded, the second prints the expanded program, and the third draws the program
of its input, with or without expansion. -/
structure SameOptions (settings : Settings) (noExpand : Bool)
    (drawing printing redrawing : List String) : Prop where
  /-- What the first one asks for. -/
  draws : Request.ofArguments drawing =
    .ok (.run { settings with noExpand := false, expanded := false })
  /-- What the second one asks for. -/
  prints : Request.ofArguments printing =
    .ok (.run { settings with noExpand := false, expanded := true })
  /-- What the third one asks for. -/
  redraws : Request.ofArguments redrawing =
    .ok (.run { settings with program := none, noExpand, expanded := false })

/-- A command line is answered by the run that it asks for. -/
theorem answer_eq_run {arguments : List String} {settings : Settings} {input : ByteArray}
    {terminal : Terminal} (hasks : Request.ofArguments arguments = .ok (.run settings))
    (hlight : settings.hasGoodLightness = true)
    (hprogram : settings.programOr input = .ok program) :
    answer arguments input terminal = .ok (settings.perform terminal program) := by
  rw [answer, hasks]
  show settings.run input terminal = _
  rw [Settings.run, if_pos hlight, hprogram]
  rfl

/-- Where no program is given, it is the one of the input. -/
theorem programOr_of_input {settings : Settings} {input : ByteArray}
    (hnone : settings.program = none) (hread : programOfInput? input = some program) :
    settings.programOr input = .ok program := by
  rw [Settings.programOr, hnone]
  simp only [hread]

/-- The expanded program that is printed is drawn in the same way as the program. -/
theorem answer_redrawing {settings : Settings} {noExpand : Bool}
    {drawing printing redrawing : List String} {input : ByteArray} {terminal : Terminal}
    (h : SameOptions settings noExpand drawing printing redrawing)
    (hlight : settings.hasGoodLightness = true)
    (hprogram : settings.programOr input = .ok program) (hend : NoLineEnd program) :
    ∃ printed drawn redrawn : Result,
      answer printing input terminal = .ok printed ∧ answer drawing input terminal = .ok drawn ∧
        answer redrawing printed.output.toUTF8 terminal = .ok redrawn ∧
        printed.output = String.ofList (expand program).program ++ "\n" ∧
        drawn.output = settings.render terminal
          (compileChars program { allowExpansion := true, ink := settings.options.ink }) ∧
        redrawn.output = drawn.output := by
  let again : Settings := { settings with program := none, noExpand, expanded := false }
  have hread : again.programOr (String.ofList (expand program).program ++ "\n").toUTF8 =
      .ok (expand program).program :=
    programOr_of_input rfl (programOfInput?_line (noLineEnd_expand hend))
  refine ⟨_, _, _, answer_eq_run h.prints hlight hprogram, answer_eq_run h.draws hlight hprogram,
    answer_eq_run h.redraws hlight hread, rfl, rfl, ?_⟩
  show settings.render terminal _ = settings.render terminal _
  apply congrArg (settings.render terminal)
  exact compileChars_expand program _ _

end CommandLine

/-- What it means that a program is expanded once and for all. -/
structure ExpandedForGood (program : String) : Prop where
  /-- Expanding the expanded program takes no round and leaves it as it is. -/
  again : expand (expand program.toList).program =
    { program := (expand program.toList).program
      rounds := 0
      budget := budgetFor (expand program.toList).program }
  /-- The expanded program is compiled to the grid of the program, whether or not it may be
  expanded. -/
  compiled : ∀ (allowExpansion : Bool) (ink : Ink),
    compile (String.ofList (expand program.toList).program) { allowExpansion, ink } =
      compile program { allowExpansion := true, ink }
  /-- Unless the program ends in a line end, printing the expanded program and drawing what was
  printed gives the output of drawing the program, with all other options the same and on the same
  terminal. -/
  redrawn : NoLineEnd program.toList →
    ∀ (settings : CommandLine.Settings) (noExpand : Bool)
      (drawing printing redrawing : List String) (input : ByteArray)
      (terminal : CommandLine.Terminal),
      CommandLine.SameOptions settings noExpand drawing printing redrawing →
      settings.hasGoodLightness = true → settings.programOr input = .ok program.toList →
      ∃ printed drawn redrawn : CommandLine.Result,
        CommandLine.answer printing input terminal = .ok printed ∧
          CommandLine.answer drawing input terminal = .ok drawn ∧
          CommandLine.answer redrawing printed.output.toUTF8 terminal = .ok redrawn ∧
          printed.output = String.ofList (expand program.toList).program ++ "\n" ∧
          drawn.output = settings.render terminal
            (compile program { allowExpansion := true, ink := settings.options.ink }) ∧
          redrawn.output = drawn.output

/-- **A program is expanded once and for all**: another expansion changes nothing, compiling the
expanded program gives the grid of the program, and so does a second command line that reads what
the first one printed. -/
theorem expand_stable (program : String) : ExpandedForGood program where
  again := expand_of_expanded (expanded_expand program.toList)
  compiled := by
    intro allowExpansion ink
    rw [compile, compile, String.toList_ofList, compileChars_expand]
  redrawn := fun hend _ _ _ _ _ _ _ hsame hlight hprogram =>
    CommandLine.answer_redrawing hsame hlight hprogram hend

/-- A program with an `S` of its own is drawn as JSON, and its expansion is printed and drawn
again without expansion. -/
theorem expand_stable_json :
    let settings : CommandLine.Settings := { program := some "ppppSbi", format := .json }
    let drawing := ["-f=json", "ppppSbi"]
    let printing := ["--expanded", "-f=json", "ppppSbi"]
    let redrawing := ["-nfjson"]
    let terminal : CommandLine.Terminal := ⟨132, 43⟩
    NoLineEnd "ppppSbi".toList ∧
      CommandLine.SameOptions settings true drawing printing redrawing ∧
      settings.hasGoodLightness = true ∧ settings.programOr .empty = .ok "ppppSbi".toList ∧
      ∃ printed drawn redrawn : CommandLine.Result,
        CommandLine.answer printing .empty terminal = .ok printed ∧
          CommandLine.answer drawing .empty terminal = .ok drawn ∧
          CommandLine.answer redrawing printed.output.toUTF8 terminal = .ok redrawn ∧
          printed.output = String.ofList (expand "ppppSbi".toList).program ++ "\n" ∧
          drawn.output = settings.render terminal
            (compile "ppppSbi" { allowExpansion := true, ink := settings.options.ink }) ∧
          redrawn.output = drawn.output := by
  have hend : NoLineEnd "ppppSbi".toList := by
    intro c hc
    obtain rfl : 'i' = c := by simpa using hc
    decide
  have hsame : CommandLine.SameOptions { program := some "ppppSbi", format := .json } true
      ["-f=json", "ppppSbi"] ["--expanded", "-f=json", "ppppSbi"] ["-nfjson"] := ⟨rfl, rfl, rfl⟩
  have hlight : ({ program := some "ppppSbi", format := .json } :
      CommandLine.Settings).hasGoodLightness = true := by decide
  exact ⟨hend, hsame, hlight, rfl,
    (expand_stable "ppppSbi").redrawn hend _ _ _ _ _ _ _ hsame hlight rfl⟩

end Slab
