import Slab.Proofs.Moves
import Slab.Proofs.Running

/-!
# Flat programs

A program without `S` and without adjacent `B`s stays on one level, and what it describes can be
read off its text. Its `B`s cut it into segments. A segment with a growth in it gives a row: the
raises that follow each other make the row tall (`longestRun`), and those between growths set the
cells apart (`segmentCells`). **`scan_eq_flatRows`** says that scanning gives these rows.

`Level.Holding` is the invariant along a segment: it says what is open on the level once some of
the commands of the segment have been carried out. It is kept by every command (`Holding.obey`),
so it holds at the end of the segment, where the break makes a row of what is open.
-/

namespace Slab

/-! ### What a flat program describes -/

/-- The ink after a command. -/
def Ink.obey (ink : Ink) : Command → Ink
  | .hue hue => ink.select hue
  | .lighten => ink.lighten
  | _ => ink

/-- The ink after some commands. -/
def Ink.after (ink : Ink) (commands : List Command) : Ink :=
  commands.foldl Ink.obey ink

/-- What a command is to the cells of a row. -/
inductive Mark
  /-- It grows, in some colour. -/
  | grown (color : Option Color)
  /-- It sets apart what is grown before and behind it. -/
  | raised
deriving DecidableEq

/-- The colour of what is grown. -/
def Mark.color? : Mark → Option Color
  | .grown color => color
  | .raised => none

/-- What a command is to the cells of a row, if the ink is the given one. -/
def Command.mark? (ink : Ink) : Command → Option Mark
  | .grow => some (.grown ink.color?)
  | .recurse => some (.grown (some .pale))
  | .raise => some .raised
  | _ => none

/-- The growths and raises among some commands. -/
def marks (ink : Ink) : List Command → List Mark
  | [] => []
  | command :: rest => (command.mark? ink).toList ++ marks (ink.obey command) rest

/-- The cell that a group of growths makes: as wide as there are growths, in the colour of the
last one. -/
def groupCell (group : List Mark) : Cell :=
  ⟨group.length, group.getLast?.bind Mark.color?, none⟩

/-- The cells of groups of growths. A group without growths makes none. -/
def groupCells (groups : List (List Mark)) : List Cell :=
  (groups.filter (· ≠ [])).map groupCell

/-- The cells that the commands of a segment make: one for each group of growths between
raises. -/
def segmentCells (ink : Ink) (commands : List Command) : List Cell :=
  groupCells ((marks ink commands).splitOn .raised)

/-- The length of the longest of some lists. -/
def longest {α : Type} (lists : List (List α)) : Nat :=
  (lists.map List.length).foldr max 0

/-- The length of the longest run of raises among some commands. -/
def longestRun (commands : List Command) : Nat :=
  longest (commands.splitOnP (· != .raise))

/-- The row that the commands of a segment make, if there is a growth among them. -/
def segmentRow? (ink : Ink) (commands : List Command) : Option Row :=
  match segmentCells ink commands with
  | [] => none
  | cells => some ⟨1 + longestRun commands, cells⟩

/-- The rows that segments make, one after another. The ink is carried over. -/
def flatRows (ink : Ink) : List (List Char) → List Row
  | [] => []
  | segment :: segments =>
    (segmentRow? ink (commands segment)).toList ++ flatRows (ink.after (commands segment)) segments

/-! ### One more command -/

/-- The ink after one more command. -/
theorem Ink.after_concat (ink : Ink) (commands : List Command) (command : Command) :
    ink.after (commands ++ [command]) = (ink.after commands).obey command := by
  simp [Ink.after]

/-- One more command adds its mark, if it has one. -/
theorem marks_concat (ink : Ink) (commands : List Command) (command : Command) :
    marks ink (commands ++ [command]) =
      marks ink commands ++ (command.mark? (ink.after commands)).toList := by
  induction commands generalizing ink with
  | nil => simp [marks, Ink.after]
  | cons first commands ih =>
      rw [List.cons_append, marks, ih, marks, List.append_assoc]
      rfl

/-- An item at the end that cuts the list starts a new part. -/
theorem splitOnP_concat_of_pos {α : Type} {p : α → Bool} (list : List α) {item : α}
    (hitem : p item = true) : (list ++ [item]).splitOnP p = list.splitOnP p ++ [[]] := by
  rw [List.splitOnP_append_cons list [] hitem, List.splitOnP_nil]

/-- An item at the end that does not cut the list lengthens the last part. -/
theorem splitOnP_concat_of_neg {α : Type} (p : α → Bool) (list : List α) {item : α}
    (hitem : p item = false) : ∃ parts part, list.splitOnP p = parts ++ [part] ∧
      (list ++ [item]).splitOnP p = parts ++ [part ++ [item]] := by
  induction list with
  | nil =>
      refine ⟨[], [], rfl, ?_⟩
      simp [List.splitOnP_cons_eq_if_modifyHead, hitem]
  | cons first list ih =>
      obtain ⟨parts, part, hlist, hmore⟩ := ih
      rw [List.cons_append, List.splitOnP_cons_eq_if_modifyHead first list, hlist,
        List.splitOnP_cons_eq_if_modifyHead first (list ++ [item]), hmore]
      by_cases hfirst : p first = true
      · rw [if_pos hfirst, if_pos hfirst]
        exact ⟨[] :: parts, part, rfl, rfl⟩
      · rw [if_neg hfirst, if_neg hfirst]
        rcases parts with _ | ⟨next, parts⟩
        · exact ⟨[], first :: part, rfl, rfl⟩
        · exact ⟨(first :: next) :: parts, part, rfl, rfl⟩

/-- The longest of some lists and one more. -/
theorem longest_concat {α : Type} (lists : List (List α)) (last : List α) :
    longest (lists ++ [last]) = max (longest lists) last.length := by
  induction lists with
  | nil => simp [longest]
  | cons list lists ih =>
      unfold longest at ih ⊢
      rw [List.cons_append, List.map_cons, List.foldr_cons, ih, List.map_cons, List.foldr_cons,
        Nat.max_assoc]

/-- The cells of some groups and one more. -/
theorem groupCells_concat (groups : List (List Mark)) (group : List Mark) :
    groupCells (groups ++ [group]) =
      groupCells groups ++ if group = [] then [] else [groupCell group] := by
  by_cases h : group = [] <;> simp [groupCells, h]

/-- The length of the run of raises that some commands end with. -/
def lastRun (commands : List Command) : Nat :=
  ((commands.splitOnP (· != .raise)).getLastD []).length

/-- The growths since the last raise. -/
def lastGroup (ink : Ink) (commands : List Command) : List Mark :=
  ((marks ink commands).splitOn .raised).getLastD []

section Concat

variable {ink : Ink} {commands : List Command} {command : Command}

/-- A raise lengthens the last run. -/
theorem runs_concat_raise (commands : List Command) :
    lastRun (commands ++ [.raise]) = lastRun commands + 1 ∧
      longestRun (commands ++ [.raise]) = max (longestRun commands) (lastRun commands + 1) := by
  have hraise : (Command.raise != .raise) = false := rfl
  obtain ⟨runs, run, hruns, hmore⟩ := splitOnP_concat_of_neg (· != .raise) commands hraise
  unfold lastRun longestRun
  rw [hruns, hmore, longest_concat, longest_concat]
  simp only [List.getLastD_concat, List.length_append, List.length_singleton]
  exact ⟨trivial, by omega⟩

/-- Any other command ends the last run. -/
theorem runs_concat_of_ne (commands : List Command) (h : command ≠ .raise) :
    lastRun (commands ++ [command]) = 0 ∧
      longestRun (commands ++ [command]) = longestRun commands := by
  unfold lastRun longestRun
  rw [splitOnP_concat_of_pos commands (by simpa using h), longest_concat]
  simp

/-- A raise starts a new group. -/
theorem groups_concat_raise (ink : Ink) (commands : List Command) :
    lastGroup ink (commands ++ [.raise]) = [] ∧
      segmentCells ink (commands ++ [.raise]) = segmentCells ink commands := by
  have hmarks : marks ink (commands ++ [.raise]) = marks ink commands ++ [.raised] :=
    marks_concat ink commands .raise
  unfold lastGroup segmentCells List.splitOn
  rw [hmarks, splitOnP_concat_of_pos _ (by simp), groupCells_concat]
  simp

/-- A command that neither grows nor raises leaves the groups as they are. -/
theorem groups_concat_of_none (h : command.mark? (ink.after commands) = none) :
    lastGroup ink (commands ++ [command]) = lastGroup ink commands ∧
      segmentCells ink (commands ++ [command]) = segmentCells ink commands := by
  unfold lastGroup segmentCells
  rw [marks_concat, h, Option.toList_none, List.append_nil]
  exact ⟨rfl, rfl⟩

/-- A growth lengthens the last group: it makes a cell or widens the last one. -/
theorem groups_concat_grown {color : Option Color}
    (h : command.mark? (ink.after commands) = some (.grown color)) :
    lastGroup ink (commands ++ [command]) ≠ [] ∧
      (lastGroup ink commands = [] ∧
          segmentCells ink (commands ++ [command]) =
            segmentCells ink commands ++ [⟨1, color, none⟩] ∨
        lastGroup ink commands ≠ [] ∧ ∃ cells last,
          segmentCells ink commands = cells ++ [last] ∧
          segmentCells ink (commands ++ [command]) =
            cells ++ [{ last with width := last.width + 1, color }]) := by
  have hgrown : (Mark.grown color == .raised) = false := rfl
  obtain ⟨groups, group, hgroups, hmore⟩ :=
    splitOnP_concat_of_neg (· == .raised) (marks ink commands) hgrown
  unfold lastGroup segmentCells List.splitOn
  rw [marks_concat, h, Option.toList_some, hgroups, hmore, groupCells_concat, groupCells_concat]
  simp only [List.getLastD_concat]
  refine ⟨by simp, ?_⟩
  by_cases hgroup : group = []
  · left
    subst hgroup
    exact ⟨rfl, by simp [groupCell, Mark.color?]⟩
  · right
    refine ⟨hgroup, groupCells groups, groupCell group, by simp [hgroup], ?_⟩
    simp [groupCell, Mark.color?]

end Concat

/-! ### Along a segment -/

namespace Level

/-- No row is open, and nothing has been said about the next one. -/
structure Fresh (level : Level) : Prop where
  /-- No row is open. -/
  openRow : level.openRow = none
  /-- No raise has just been read. -/
  raiseRun : level.raiseRun = 0
  /-- The next row has height 1. -/
  nextHeight : level.nextHeight = 1

/-- What the commands of a segment make is open on the level, behind rows that are done. -/
structure Holding (level : Level) (rows : List Row) (start : Ink) (commands : List Command) :
    Prop where
  /-- The rows that were done still are all. -/
  done : level.done = rows
  /-- The ink is what the commands make of it. -/
  ink : level.ink = start.after commands
  /-- The last run of raises is the one that is being read. -/
  raiseRun : level.raiseRun = lastRun commands
  /-- The longest run of raises says how tall the row is. -/
  height : level.currentRow.height = 1 + longestRun commands
  /-- The groups of growths are the cells. -/
  cells : level.currentRow.cells = (segmentCells start commands).reverse
  /-- Without growths no row is open. -/
  openRow : level.openRow = none ↔ segmentCells start commands = []
  /-- An open row is not one behind a break. -/
  broke : level.lastMove = .broke → level.openRow = none
  /-- Once there are cells, a raise is pending exactly if nothing was grown since the last one. -/
  pending : segmentCells start commands ≠ [] →
    (level.pending ≠ 0 ↔ lastGroup start commands = [])

variable {level : Level} {rows : List Row} {start : Ink} {commands : List Command}

/-- At the start of a segment nothing is open. -/
theorem Fresh.holding (h : level.Fresh) : level.Holding level.done level.ink [] where
  done := rfl
  ink := rfl
  raiseRun := h.raiseRun
  height := by
    rw [currentRow_of_none h.openRow]
    exact h.nextHeight
  cells := by
    rw [currentRow_of_none h.openRow]
    rfl
  openRow := iff_of_true h.openRow rfl
  broke := fun _ => h.openRow
  pending := fun hcells => absurd rfl hcells

/-- A row is only open where there are cells. -/
theorem Holding.cells_ne_nil (h : level.Holding rows start commands) {row : OpenRow}
    (hopen : level.openRow = some row) : segmentCells start commands ≠ [] := by
  intro hnone
  rw [h.openRow.mpr hnone] at hopen
  cases hopen

/-- A raise is held: it makes the current row taller, whether that is open or not. -/
theorem Holding.raise (h : level.Holding rows start commands) :
    level.raise.Holding rows start (commands ++ [.raise]) := by
  obtain ⟨hrun, hlongest⟩ := runs_concat_raise commands
  obtain ⟨hgroup, hcells⟩ := groups_concat_raise start commands
  have hraiseRun := h.raiseRun
  have hheight := h.height
  have hink : level.ink = start.after (commands ++ [.raise]) := by
    rw [Ink.after_concat]
    exact h.ink
  rcases level.raise_cases with ⟨row, hopen, hmove, hraise⟩ | ⟨hwhere, hraise⟩
  · have hsome := h.cells_ne_nil hopen
    have hrow := h.cells
    rw [currentRow_of_some hopen] at hheight hrow
    rw [hraise]
    exact {
      done := h.done
      ink := hink
      raiseRun := by simp only [hrun, hraiseRun]
      height := by
        show max row.height (level.raiseRun + 2) = _
        omega
      cells := by
        rw [hcells]
        exact hrow
      openRow := by simp [hcells, hsome]
      broke := by simp
      pending := by simp [hgroup] }
  · have hnone : level.openRow = none := hwhere.elim id h.broke
    have hrow := h.cells
    rw [currentRow_of_none hnone] at hheight hrow
    rw [hraise]
    exact {
      done := h.done
      ink := hink
      raiseRun := by simp only [hrun, hraiseRun]
      height := by
        simp only [currentRow, hnone, Option.getD_none] at hheight ⊢
        omega
      cells := by
        simp only [currentRow, hnone, Option.getD_none, hcells]
        exact hrow
      openRow := by
        rw [hcells]
        exact h.openRow
      broke := fun _ => hnone
      pending := by simp [hgroup] }

/-- A growth is held. -/
theorem Holding.grow (h : level.Holding rows start commands) {command : Command}
    {color : Option Color} (hmark : command.mark? (start.after commands) = some (.grown color))
    (hink : start.after (commands ++ [command]) = start.after commands) :
    (level.grow color).Holding rows start (commands ++ [command]) := by
  have hne : command ≠ .raise := by
    rintro rfl
    cases hmark
  obtain ⟨hrun, hlongest⟩ := runs_concat_of_ne commands hne
  obtain ⟨hgroup, hcells⟩ := groups_concat_grown hmark
  have hrow := h.cells
  have hheight := h.height
  have hink' : level.ink = start.after (commands ++ [command]) := h.ink.trans hink.symm
  have hsome : segmentCells start (commands ++ [command]) ≠ [] := by
    rcases hcells with ⟨-, hcells⟩ | ⟨-, cells, last, -, hcells⟩ <;> simp [hcells]
  have hpending : (0 ≠ 0) ↔ lastGroup start (commands ++ [command]) = [] := by simp [hgroup]
  rcases level.grow_cases color with ⟨newest, older, hnewest, hnone, hgrow⟩ | ⟨hnew, hgrow⟩
  · rw [hrow] at hnewest
    have hold : segmentCells start commands ≠ [] := by
      intro hempty
      rw [hempty] at hnewest
      cases hnewest
    rw [hgrow]
    exact {
      done := h.done
      ink := hink'
      raiseRun := hrun.symm
      height := by
        rw [hlongest]
        exact hheight
      cells := by
        rcases hcells with ⟨hlast, -⟩ | ⟨-, cells, last, hbefore, hafter⟩
        · exact absurd hnone ((h.pending hold).mpr hlast)
        · rw [hbefore, List.reverse_concat] at hnewest
          cases hnewest
          rw [hafter, List.reverse_concat]
          rfl
      openRow := by simp [hsome]
      broke := by simp
      pending := fun _ => hpending }
  · rw [hgrow]
    exact {
      done := h.done
      ink := hink'
      raiseRun := hrun.symm
      height := by
        rw [hlongest]
        exact hheight
      cells := by
        rcases hcells with ⟨-, hafter⟩ | ⟨hlast, cells, last, hbefore, -⟩
        · rw [hafter, List.reverse_concat, ← hrow]
          rfl
        · rcases hnew with hempty | hraised
          · rw [hrow, hbefore] at hempty
            simp at hempty
          · have hold : segmentCells start commands ≠ [] := by simp [hbefore]
            exact absurd ((h.pending hold).mp hraised) hlast
      openRow := by simp [hsome]
      broke := by simp
      pending := fun _ => hpending }

/-- A command that neither grows nor raises nor breaks the row only changes the ink and ends the
run of raises. -/
theorem Holding.other (h : level.Holding rows start commands) (command : Command)
    (hmark : command.mark? (start.after commands) = none) :
    ({ level with ink := level.ink.obey command, raiseRun := 0 } : Level).Holding rows start
      (commands ++ [command]) := by
  have hne : command ≠ .raise := by
    rintro rfl
    cases hmark
  obtain ⟨hrun, hlongest⟩ := runs_concat_of_ne commands hne
  obtain ⟨hgroup, hcells⟩ := groups_concat_of_none hmark
  exact {
    done := h.done
    ink := by rw [Ink.after_concat, h.ink]
    raiseRun := hrun.symm
    height := by
      rw [hlongest]
      exact h.height
    cells := by
      rw [hcells]
      exact h.cells
    openRow := by
      rw [hcells]
      exact h.openRow
    broke := h.broke
    pending := by
      rw [hcells, hgroup]
      exact h.pending }

/-- Every command of a segment is held. -/
theorem Holding.obey (h : level.Holding rows start commands) {command : Command}
    (hbreak : command ≠ .breakRow) (hnest : command ≠ .nest) :
    (level.obey command).Holding rows start (commands ++ [command]) := by
  cases command with
  | breakRow => exact absurd rfl hbreak
  | nest => exact absurd rfl hnest
  | grow =>
      refine h.grow ?_ (Ink.after_concat _ _ _)
      rw [← h.ink]
      rfl
  | recurse => exact h.grow rfl (Ink.after_concat _ _ _)
  | raise => exact h.raise
  | hue hue => exact h.other (.hue hue) rfl
  | lighten => exact h.other .lighten rfl
  | modeShift => exact h.other .modeShift rfl
  | modeReset => exact h.other .modeReset rfl

/-- All commands of a segment are held. -/
theorem Holding.foldl (h : level.Holding rows start commands) {more : List Command}
    (hbreak : .breakRow ∉ more) (hnest : .nest ∉ more) :
    (more.foldl Level.obey level).Holding rows start (commands ++ more) := by
  induction more generalizing level commands with
  | nil => simpa using h
  | cons command more ih =>
      rw [List.mem_cons, not_or] at hbreak hnest
      have hfirst := h.obey (Ne.symm hbreak.1) (Ne.symm hnest.1)
      simpa using ih hfirst hbreak.2 hnest.2

/-- At the end of a segment, its row is behind those that are done, if it makes one. -/
theorem Holding.allRows (h : level.Holding rows start commands) :
    level.allRows = (segmentRow? start commands).toList ++ rows := by
  have hcells := h.cells
  have hheight := h.height
  rcases hopen : level.openRow with _ | row
  · rw [allRows_of_none hopen, h.done, segmentRow?, h.openRow.mp hopen]
    rfl
  · obtain ⟨first, others, hfirst⟩ := List.exists_cons_of_ne_nil (h.cells_ne_nil hopen)
    rw [currentRow_of_some hopen] at hcells hheight
    rw [allRows_of_some hopen, h.done, segmentRow?, hfirst, OpenRow.close, hcells, hheight, hfirst,
      List.reverse_reverse]
    rfl

/-- Behind a break a level is fresh. -/
theorem fresh_breakRow (level : Level) : level.breakRow.Fresh :=
  ⟨rfl, rfl, rfl⟩

end Level

/-! ### From the text to its segments -/

/-- The command that a unit is, if it is one. -/
def Lexeme.command? : Lexeme → Option Command
  | .command letter => some letter
  | _ => none

/-- A unit on its own has the command of its character. -/
theorem Lexeme.command?_ofChar (c : Char) : (Lexeme.ofChar c).command? = Command.ofChar? c := by
  unfold Lexeme.ofChar
  rcases Command.ofChar? c with _ | command <;> rfl

/-- Without adjacent `B`s, the commands among the units are those of the text. -/
theorem filterMap_command?_lexemes {text : List Char} (h : ¬['B', 'B'] <:+: text) :
    (lexemes text).filterMap Lexeme.command? = commands text := by
  induction text using unit_induction with
  | nil => rfl
  | pair rest ih => exact absurd (List.prefix_append ['B', 'B'] rest).isInfix h
  | single c rest hB ih =>
      have hrest : ¬['B', 'B'] <:+: rest := by
        intro hpair
        exact h (hpair.trans (List.suffix_cons c rest).isInfix)
      rw [lexemes_single hB, List.filterMap_cons, Lexeme.command?_ofChar, ih hrest, commands,
        commands, List.filterMap_cons]

namespace Builder

/-- A run without brackets carries out its commands on the level it starts with. -/
theorem run_eq_foldl_obey {units : List Lexeme} (hclose : Lexeme.close ∉ units)
    (hnest : Lexeme.command .nest ∉ units) (level : Level) (outer : List Suspended) :
    (⟨level, outer⟩ : Builder).run units =
      ⟨(units.filterMap Lexeme.command?).foldl Level.obey level, outer⟩ := by
  induction units generalizing level with
  | nil => rfl
  | cons unit units ih =>
      rw [List.mem_cons, not_or] at hclose hnest
      rw [run_cons, step_eq_modify _ (Ne.symm hclose.1) (Ne.symm hnest.1)]
      have hrest := ih hclose.2 hnest.2
      rcases unit with _ | command | char
      · exact absurd rfl hclose.1
      · exact hrest (level.obey command)
      · exact hrest level

end Builder

/-- The commands of a text are those of its parts. -/
theorem commands_append (text more : List Char) :
    commands (text ++ more) = commands text ++ commands more :=
  List.filterMap_append

/-- A command is among those of a text exactly if its letter is in the text. -/
theorem mem_commands {command : Command} {text : List Char} :
    command ∈ commands text ↔ command.letter ∈ text := by
  unfold commands
  rw [List.mem_filterMap]
  constructor
  · rintro ⟨c, hc, hcommand⟩
    rwa [← Command.eq_letter_of_ofChar? hcommand]
  · intro hletter
    exact ⟨_, hletter, Command.ofChar?_letter command⟩

namespace Level

/-- Segment by segment, a fresh level gets the rows that the segments make. -/
theorem allRows_foldl_obey (program : List Char) (hnest : 'S' ∉ program) {level : Level}
    (h : level.Fresh) :
    ((commands program).foldl Level.obey level).allRows =
      (flatRows level.ink (program.splitOn 'B')).reverse ++ level.done := by
  induction hn : program.length using Nat.strongRecOn generalizing program level with
  | ind n ih =>
      subst hn
      have hsegment : ∀ segment : List Char, 'B' ∉ segment → 'S' ∉ segment →
          ((commands segment).foldl Level.obey level).Holding level.done level.ink
            (commands segment) := by
        intro segment hB hS
        exact h.holding.foldl (fun hmem => hB (mem_commands.mp hmem))
          (fun hmem => hS (mem_commands.mp hmem))
      have hcut : ∀ segment : List Char, 'B' ∉ segment → ∀ c ∈ segment, (c == 'B') = false := by
        intro segment hB c hc
        rw [beq_eq_false_iff_ne]
        rintro rfl
        exact hB hc
      by_cases hB : 'B' ∈ program
      · obtain ⟨segment, rest, rfl, hfirst⟩ := List.eq_append_cons_of_mem hB
        simp only [List.mem_append, List.mem_cons, not_or] at hnest
        have hholding := hsegment segment hfirst hnest.1
        have hsplit : (segment ++ 'B' :: rest).splitOn 'B' = segment :: rest.splitOn 'B' :=
          List.splitOnP_append_cons_of_forall_mem (hcut segment hfirst) 'B' rfl rest
        have hcommands : commands (segment ++ 'B' :: rest) =
            commands segment ++ .breakRow :: commands rest := commands_append _ _
        have hrest := ih rest.length (by simp; omega) rest hnest.2.2
          (fresh_breakRow ((commands segment).foldl Level.obey level)) rfl
        rw [hcommands, hsplit, List.foldl_append, List.foldl_cons]
        refine hrest.trans ?_
        show (flatRows ((commands segment).foldl Level.obey level).ink _).reverse ++
          Level.allRows _ = _
        rw [hholding.allRows, hholding.ink, flatRows, List.reverse_append, List.append_assoc]
        rcases segmentRow? level.ink (commands segment) with _ | row <;> rfl
      · have hsplit : program.splitOn 'B' = [program] :=
          List.splitOnP_eq_singleton (hcut program hB)
        rw [hsplit, (hsegment program hB hnest).allRows, flatRows, flatRows, List.append_nil]
        rcases segmentRow? level.ink (commands program) with _ | row <;> rfl

end Level

/-- **Flat programs in closed form**: without `S` and without adjacent `B`s, a program describes
the rows that its segments make, where each `B` ends a segment. -/
theorem scan_eq_flatRows (program : List Char) (ink : Ink) (hnest : 'S' ∉ program)
    (hpair : ¬['B', 'B'] <:+: program) :
    scan program ink = ⟨flatRows ink (program.splitOn 'B')⟩ := by
  have hopen : Lexeme.command .nest ∉ lexemes program := by
    rw [← List.count_eq_zero, count_lexemes _ (by decide)]
    exact List.count_eq_zero.mpr hnest
  have hfresh : (Level.start ink).Fresh := ⟨rfl, rfl, rfl⟩
  have hrows := Level.allRows_foldl_obey program hnest hfresh
  rw [scan_eq, Builder.start, Builder.run_eq_foldl_obey (close_notMem_lexemes hpair) hopen,
    filterMap_command?_lexemes hpair, Builder.unwind_nil]
  apply Level.finish_eq
  rw [hrows]
  exact List.append_nil _

/-- Three segments, of which the second has no growth in it: noise does not end a run of raises, a
change of the ink does not end a group, and the ink is carried over. -/
theorem scan_eq_flatRows_threeSegments :
    'S' ∉ "rbpxpbhyiBppBibbp".toList ∧ ¬['B', 'B'] <:+: "rbpxpbhyiBppBibbp".toList ∧
      scan "rbpxpbhyiBppBibbp".toList {} =
        ⟨[⟨3, [⟨1, Hue.red.base.map (·.lighten 1), none⟩, ⟨2, some .pale, none⟩]⟩,
          ⟨2, [⟨3, Hue.yellow.base.map (·.lighten (1 + Ink.step)), none⟩]⟩]⟩ := by
  have hnest : 'S' ∉ "rbpxpbhyiBppBibbp".toList := by decide +kernel
  have hpair : ¬['B', 'B'] <:+: "rbpxpbhyiBppBibbp".toList := by decide +kernel
  refine ⟨hnest, hpair, ?_⟩
  rw [scan_eq_flatRows _ _ hnest hpair]
  rfl

end Slab
