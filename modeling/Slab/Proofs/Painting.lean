import Mathlib.Data.List.Chain
import Slab.Paint
import Slab.Proofs.Codes
import Slab.Proofs.Filling

/-!
# Paintings can be read

A line of a canvas is painted run by run, and the runs are maximal (`maximalRuns_runs`) and stand
for all of the line (`spread_runs`). The text shows what was painted: a colour code ends with its
`m`, the blanks of a run end where the next code begins, and a line ends with the only code that
sets no colour. So there is only one way to read a line as runs and a painting as lines
(`unambiguous_lineChars`, `unambiguous_flatMap_lineChars`). **`paint_readable`** says what is read
is the canvas.
-/

namespace Slab

/-! ### Runs -/

section Runs

variable {α : Type}

/-- What some runs stand for: each item as often as it is counted. -/
def spread (runs : List (α × Nat)) : List α :=
  runs.flatMap fun run => List.replicate run.2 run.1

/-- Runs that are as long as they can be. -/
structure MaximalRuns (runs : List (α × Nat)) : Prop where
  /-- No run is empty. -/
  positive : ∀ run ∈ runs, 1 ≤ run.2
  /-- Neighbours differ. -/
  differ : runs.IsChain fun run next => run.1 ≠ next.1

variable [DecidableEq α]

/-- One more item in front. -/
theorem spread_consRun (item : α) (runs : List (α × Nat)) :
    spread (consRun item runs) = item :: spread runs := by
  unfold spread
  rcases runs with _ | ⟨⟨first, count⟩, runs⟩
  · rfl
  · by_cases h : item = first
    · subst h
      rw [consRun, if_pos rfl, List.flatMap_cons, List.flatMap_cons, List.replicate_succ,
        List.cons_append]
    · rw [consRun, if_neg h, List.flatMap_cons]
      rfl

/-- An item in front lengthens the first run or starts one that differs from it. -/
theorem MaximalRuns.consRun {runs : List (α × Nat)} (h : MaximalRuns runs) (item : α) :
    MaximalRuns (consRun item runs) := by
  rcases runs with _ | ⟨⟨first, count⟩, runs⟩
  · exact ⟨by simp [Slab.consRun], List.isChain_singleton _⟩
  · obtain ⟨hpositive, hdiffer⟩ := h
    rw [List.forall_mem_cons] at hpositive
    by_cases hitem : item = first
    · rw [Slab.consRun, if_pos hitem]
      rw [List.isChain_cons] at hdiffer
      exact ⟨List.forall_mem_cons.mpr ⟨Nat.le_add_left 1 count, hpositive.2⟩,
        List.isChain_cons.mpr hdiffer⟩
    · rw [Slab.consRun, if_neg hitem]
      exact ⟨List.forall_mem_cons.mpr ⟨Nat.le_refl 1, List.forall_mem_cons.mpr hpositive⟩,
        List.isChain_cons_cons.mpr ⟨hitem, hdiffer⟩⟩

/-- The runs of a list stand for the list. -/
theorem spread_runs (items : List α) : spread (runs items) = items := by
  induction items with
  | nil => rfl
  | cons item items ih => rw [runs, List.foldr_cons, spread_consRun, ← runs, ih]

/-- And so for several lists. -/
theorem map_spread_map_runs (lists : List (List α)) : (lists.map runs).map spread = lists := by
  rw [List.map_map]
  exact (List.map_congr_left fun items _ => spread_runs items).trans (List.map_id lists)

/-- The runs of a list are as long as they can be. -/
theorem maximalRuns_runs (items : List α) : MaximalRuns (runs items) := by
  induction items with
  | nil => exact ⟨by simp [runs], List.isChain_nil⟩
  | cons item items ih => exact ih.consRun item

end Runs

/-! ### Codes -/

/-- A run as it is painted: the code of its colour and a blank for each point. -/
def runChars (run : Color × Nat) : List Char :=
  backgroundCode run.1 ++ List.replicate run.2 ' '

/-- A line as it is painted: its runs, a reset and a line feed. -/
def lineChars (runs : List (Color × Nat)) : List Char :=
  runs.flatMap runChars ++ (resetCode ++ ['\n'])

/-- A line of colours is painted as its runs. -/
theorem paintLine_eq (colors : List Color) : paintLine colors = lineChars (runs colors) := by
  rw [paintLine, List.append_assoc]
  rfl

/-- A colour code and what follows it. -/
theorem backgroundCode_append (color : Color) (rest : List Char) :
    backgroundCode color ++ rest =
      "\x1b[48;2;".toList ++ (decimal color.red.toNat ++ ';' :: (decimal color.green.toNat ++
        ';' :: (decimal color.blue.toNat ++ 'm' :: rest))) := by
  unfold backgroundCode
  simp only [List.append_assoc, List.cons_append, List.nil_append]

/-- A colour is known from its code, whatever follows. -/
theorem backgroundCode_append_inj {color other : Color} {rest rest' : List Char}
    (h : backgroundCode color ++ rest = backgroundCode other ++ rest') :
    color = other ∧ rest = rest' := by
  rw [backgroundCode_append, backgroundCode_append] at h
  obtain ⟨hred, -, h⟩ := decimal_append_inj (by decide) (by decide) (List.append_cancel_left h)
  obtain ⟨hgreen, -, h⟩ := decimal_append_inj (by decide) (by decide) h
  obtain ⟨hblue, -, hrest⟩ := decimal_append_inj (by decide) (by decide) h
  obtain ⟨red, green, blue⟩ := color
  obtain ⟨red', green', blue'⟩ := other
  obtain rfl : red = red' := UInt8.toNat_inj.mp hred
  obtain rfl : green = green' := UInt8.toNat_inj.mp hgreen
  obtain rfl : blue = blue' := UInt8.toNat_inj.mp hblue
  exact ⟨rfl, hrest⟩

/-- A run is known from its text, if another code follows. -/
theorem unambiguous_runChars (run : Color × Nat) :
    Unambiguous runChars id (fun rest => ∃ more, rest = '\x1b' :: more) run := by
  rintro other rest rest' ⟨more, rfl⟩ ⟨more', rfl⟩ h
  rw [runChars, runChars, List.append_assoc, List.append_assoc] at h
  obtain ⟨hcolor, hblanks⟩ := backgroundCode_append_inj h
  obtain ⟨hcount, -, hmore⟩ := replicate_append_inj (by decide) (by decide) hblanks
  exact ⟨Prod.ext hcolor hcount, congrArg _ hmore⟩

/-- Some runs are known from their text, if a reset follows. -/
theorem unambiguous_flatMap_runChars (runs : List (Color × Nat)) :
    Unambiguous (fun runs => runs.flatMap runChars) (List.map id)
      (fun rest => ∃ more, rest = resetCode ++ more) runs := by
  refine Unambiguous.flatMap (fun run _ => unambiguous_runChars run) ?next ?ends ?stop
  case next => exact fun run rest => ⟨_, rfl⟩
  case ends =>
    rintro rest ⟨more, rfl⟩
    exact ⟨_, rfl⟩
  case stop =>
    -- a colour code goes on with `4` where a reset has `0`
    rintro run rest ⟨more, h⟩
    have hthird : some '4' = some '0' := congrArg (fun text => text[2]?) h
    exact absurd hthird (by decide)

/-- A line is known from its text, whatever follows. -/
theorem unambiguous_lineChars (runs : List (Color × Nat)) :
    Unambiguous lineChars id (fun _ => True) runs := by
  intro other rest rest' _ _ h
  simp only [lineChars, List.append_assoc] at h
  obtain ⟨hruns, hrests⟩ := unambiguous_flatMap_runChars runs other _ _ ⟨_, rfl⟩ ⟨_, rfl⟩ h
  rw [List.map_id, List.map_id] at hruns
  exact ⟨hruns, List.append_cancel_left (List.append_cancel_left hrests)⟩

/-- Lines are known from their text. -/
theorem unambiguous_flatMap_lineChars (lines : List (List (Color × Nat))) :
    Unambiguous (fun lines => lines.flatMap lineChars) (List.map id) (· = []) lines := by
  refine Unambiguous.flatMap (fun line _ => unambiguous_lineChars line) (fun _ _ => trivial)
    (fun _ _ => trivial) ?_
  intro line rest
  simp [lineChars]

/-- So there is only one way to read a text as lines. -/
theorem flatMap_lineChars_inj {lines reading : List (List (Color × Nat))}
    (h : lines.flatMap lineChars = reading.flatMap lineChars) : lines = reading := by
  obtain ⟨hlines, -⟩ :=
    unambiguous_flatMap_lineChars lines reading [] [] rfl rfl (congrArg (· ++ []) h)
  rwa [List.map_id, List.map_id] at hlines

/-- A line has one line feed, at its end. -/
theorem count_lineFeed_lineChars (runs : List (Color × Nat)) : (lineChars runs).count '\n' = 1 := by
  have hdecimal (n : Nat) : '\n' ∉ decimal n := fun hmem => by
    have hdigit := isDigit_of_mem_decimal hmem
    exact absurd hdigit (by decide)
  have hruns : '\n' ∉ runs.flatMap runChars := by
    intro hmem
    obtain ⟨run, -, hrun⟩ := List.mem_flatMap.mp hmem
    rw [runChars, backgroundCode_append] at hrun
    simp [hdecimal] at hrun
  rw [lineChars, List.count_append, List.count_eq_zero_of_not_mem hruns]
  rfl

/-- Lines have as many line feeds as there are lines. -/
theorem count_lineFeed_flatMap_lineChars (lines : List (List (Color × Nat))) :
    (lines.flatMap lineChars).count '\n' = lines.length := by
  induction lines with
  | nil => rfl
  | cons line lines ih =>
      rw [List.flatMap_cons, List.count_append, count_lineFeed_lineChars, ih, Nat.add_comm]
      rfl

namespace Canvas

variable {width height : Nat}

/-- A canvas is painted as the runs of its rows. -/
theorem paintChars_eq (canvas : Canvas width height) :
    canvas.paintChars = (canvas.toLines.map runs).flatMap lineChars := by
  rw [paintChars, List.flatMap_map]
  exact congrArg (List.flatMap · canvas.toLines) (funext paintLine_eq)

/-- Canvases have the same rows if they have the same points. -/
theorem toLines_inj {canvas other : Canvas width height} :
    canvas.toLines = other.toLines ↔
      ∀ col row, col < width → row < height → canvas.get col row = other.get col row := by
  simp only [toLines, line, List.map_inj_left, List.mem_range]
  exact ⟨fun h col row hcol hrow => h row hrow col hcol,
    fun h row hrow col hcol => h col row hcol hrow⟩

/-- **Paintings can be read.** The painting of a canvas has a line for each row. It can be read in
only one way as lines of runs, each a colour code with blanks, and each line ended by a reset and a
line feed. In that reading no run is empty, no run has the colour of the one before, and the runs
of a line stand for the colours of the row. So canvases of one size have the same painting, byte by
byte, if and only if they have the same points. -/
theorem paint_readable (width height : Nat) :
    (∀ canvas : Canvas width height, ∃ lines : List (List (Color × Nat)),
      canvas.paint = String.ofList (lines.flatMap lineChars) ∧
        (∀ reading : List (List (Color × Nat)),
          canvas.paint = String.ofList (reading.flatMap lineChars) → reading = lines) ∧
        lines.length = height ∧ canvas.paintChars.count '\n' = height ∧
        (∀ line ∈ lines, MaximalRuns line) ∧
        lines.map spread =
          (List.range height).map fun row => (List.range width).map (canvas.get · row)) ∧
      ∀ canvas other : Canvas width height, canvas.paint.toUTF8 = other.paint.toUTF8 ↔
        ∀ col row, col < width → row < height → canvas.get col row = other.get col row := by
  constructor
  · intro canvas
    have hlength : (canvas.toLines.map runs).length = height := by
      rw [List.length_map, toLines, List.length_map, List.length_range]
    refine ⟨canvas.toLines.map runs, congrArg String.ofList canvas.paintChars_eq, ?only, hlength,
      ?feeds, ?maximal, map_spread_map_runs _⟩
    case only =>
      intro reading hreading
      rw [paint, String.ofList_inj, paintChars_eq] at hreading
      exact (flatMap_lineChars_inj hreading).symm
    case feeds => rw [paintChars_eq, count_lineFeed_flatMap_lineChars, hlength]
    case maximal =>
      intro line hline
      obtain ⟨colors, -, rfl⟩ := List.mem_map.mp hline
      exact maximalRuns_runs colors
  · intro canvas other
    rw [String.toUTF8, String.toUTF8, String.toByteArray_inj, paint, paint, String.ofList_inj,
      paintChars_eq, paintChars_eq, ← toLines_inj]
    constructor
    · intro h
      have hlines := congrArg (List.map spread) (flatMap_lineChars_inj h)
      rwa [map_spread_map_runs, map_spread_map_runs] at hlines
    · intro h
      rw [h]

/-- One point that differs shows in the painting. -/
theorem paint_readable_onePoint :
    (blank 2 1).paint.toUTF8 ≠ ((blank 2 1).set 1 0 ⟨220, 38, 38⟩).paint.toUTF8 := by
  rw [ne_eq, (paint_readable 2 1).2]
  intro h
  exact absurd (h 1 0 (by decide) (by decide)) (by decide)

end Canvas

end Slab
