import Slab.CommandLine.Run
import Slab.Proofs.Accepted

/-!
# Reading undoes writing

A grid is written as JSON without blanks, on many lines, or by a run of the program (`JsonText`).
**`json_round_trip`** says that every such text is read as the grid that was written, unless its
brackets nest deeper than is allowed, and that then it is malformed; that for a compiled grid the
depth tells which; and that what was read from any text at all can be written and read again.
-/

namespace Slab

open CommandLine Json

/-- The JSON texts of a grid. -/
inductive JsonText (grid : Grid) : String → Prop
  /-- Without blanks. -/
  | compact : JsonText grid grid.toJson
  /-- With a line for every item. -/
  | pretty : JsonText grid grid.toPrettyJson
  /-- As a run prints it, on any terminal. -/
  | printed (settings : Settings) (terminal : Terminal) (h : settings.format = .json) :
    JsonText grid (settings.render terminal grid)

/-- A JSON text comes from a layout, and only blanks follow. -/
theorem JsonText.exists_layout {grid : Grid} {text : String} (h : JsonText grid text) :
    ∃ layout tail, Layout.Blanks layout ∧ Blank tail ∧
      text.toList = layout.gridText 0 grid ++ tail := by
  cases h with
  | compact =>
      refine ⟨.compact, [], Layout.blanks_compact, blank_nil, ?_⟩
      rw [Grid.toJson, String.toList_ofList, List.append_nil]
  | pretty =>
      refine ⟨.pretty, [], Layout.blanks_pretty, blank_nil, ?_⟩
      rw [Grid.toPrettyJson, String.toList_ofList, List.append_nil]
  | printed settings terminal h =>
      refine ⟨.pretty, ['\n'], Layout.blanks_pretty, ?_, ?_⟩
      · intro c hc
        obtain rfl := List.mem_singleton.mp hc
        rfl
      · rw [Settings.render, h]
        show (grid.toPrettyJson ++ "\n").toList = _
        rw [String.toList_append, Grid.toPrettyJson, String.toList_ofList]
        rfl

variable {grid : Grid} {text : String}

/-- The brackets of a JSON text can be told from the tree. -/
theorem JsonText.nesting_eq (h : JsonText grid text) : nesting text.toList = grid.nesting := by
  obtain ⟨layout, tail, hlayout, htail, htext⟩ := h.exists_layout
  rw [htext, ((Layout.nests_gridText hlayout grid 0).append htail.nests).nesting_eq]
  exact Nat.max_zero _

/-- A JSON text is read by a reader that allows so many brackets if it has no more. -/
theorem JsonText.whole (h : JsonText grid text) (hfits : grid.Fits) (n : Nat) :
    (grid.nesting ≤ n → (gridReader n).whole text.toList = .ok grid) ∧
      (¬grid.nesting ≤ n → (gridReader n).whole text.toList = .error .malformed) := by
  obtain ⟨layout, tail, hlayout, htail, htext⟩ := h.exists_layout
  have hstops : Stops tail := by
    have happend := htail.stops stops_nil
    rwa [List.append_nil] at happend
  have hend : skipBlanks tail = [] := by
    have hdrop : (tail ++ []).dropWhile Json.isBlank = [] := List.dropWhile_append_of_pos htail
    rwa [List.append_nil] at hdrop
  obtain ⟨hread, hdeep⟩ := Layout.gives_gridText hlayout hfits 0 n [] tail blank_nil hstops
  rw [List.nil_append, ← htext] at hread hdeep
  unfold Reader.whole
  constructor
  · intro hn
    rw [hread hn]
    dsimp only
    rw [if_pos hend]
  · intro hn
    rw [hdeep hn]

/-- Only one grid has a text. -/
theorem JsonText.unique {other : Grid} (h : JsonText grid text) (hother : JsonText other text)
    (hfits : grid.Fits) (hotherFits : other.Fits) : grid = other := by
  have hsame : grid.nesting = other.nesting := h.nesting_eq.symm.trans hother.nesting_eq
  have hread := (h.whole hfits grid.nesting).1 (Nat.le_refl _)
  rw [(hother.whole hotherFits grid.nesting).1 (Nat.le_of_eq hsame.symm)] at hread
  exact (Except.ok.inj hread).symm

/-- What is read from any text fits 32 bits and nests within the limit. -/
theorem Grid.fits_of_ofJson (h : Grid.ofJson text = .ok grid) :
    grid.Fits ∧ grid.nesting ≤ nestingLimit := by
  unfold Grid.ofJson Reader.whole at h
  split at h
  · cases h
  · next value rest hrun =>
      split at h
      · cases h
        exact (yields_readers nestingLimit).1 _ _ _ hrun
      · cases h

/-- Where no row is empty, the text nests within the limit exactly if the tree is at most 31
deep. -/
theorem Grid.Solid.nesting_le_limit_iff (h : grid.Solid) :
    grid.nesting ≤ nestingLimit ↔ grid.depth ≤ 31 := by
  have hmin := h.four_mul_depth_le_nesting
  have hmax := grid.nesting_le_four_mul_depth
  unfold nestingLimit
  omega

/-- **Reading undoes writing.** -/
theorem json_round_trip :
    -- a text that nests within the limit is read back, and a deeper one is malformed
    (∀ grid text, JsonText grid text → grid.Fits →
      (nesting text.toList ≤ 127 → Grid.ofJson text = .ok grid) ∧
        (127 < nesting text.toList → Grid.ofJson text = .error .malformed)) ∧
    -- the text tells grids apart: so it does a cell without a grid and one with an empty grid
    (∀ grid other text, JsonText grid text → JsonText other text → grid.Fits → other.Fits →
      grid = other) ∧
    -- for compiled grids it is the depth that decides
    (∀ program options text, program.toList.length < 2 ^ 32 - 1 →
      JsonText (compile program options) text →
        (Grid.ofJson text = .ok (compile program options) ↔ (compile program options).depth ≤ 31) ∧
          (nesting text.toList ≤ 127 ↔ (compile program options).depth ≤ 31)) ∧
    -- whatever text a grid was read from, writing and reading it gives the same grid
    (∀ grid source text, Grid.ofJson source = .ok grid → JsonText grid text →
      Grid.ofJson text = .ok grid) := by
  have hread : ∀ grid text, JsonText grid text → grid.Fits →
      (nesting text.toList ≤ 127 → Grid.ofJson text = .ok grid) ∧
        (127 < nesting text.toList → Grid.ofJson text = .error .malformed) := by
    intro grid text htext hfits
    obtain ⟨hok, hdeep⟩ := htext.whole hfits nestingLimit
    rw [htext.nesting_eq]
    exact ⟨hok, fun hlt => hdeep (Nat.not_le_of_gt hlt)⟩
  refine ⟨hread, ?_, ?_, ?_⟩
  · intro grid other text htext hother hfits hotherFits
    exact htext.unique hother hfits hotherFits
  · intro program options text hlength htext
    have hfits := compile_fits program options hlength
    have hsolid : (compile program options).Solid := (scan_solid_packed _ _).1
    have hdepth : nesting text.toList ≤ 127 ↔ (compile program options).depth ≤ 31 := by
      rw [htext.nesting_eq]
      exact hsolid.nesting_le_limit_iff
    obtain ⟨hok, hdeep⟩ := hread _ text htext hfits
    refine ⟨?_, hdepth⟩
    rw [← hdepth]
    refine ⟨?_, hok⟩
    intro hsame
    rcases Nat.lt_or_ge 127 (nesting text.toList) with hlt | hle
    · rw [hdeep hlt] at hsame
      cases hsame
    · exact hle
  · intro grid source text hsource htext
    obtain ⟨hfits, hnesting⟩ := Grid.fits_of_ofJson hsource
    exact (htext.whole hfits nestingLimit).1 hnesting

/-- A cell without a grid, one with an empty grid, and a compiled grid in a cell of another. -/
theorem json_round_trip_threeGrids :
    let without : Grid := ⟨[⟨1, [⟨1, some .pale, none⟩]⟩]⟩
    let within : Grid := ⟨[⟨1, [⟨1, some .pale, some ⟨[]⟩⟩]⟩]⟩
    without.Fits ∧ within.Fits ∧ Grid.ofJson without.toJson = .ok without ∧
      Grid.ofJson within.toPrettyJson = .ok within ∧
      (Grid.ofJson (compile "bSpbBB").toPrettyJson = .ok (compile "bSpbBB") ↔
        (compile "bSpbBB").depth ≤ 31) := by
  intro without within
  obtain ⟨hread, -, hcompiled, -⟩ := json_round_trip
  have hempty : Grid.Fits ⟨[]⟩ := by
    rw [Grid.Fits, Grid.bounded_iff]
    intro row hrow
    cases hrow
  have hone : 1 < 2 ^ 32 := by decide
  have hfits : ∀ nested : Option Grid, (∀ inner, nested = some inner → inner.Fits) →
      Grid.Fits ⟨[⟨1, [⟨1, some .pale, nested⟩]⟩]⟩ := by
    intro nested hnested
    rw [Grid.Fits, Grid.bounded_iff]
    intro row hrow
    obtain rfl := List.mem_singleton.mp hrow
    refine ⟨hone, ?_⟩
    intro cell hcell
    obtain rfl := List.mem_singleton.mp hcell
    exact ⟨hone, hnested⟩
  have hwithout : without.Fits := hfits none (fun _ h => nomatch h)
  have hwithin : within.Fits := hfits (some ⟨[]⟩) (fun _ h => by cases h; exact hempty)
  refine ⟨hwithout, hwithin, ?_, ?_, ?_⟩
  · exact (hread without _ .compact hwithout).1 (by decide +kernel)
  · exact (hread within _ .pretty hwithin).1 (by decide +kernel)
  · exact (hcompiled "bSpbBB" {} _ (by decide) .pretty).1

end Slab
