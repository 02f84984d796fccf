import Slab.Paint
import Slab.Proofs.Lookup

/-!
# Bounds of the storage

A canvas only has places for its points, and recolouring looks first whether a point is on it. A
`Buffer` does without: it is a list of colours, one row after the other, in which the place of a
point is computed and read or written as it comes, and a place outside the list is the end of it
all. Filling a rectangle only cuts it down to the width and the height, and looks at no point after
that.

That is enough. A buffer with the points of a canvas (`Canvas.buffer`) does all that the canvas does
and never gets to a place outside (`fill?_buffer`, `drawAll?_buffer`, `perform?_buffer`), so
**`performed_inBounds`** says for every list of operations that the buffer stays a whole canvas,
that all of it can be read and painted, and what colours it has after some rectangles were filled.
-/

namespace Slab

/-! ### Unguarded storage -/

/-- Colours stored row by row. -/
structure Buffer where
  /-- The number of columns. -/
  width : Nat
  /-- The number of rows. -/
  height : Nat
  /-- The colours, the first row first. -/
  cells : List Color

/-- What can be done to a canvas. -/
inductive Operation
  /-- Fill a rectangle. -/
  | fill (rect : Rect) (color : Color)
  /-- Lay out a grid over all of it. -/
  | draw (grid : Grid)
  /-- Lay out a grid over a rectangle. -/
  | drawIn (grid : Grid) (rect : Rect)

namespace Buffer

/-- A buffer all in the background colour. -/
def blank (width height : Nat) : Buffer :=
  ⟨width, height, List.replicate (width * height) .background⟩

/-- The colour of a point. Outside the columns and rows all is background. -/
def get? (buffer : Buffer) (col row : Nat) : Option Color :=
  if col < buffer.width ∧ row < buffer.height then buffer.cells[row * buffer.width + col]?
  else some .background

/-- The buffer with the colour in one place changed, if it has that place. -/
def write? (buffer : Buffer) (place : Nat) (color : Color) : Option Buffer :=
  if place < buffer.cells.length then
    some { buffer with cells := buffer.cells.set place color }
  else none

/-- The buffer with the points of a rectangle recoloured, which is cut off where the columns and
rows end. -/
def fill? (buffer : Buffer) (rect : Rect) (color : Color) : Option Buffer :=
  let right := min (rect.col + rect.width) buffer.width
  let bottom := min (rect.row + rect.height) buffer.height
  (List.range' rect.row (bottom - rect.row)).foldlM (fun buffer row =>
    (List.range' rect.col (right - rect.col)).foldlM (fun buffer col =>
      buffer.write? (row * buffer.width + col) color) buffer) buffer

/-- The buffer with the areas of some cells filled. -/
def fillCells? (buffer : Buffer) (placements : List (Cell × Rect)) : Option Buffer :=
  placements.foldlM (fun buffer placement =>
    buffer.fill? placement.2 (placement.1.color.getD .neutral)) buffer

/-- The buffer once the waiting grids are laid out over their rectangles. Where there is no room, or
nothing to lay out, the next one has its turn. -/
def drawAll? (buffer : Buffer) : List (Grid × Rect) → Option Buffer
  | [] => some buffer
  | (grid, rect) :: waiting =>
    if rect.isEmpty || grid.isEmpty then buffer.drawAll? waiting
    else do
      let filled ← buffer.fillCells? (grid.placed rect)
      filled.drawAll? ((grid.placed rect).reverse.filterMap nestedPlacement? ++ waiting)
termination_by waiting => Grid.totalSize (waiting.map (·.1))
decreasing_by
  all_goals
    have := grid.placed_nested_lt rect
    simp only [List.map_append, Grid.totalSize_append, List.map_cons, Grid.totalSize_cons]
    omega

/-- The buffer after an operation. -/
def perform? (buffer : Buffer) : Operation → Option Buffer
  | .fill rect color => buffer.fill? rect color
  | .draw grid => buffer.drawAll? [(grid, ⟨0, 0, buffer.width, buffer.height⟩)]
  | .drawIn grid rect => buffer.drawAll? [(grid, rect)]

/-- The buffer after some operations, one after the other. -/
def performAll? (buffer : Buffer) (operations : List Operation) : Option Buffer :=
  operations.foldlM perform? buffer

/-- The colours from one place up to another, if all of these places are there. -/
def slice? (buffer : Buffer) (first last : Nat) : Option (List Color) :=
  if first ≤ last ∧ last ≤ buffer.cells.length then some ((buffer.cells.take last).drop first)
  else none

/-- The characters that paint a buffer, each row as the slice with its places. -/
def paintChars? (buffer : Buffer) : Option (List Char) := do
  let lines ← (List.range buffer.height).mapM fun row =>
    buffer.slice? (row * buffer.width) ((row + 1) * buffer.width)
  return lines.flatMap paintLine

end Buffer

/-! ### Loops that do not fail -/

section Loops

variable {State Stored Item : Type} {store : State → Stored}

/-- A loop over stored states does what the loop over the states does, if each pass does. -/
theorem foldlM_eq_some_foldl {pass? : Stored → Item → Option Stored} {pass : State → Item → State}
    {items : List Item}
    (h : ∀ item ∈ items, ∀ state, pass? (store state) item = some (store (pass state item)))
    (state : State) : items.foldlM pass? (store state) = some (store (items.foldl pass state)) := by
  induction items generalizing state with
  | nil => rfl
  | cons item items ih =>
      rw [List.foldlM_cons, h item List.mem_cons_self state, Option.bind_eq_bind, Option.bind_some,
        List.foldl_cons]
      exact ih (fun other hother => h other (List.mem_cons_of_mem _ hother)) _

/-- If there is a result for each item, there is the list of all results. -/
theorem mapM_eq_some_map {Result : Type} {read? : Item → Option Result} {read : Item → Result}
    {items : List Item} (h : ∀ item ∈ items, read? item = some (read item)) :
    items.mapM read? = some (items.map read) := by
  induction items with
  | nil => rfl
  | cons item items ih =>
      have hitems := ih fun other hother => h other (List.mem_cons_of_mem _ hother)
      rw [List.mapM_cons, h item List.mem_cons_self, hitems]
      rfl

end Loops

namespace Canvas

variable {width height : Nat}

/-! ### The loops of a canvas -/

/-- Recolouring points of a row is a loop over columns. -/
theorem fillLine_eq_foldl (canvas : Canvas width height) (col row : Nat) (color : Color)
    (count : Nat) : canvas.fillLine col row color count =
      (List.range' col count).foldl (fun canvas col => canvas.set col row color) canvas := by
  induction count generalizing canvas col with
  | zero => rfl
  | succ count ih =>
      rw [fillLine, ih, List.range'_succ, List.foldl_cons]

/-- Recolouring points of several rows is a loop over rows. -/
theorem fillLines_eq_foldl (canvas : Canvas width height) (col row span : Nat) (color : Color)
    (count : Nat) : canvas.fillLines col row span color count =
      (List.range' row count).foldl (fun canvas row => canvas.fillLine col row color span)
        canvas := by
  induction count generalizing canvas row with
  | zero => rfl
  | succ count ih =>
      rw [fillLines, ih, List.range'_succ, List.foldl_cons]

/-- The canvas after an operation. -/
def perform (canvas : Canvas width height) : Operation → Canvas width height
  | .fill rect color => canvas.fill rect color
  | .draw grid => canvas.draw grid
  | .drawIn grid rect => canvas.drawIn grid rect

/-- The canvas after some operations, one after the other. -/
def performAll (canvas : Canvas width height) (operations : List Operation) :
    Canvas width height :=
  operations.foldl perform canvas

/-! ### Buffers with the points of a canvas -/

/-- The buffer that stores the points of a canvas. -/
def buffer (canvas : Canvas width height) : Buffer :=
  ⟨width, height, canvas.points.toList⟩

/-- It is as wide. -/
@[simp] theorem width_buffer (canvas : Canvas width height) : canvas.buffer.width = width := rfl

/-- It is as high. -/
@[simp] theorem height_buffer (canvas : Canvas width height) : canvas.buffer.height = height := rfl

/-- It has a place for each point. -/
@[simp] theorem length_cells_buffer (canvas : Canvas width height) :
    canvas.buffer.cells.length = width * height :=
  Vector.length_toList

/-- A blank canvas is stored as a blank buffer. -/
theorem buffer_blank (width height : Nat) : (blank width height).buffer = .blank width height := by
  rw [buffer, blank, Vector.toList_replicate, Buffer.blank]

/-- In the place of a point is its colour. -/
theorem getElem?_cells_buffer (canvas : Canvas width height) {x y : Nat} (hx : x < width)
    (hy : y < height) : canvas.buffer.cells[y * width + x]? = some (canvas.get x y) := by
  rw [buffer, Vector.getElem?_toList, getElem?_points canvas hx hy]

/-- Every point can be read. -/
theorem get?_buffer (canvas : Canvas width height) (col row : Nat) :
    canvas.buffer.get? col row = some (canvas.get col row) := by
  rw [Buffer.get?, width_buffer, height_buffer]
  split
  case isTrue hpoint => exact canvas.getElem?_cells_buffer hpoint.1 hpoint.2
  case isFalse hpoint => rw [get_of_outside canvas hpoint]

/-- The place of a point can be written. -/
theorem write?_buffer (canvas : Canvas width height) {col row : Nat} (hcol : col < width)
    (hrow : row < height) (color : Color) :
    canvas.buffer.write? (row * width + col) color = some (canvas.set col row color).buffer := by
  have hplace : row * width + col < canvas.buffer.cells.length := by
    rw [length_cells_buffer]
    exact index_lt hcol hrow
  rw [Buffer.write?, if_pos hplace, set, dif_pos ⟨hcol, hrow⟩, buffer, buffer, Vector.toList_set]

/-- What is left of a rectangle when it is cut off has places only. -/
theorem fill?_buffer (canvas : Canvas width height) (rect : Rect) (color : Color) :
    canvas.buffer.fill? rect color = some (canvas.fill rect color).buffer := by
  unfold Buffer.fill? fill
  rw [fillLines_eq_foldl, width_buffer, height_buffer]
  apply foldlM_eq_some_foldl
  intro row hrow canvas
  rw [fillLine_eq_foldl]
  apply foldlM_eq_some_foldl
  intro col hcol canvas
  have hcolumn := List.mem_range'_1.mp hcol
  have hline := List.mem_range'_1.mp hrow
  exact canvas.write?_buffer (by omega) (by omega) color

/-- The areas of cells can be filled. -/
theorem fillCells?_buffer (canvas : Canvas width height) (placements : List (Cell × Rect)) :
    canvas.buffer.fillCells? placements = some (canvas.fillCells placements).buffer := by
  apply foldlM_eq_some_foldl
  intro placement _ canvas
  exact canvas.fill?_buffer placement.2 _

end Canvas

/-- Where there is no room, or nothing to lay out, no cell has points of its own. -/
theorem Grid.placed_eq_nil {grid : Grid} {rect : Rect} (h : rect.isEmpty ∨ grid.isEmpty) :
    grid.placed rect = [] := by
  rcases h with hrect | hgrid
  · rw [List.eq_nil_iff_forall_not_mem]
    rintro ⟨cell, area⟩ hplaced
    -- the first point of the area would be one of the rectangle
    have hroom : ¬area.isEmpty := by simpa using (List.mem_filter.mp hplaced).2
    have hpoint : area.Contains area.col area.row := by
      simp only [Rect.isEmpty, Bool.or_eq_true, beq_iff_eq] at hroom
      refine ⟨⟨?_, ?_⟩, ?_, ?_⟩ <;> simp only [Rect.columns, Rect.lines] <;> omega
    have hcontains := contains_of_cellAt? (cellAt?_iff_placed.mpr ⟨hplaced, hpoint⟩)
    exact hcontains.not_isEmpty hrect
  · have hrows : grid.rows = [] := List.isEmpty_iff.mp hgrid
    rw [placed, areas, hrows]
    rfl

namespace Canvas

variable {width height : Nat}

/-- Grids can be laid out, whatever the rectangles. -/
theorem drawAll?_buffer (canvas : Canvas width height) (waiting : List (Grid × Rect)) :
    canvas.buffer.drawAll? waiting = some (canvas.drawAll waiting).buffer := by
  fun_induction drawAll canvas waiting with
  | case1 canvas => rw [Buffer.drawAll?]
  | case2 canvas grid rect waiting ih =>
      rw [Buffer.drawAll?]
      split
      case isTrue hskip =>
        rw [Bool.or_eq_true] at hskip
        rw [Grid.placed_eq_nil hskip] at ih ⊢
        exact ih
      case isFalse =>
        rw [fillCells?_buffer, Option.bind_eq_bind, Option.bind_some]
        exact ih

/-- Every operation can be performed. -/
theorem perform?_buffer (canvas : Canvas width height) (operation : Operation) :
    canvas.buffer.perform? operation = some (canvas.perform operation).buffer := by
  cases operation with
  | fill rect color => exact canvas.fill?_buffer rect color
  | draw grid => exact canvas.drawAll?_buffer _
  | drawIn grid rect => exact canvas.drawAll?_buffer _

/-- **Operations can be performed one after the other.** -/
theorem performAll?_buffer (canvas : Canvas width height) (operations : List Operation) :
    canvas.buffer.performAll? operations = some (canvas.performAll operations).buffer := by
  apply foldlM_eq_some_foldl
  intro operation _ canvas
  exact canvas.perform?_buffer operation

/-- The slice with the places of a row has its colours. -/
theorem slice?_buffer (canvas : Canvas width height) {row : Nat} (hrow : row < height) :
    canvas.buffer.slice? (row * width) ((row + 1) * width) = some (canvas.line row) := by
  have hlast : (row + 1) * width ≤ width * height := by
    rw [Nat.mul_comm width]
    exact Nat.mul_le_mul_right width hrow
  have hnext : (row + 1) * width = row * width + width := Nat.succ_mul row width
  rw [Buffer.slice?, length_cells_buffer, if_pos ⟨by omega, hlast⟩, Option.some.injEq]
  apply List.ext_getElem?
  intro col
  rw [List.getElem?_drop, line, List.getElem?_map]
  rcases Nat.lt_or_ge col width with hcol | hcol
  · rw [List.getElem?_take_of_lt (by omega), canvas.getElem?_cells_buffer hcol hrow,
      List.getElem?_range hcol, Option.map_some]
  · rw [List.getElem?_take_eq_none (by omega), List.getElem?_eq_none (by simpa using hcol),
      Option.map_none]

/-- All rows can be painted. -/
theorem paintChars?_buffer (canvas : Canvas width height) :
    canvas.buffer.paintChars? = some canvas.paintChars := by
  have hlines : (List.range height).mapM (fun row =>
      canvas.buffer.slice? (row * width) ((row + 1) * width)) = some canvas.toLines := by
    apply mapM_eq_some_map
    intro row hrow
    exact canvas.slice?_buffer (List.mem_range.mp hrow)
  rw [Buffer.paintChars?, width_buffer, height_buffer, hlines]
  rfl

/-! ### Colours after filling -/

/-- Filling rectangles is filling cells of these colours. -/
theorem performAll_fills (canvas : Canvas width height) (fills : List (Rect × Color)) :
    canvas.performAll (fills.map fun (rect, color) => .fill rect color) =
      canvas.fillCells (fills.map fun (rect, color) => (⟨1, some color, none⟩, rect)) := by
  rw [performAll, fillCells, List.foldl_map, List.foldl_map]
  rfl

/-- After some rectangles were filled, a point has the colour of the last one that it is in. -/
theorem get_performAll_fills (canvas : Canvas width height) {x y : Nat} (hx : x < width)
    (hy : y < height) (fills : List (Rect × Color)) :
    (canvas.performAll (fills.map fun (rect, color) => .fill rect color)).get x y =
      ((fills.reverse.find? (·.1.Contains x y)).map (·.2)).getD (canvas.get x y) := by
  have hsame : ((fun placement : Cell × Rect => decide (placement.2.Contains x y)) ∘
      fun fill : Rect × Color => ((⟨1, some fill.2, none⟩ : Cell), fill.1)) =
      fun fill => decide (fill.1.Contains x y) := rfl
  rw [performAll_fills, get_fillCells canvas hx hy, ← List.map_reverse, List.find?_map, hsame]
  cases fills.reverse.find? (·.1.Contains x y) <;> rfl

/-- Every point of a blank canvas is background. -/
theorem get_blank (width height col row : Nat) :
    (blank width height).get col row = .background := by
  unfold get blank
  split
  · exact Vector.getElem_replicate _
  · rfl

end Canvas

/-! ### All of it -/

/-- What it means that a buffer is what some operations make of a blank one. -/
structure Buffer.Intact (width height : Nat) (operations : List Operation) (buffer : Buffer) :
    Prop where
  /-- The size is as it was. -/
  size : buffer.width = width ∧ buffer.height = height
  /-- So is the number of places. -/
  length : buffer.cells.length = width * height
  /-- Every point can be read, and has the colour it has on a canvas. -/
  get : ∀ col row, buffer.get? col row =
    some (((Canvas.blank width height).performAll operations).get col row)
  /-- The points outside are background. -/
  outside : ∀ col row, ¬(col < width ∧ row < height) → buffer.get? col row = some .background
  /-- It can be painted, as the canvas is. -/
  paint : buffer.paintChars? =
    some ((Canvas.blank width height).performAll operations).paintChars
  /-- If rectangles were filled and nothing else was done, a point has the colour of the last one
  that it is in, and without one it is background. -/
  filled : ∀ fills : List (Rect × Color),
    operations = fills.map (fun (rect, color) => .fill rect color) →
    ∀ col row, col < width → row < height → buffer.get? col row =
      some (((fills.reverse.find? (·.1.Contains col row)).map (·.2)).getD .background)

/-- **No operation, no reading and no painting gets to a place outside of the storage.** -/
theorem performed_inBounds (width height : Nat) (operations : List Operation) :
    ∃ buffer, (Buffer.blank width height).performAll? operations = some buffer ∧
      buffer.Intact width height operations := by
  let canvas := (Canvas.blank width height).performAll operations
  refine ⟨canvas.buffer, ?_, ⟨rfl, rfl⟩, canvas.length_cells_buffer, canvas.get?_buffer, ?_,
    canvas.paintChars?_buffer, ?_⟩
  · rw [← Canvas.buffer_blank]
    exact (Canvas.blank width height).performAll?_buffer operations
  · intro col row houtside
    rw [canvas.get?_buffer, canvas.get_of_outside houtside]
  · rintro fills hfills col row hcol hrow
    have hget := (Canvas.blank width height).get_performAll_fills hcol hrow fills
    rw [← hfills, Canvas.get_blank] at hget
    rw [canvas.get?_buffer, hget]

/-- A rectangle that leaves the first row on the right does not reach the second one, and where
there are no columns everything can be done and nothing happens. -/
theorem performed_inBounds_cutOff :
    let fills : List (Rect × Color) := [(⟨1, 0, 9, 1⟩, .pale), (⟨2, 0, 1, 9⟩, .neutral)]
    let operations := fills.map fun (rect, color) => Operation.fill rect color
    (∃ buffer, (Buffer.blank 3 2).performAll? operations = some buffer ∧
      buffer.cells.length = 6 ∧ buffer.get? 1 0 = some .pale ∧ buffer.get? 2 0 = some .neutral ∧
      buffer.get? 0 1 = some .background ∧ buffer.get? 3 0 = some .background) ∧
    ∃ buffer, (Buffer.blank 0 2).performAll? operations = some buffer ∧
      buffer.cells.length = 0 := by
  intro fills operations
  constructor
  · obtain ⟨buffer, hbuffer, hintact⟩ := performed_inBounds 3 2 operations
    refine ⟨buffer, hbuffer, hintact.length, ?_, ?_, ?_, hintact.outside 3 0 (by decide)⟩
    · exact hintact.filled fills rfl 1 0 (by decide) (by decide)
    · exact hintact.filled fills rfl 2 0 (by decide) (by decide)
    · exact hintact.filled fills rfl 0 1 (by decide) (by decide)
  · obtain ⟨buffer, hbuffer, hintact⟩ := performed_inBounds 0 2 operations
    exact ⟨buffer, hbuffer, hintact.length.trans (Nat.zero_mul 2)⟩

end Slab
