import Slab.Canvas
import Slab.Proofs.Pieces
import Mathlib.Tactic.SplitIfs

/-!
# Filling a canvas

A point of a canvas has one place in the storage (`index_inj`), so recolouring a point changes it
and no other (`get_set`). From there `get_fillLine`, `get_fillLines` and `get_fill` go up to a
rectangle: a point in it takes the new colour and any other keeps its own. After several rectangles
a point has the colour of the last one it is in (`get_fillCells`).
-/

namespace Slab

namespace Rect

/-- The point is in the rectangle. -/
def Contains (rect : Rect) (x y : Nat) : Prop :=
  rect.columns.Contains x ∧ rect.lines.Contains y

instance (rect : Rect) (x y : Nat) : Decidable (rect.Contains x y) :=
  inferInstanceAs (Decidable (_ ∧ _))

variable {rect : Rect} {x y : Nat}

/-- A rectangle with a point is not empty. -/
theorem Contains.not_isEmpty (h : rect.Contains x y) : ¬rect.isEmpty := by
  obtain ⟨⟨hleft, hright⟩, ⟨htop, hbottom⟩⟩ := h
  simp only [columns, lines] at hleft hright htop hbottom
  simp only [isEmpty, Bool.or_eq_true, beq_iff_eq]
  omega

/-- What is left of a rectangle is in the rectangle. -/
theorem contains_of_inset (h : rect.inset.Contains x y) : rect.Contains x y := by
  unfold inset at h
  split_ifs at h with hroom
  · obtain ⟨⟨hleft, hright⟩, ⟨htop, hbottom⟩⟩ := h
    simp only [columns, lines] at hleft hright htop hbottom
    refine ⟨⟨?_, ?_⟩, ⟨?_, ?_⟩⟩ <;> simp only [columns, lines] <;> omega
  · exact h

end Rect

namespace Canvas

variable {width height : Nat}

/-! ### The places of points -/

/-- Points of different places are different. -/
theorem index_inj {col row col' row' : Nat} (hcol : col < width) (hcol' : col' < width)
    (h : row * width + col = row' * width + col') : col = col' ∧ row = row' := by
  have hpos : 0 < width := Nat.zero_lt_of_lt hcol
  have hmod : ∀ {c : Nat}, c < width → ∀ r, (r * width + c) % width = c := by
    intro c hc r
    rw [Nat.add_comm, Nat.add_mul_mod_self_right, Nat.mod_eq_of_lt hc]
  have hsame : col = col' := by
    rw [← hmod hcol row, ← hmod hcol' row', h]
  subst hsame
  exact ⟨rfl, Nat.eq_of_mul_eq_mul_right hpos (Nat.add_right_cancel h)⟩

/-- Outside the canvas all is background. -/
theorem get_of_outside (canvas : Canvas width height) {x y : Nat} (h : ¬(x < width ∧ y < height)) :
    canvas.get x y = .background := by
  rw [get, dif_neg h]

/-- On the canvas a point has the colour in its place. -/
theorem getElem?_points (canvas : Canvas width height) {x y : Nat} (hx : x < width)
    (hy : y < height) : canvas.points[y * width + x]? = some (canvas.get x y) := by
  rw [get, dif_pos ⟨hx, hy⟩]
  exact Vector.getElem?_eq_getElem (index_lt hx hy)

/-- Canvases are equal if all their points are. -/
theorem ext_get {canvas other : Canvas width height}
    (h : ∀ x y, x < width → y < height → canvas.get x y = other.get x y) : canvas = other := by
  have hpoints : canvas.points = other.points := by
    apply Vector.ext
    intro index hindex
    have hpos : 0 < width := Nat.pos_of_mul_pos_right (Nat.zero_lt_of_lt hindex)
    have hx : index % width < width := Nat.mod_lt _ hpos
    have hy : index / width < height := Nat.div_lt_of_lt_mul hindex
    have hplace : index / width * width + index % width = index := Nat.div_add_mod' index width
    have hcanvas := canvas.getElem?_points hx hy
    have hother := other.getElem?_points hx hy
    rw [hplace, Vector.getElem?_eq_getElem hindex] at hcanvas hother
    apply Option.some.inj
    rw [hcanvas, hother, h _ _ hx hy]
  cases canvas
  cases other
  exact congrArg _ hpoints

/-! ### Recolouring -/

variable {x y : Nat} (canvas : Canvas width height) (hx : x < width) (hy : y < height)

include hx hy

/-- Recolouring a point changes no other. -/
theorem get_set (col row : Nat) (color : Color) :
    (canvas.set col row color).get x y = if x = col ∧ y = row then color else canvas.get x y := by
  apply Option.some.inj
  rw [← getElem?_points _ hx hy]
  unfold set
  by_cases hon : col < width ∧ row < height
  · rw [dif_pos hon]
    by_cases hsame : x = col ∧ y = row
    · obtain ⟨rfl, rfl⟩ := hsame
      rw [if_pos ⟨rfl, rfl⟩]
      exact Vector.getElem?_set_self (index_lt hx hy)
    · have hplace : row * width + col ≠ y * width + x := by
        intro hplace
        obtain ⟨hcol, hrow⟩ := index_inj hon.1 hx hplace
        exact hsame ⟨hcol.symm, hrow.symm⟩
      rw [if_neg hsame, ← getElem?_points canvas hx hy]
      exact Vector.getElem?_set_ne (index_lt hon.1 hon.2) hplace
  · have hother : ¬(x = col ∧ y = row) := by
      rintro ⟨rfl, rfl⟩
      exact hon ⟨hx, hy⟩
    rw [dif_neg hon, if_neg hother, getElem?_points canvas hx hy]

/-- Recolouring points of a row changes those points and no others. -/
theorem get_fillLine (col row : Nat) (color : Color) (count : Nat) :
    (canvas.fillLine col row color count).get x y =
      if y = row ∧ col ≤ x ∧ x < col + count then color else canvas.get x y := by
  induction count generalizing canvas col with
  | zero =>
      rw [fillLine, if_neg (by omega)]
  | succ count ih =>
      rw [fillLine, ih, get_set canvas hx hy]
      split_ifs <;> first | rfl | omega

/-- Recolouring points of several rows changes those points and no others. -/
theorem get_fillLines (col row span : Nat) (color : Color) (count : Nat) :
    (canvas.fillLines col row span color count).get x y =
      if (row ≤ y ∧ y < row + count) ∧ col ≤ x ∧ x < col + span then color
      else canvas.get x y := by
  induction count generalizing canvas row with
  | zero =>
      rw [fillLines, if_neg (by omega)]
  | succ count ih =>
      rw [fillLines, ih, get_fillLine canvas hx hy]
      split_ifs <;> first | rfl | omega

/-- Filling a rectangle changes the points in it and no others. -/
theorem get_fill (rect : Rect) (color : Color) :
    (canvas.fill rect color).get x y = if rect.Contains x y then color else canvas.get x y := by
  have hclip : ((rect.row ≤ y ∧ y < rect.row + (min (rect.row + rect.height) height - rect.row)) ∧
      rect.col ≤ x ∧ x < rect.col + (min (rect.col + rect.width) width - rect.col)) ↔
      rect.Contains x y := by
    simp only [Rect.Contains, Span.Contains, Rect.columns, Rect.lines]
    omega
  unfold fill
  rw [get_fillLines canvas hx hy]
  exact ite_congr (propext hclip) (fun _ => rfl) (fun _ => rfl)

/-- After several cells a point has the colour of the last one it is in. -/
theorem get_fillCells (placements : List (Cell × Rect)) :
    (canvas.fillCells placements).get x y =
      match placements.reverse.find? (·.2.Contains x y) with
      | some (cell, _) => cell.color.getD .neutral
      | none => canvas.get x y := by
  induction placements generalizing canvas with
  | nil => rfl
  | cons placement placements ih =>
      obtain ⟨cell, area⟩ := placement
      have hstep : canvas.fillCells ((cell, area) :: placements) =
          (canvas.fill area (cell.color.getD .neutral)).fillCells placements := rfl
      rw [hstep, ih, get_fill canvas hx hy, List.reverse_cons, List.find?_append]
      cases placements.reverse.find? (·.2.Contains x y) with
      | some later => rfl
      | none =>
          by_cases harea : area.Contains x y
          · simp [harea]
          · simp [harea]

end Canvas

end Slab
