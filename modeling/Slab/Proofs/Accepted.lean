import Slab.Proofs.ReadBack

/-!
# What the reader accepts

Whatever text a grid is read from, its weights fit 32 bits and its brackets are within what the
reader allows (`yields_readers`): for every text, not only for those that a layout writes.
-/

namespace Slab

namespace Json

namespace Reader

variable {α β σ : Type} {reader item : Reader α} {P : α → Prop}

/-- Every value that the reader accepts has the property. -/
def Yields (reader : Reader α) (P : α → Prop) : Prop :=
  ∀ text value rest, reader.run text = .ok (value, rest) → P value

/-! ### Readers made from others -/

/-- A value in another form. -/
theorem Yields.map {Q : β → Prop} (h : reader.Yields P) {f : α → β}
    (hf : ∀ value, P value → Q (f value)) : (reader.map f).Yields Q := by
  intro text value rest hrun
  unfold Reader.map at hrun
  rcases hread : reader.run text with fault | ⟨found, after⟩
  · simp only [hread] at hrun
    cases hrun
  · simp only [hread] at hrun
    cases hrun
    exact hf found (h text found _ hread)

/-- What holds of all values of a form holds of those that are read in that form. -/
theorem yields_map {Q : β → Prop} (reader : Reader α) {f : α → β} (h : ∀ value, Q (f value)) :
    (reader.map f).Yields Q := by
  have hall : reader.Yields fun _ => True := fun _ _ _ _ => trivial
  exact hall.map fun value _ => h value

/-- A value that is there. -/
theorem Yields.present (h : reader.Yields P) :
    (reader.map some).Yields fun found => ∀ value, found = some value → P value := by
  refine h.map ?_
  intro value hvalue other hother
  cases hother
  exact hvalue

/-- A weight fits 32 bits. -/
theorem yields_weight : weight.Yields (· < 2 ^ 32) := by
  intro text value rest hrun
  unfold weight at hrun
  dsimp only at hrun
  split at hrun
  · cases hrun
  · split at hrun
    · split at hrun
      · cases hrun
      · cases hrun
      · split at hrun
        · next hrange =>
            cases hrun
            exact (Int.toNat_lt hrange.1).mpr hrange.2
        · cases hrun
    · cases hrun

/-- What may be null has the property unless it is null. -/
theorem Yields.nullable (h : reader.Yields P) :
    (nullable reader).Yields fun found => ∀ value, found = some value → P value := by
  intro text found rest hrun
  unfold Reader.nullable at hrun
  dsimp only at hrun
  split at hrun
  · rcases hword : word "ull".toList ‹_› with fault | after
    · rw [hword] at hrun
      cases hrun
    · rw [hword] at hrun
      cases hrun
      intro value hvalue
      cases hvalue
  · exact h.present text found rest hrun

/-- All items of an array have the property of items. -/
theorem Yields.itemsFrom (h : item.Yields P) {found values : List α} {text rest : List Char}
    (hfound : ∀ value ∈ found, P value) (hrun : itemsFrom item found text = .ok (values, rest)) :
    ∀ value ∈ values, P value := by
  fun_induction Reader.itemsFrom item found text with
  | case1 => cases hrun
  | case2 => cases hrun
  | case3 found text value after hitem tail hfront =>
      cases hrun
      intro other hother
      rcases List.mem_cons.mp (List.mem_reverse.mp hother) with rfl | hother
      · exact h _ _ _ hitem
      · exact hfound other hother
  | case4 found text value after hitem =>
      rename_i ih
      apply ih _ hrun
      intro other hother
      rcases List.mem_cons.mp hother with rfl | hother
      · exact h _ _ _ hitem
      · exact hfound other hother
  | case5 => cases hrun

/-- All items of an array have the property of items. -/
theorem Yields.array (h : item.Yields P) :
    (array (some item)).Yields fun values => ∀ value ∈ values, P value := by
  intro text values rest hrun
  unfold Reader.array at hrun
  dsimp only at hrun
  split at hrun
  · cases hrun
  · split at hrun
    · unfold items at hrun
      split at hrun
      · cases hrun
        intro value hvalue
        cases hvalue
      · refine h.itemsFrom ?_ hrun
        intro value hvalue
        cases hvalue
    · cases hrun

/-- Where no bracket may be opened, no array is accepted. -/
theorem yields_array_none (Q : List α → Prop) : (array (none : Option (Reader α))).Yields Q := by
  intro text values rest hrun
  unfold Reader.array at hrun
  dsimp only at hrun
  split at hrun
  · cases hrun
  · split at hrun
    · cases hrun
    · cases hrun

/-- A record has a property if it has it in both its forms. -/
theorem yields_record {wanted : Wanted}
    {inArray inObject : List Char → Except Fault (α × List Char)} {harray hobject}
    (hinArray : ∀ text value rest, inArray text = .ok (value, rest) → P value)
    (hinObject : ∀ text value rest, inObject text = .ok (value, rest) → P value) :
    (record wanted inArray inObject harray hobject).Yields P := by
  intro text value rest hrun
  unfold record at hrun
  dsimp only at hrun
  split at hrun
  · cases hrun
  · split at hrun
    · exact hinArray _ _ _ hrun
    · split at hrun
      · exact hinObject _ _ _ hrun
      · cases hrun

/-- A part of a record in an array has the property, if it is there. -/
theorem Yields.nextPart (h : reader.Yields P) {first : Bool} {text rest : List Char}
    {part : Option α} (hrun : nextPart first reader text = .ok (part, rest)) :
    ∀ value, part = some value → P value := by
  unfold Reader.nextPart at hrun
  split at hrun
  · cases hrun
  · split at hrun
    · cases hrun
      intro value hvalue
      cases hvalue
    · split at hrun
      · exact h.present _ _ _ hrun
      · split at hrun
        · exact h.present _ _ _ hrun
        · cases hrun

/-- What follows the last part of a record has no say in it. -/
theorem eq_of_lastPart {value result : α} {text rest : List Char}
    (hrun : lastPart value text = .ok (result, rest)) : result = value := by
  unfold lastPart at hrun
  split at hrun
  · cases hrun
  · split at hrun
    · cases hrun
      rfl
    · cases hrun

/-- What is known keeps a property from member to member, if each field keeps it. -/
theorem yields_membersFrom {fields : Fields σ} {Q : σ → Prop}
    (h : ∀ known key reader, Q known → fields known key = .ok reader → reader.Yields Q)
    {known result : σ} {text rest : List Char} (hknown : Q known)
    (hrun : membersFrom fields known text = .ok (result, rest)) : Q result := by
  fun_induction membersFrom fields known text with
  | case7 =>
      cases hrun
      rename_i hfield _ _ _ _ hvalue _ _
      exact h _ _ _ hknown hfield _ _ _ hvalue
  | case8 =>
      rename_i hfield _ _ _ hvalue _ _ _ _ _ _ ih
      exact ih (h _ _ _ hknown hfield _ _ _ hvalue) hrun
  | _ => cases hrun

/-- What is known at the end of an object has a property that it has at the start, if each field
keeps it. -/
theorem yields_members {fields : Fields σ} {Q : σ → Prop}
    (h : ∀ known key reader, Q known → fields known key = .ok reader → reader.Yields Q)
    {start result : σ} {text rest : List Char} (hstart : Q start)
    (hrun : members fields start text = .ok (result, rest)) : Q result := by
  unfold members at hrun
  split at hrun
  · cases hrun
    exact hstart
  · exact yields_membersFrom h hstart hrun

end Reader

open Reader

/-- The weights of a grid fit 32 bits, and its brackets are within a bound. -/
def GridFits (n : Nat) (grid : Grid) : Prop :=
  grid.Fits ∧ grid.nesting ≤ n

/-- The same of a cell. -/
def CellFits (n : Nat) (cell : Cell) : Prop :=
  cell.Bounded (2 ^ 32) ∧ cell.nesting ≤ n

/-- The same of the cells of a row, with the bracket around them. -/
def CellsFit (n : Nat) (cells : List Cell) : Prop :=
  (∀ cell ∈ cells, cell.Bounded (2 ^ 32)) ∧ cellsNesting cells + 1 ≤ n

/-- The same of a row. -/
def RowFits (n : Nat) (row : Row) : Prop :=
  row.Bounded (2 ^ 32) ∧ row.nesting ≤ n

/-! ### Cells -/

section

variable {n : Nat} {grid : Reader Grid} {text rest : List Char} {cell : Cell}

/-- What is known of a cell fits, and the grid that it holds nests within the bound. -/
def CellFields.Fit (n : Nat) (known : CellFields) : Prop :=
  (∀ width, known.width = some width → width < 2 ^ 32) ∧
    ∀ inner, known.nested = some (some inner) → GridFits n inner

/-- Every field of a cell keeps what is known of it fitting. -/
theorem CellFields.yields_read (h : grid.Yields (GridFits n))
    (known : CellFields) (key : List Char) (reader : Reader CellFields) (hknown : known.Fit n)
    (hread : CellFields.read grid known key = .ok reader) : reader.Yields (CellFields.Fit n) := by
  obtain ⟨hwidth, hnested⟩ := hknown
  unfold CellFields.read at hread
  split at hread
  · split at hread
    · cases hread
    · cases hread
      refine yields_weight.map ?_
      intro value hvalue
      refine ⟨?_, hnested⟩
      intro width heq
      cases heq
      exact hvalue
  split at hread
  · split at hread
    · cases hread
    · cases hread
      exact yields_map _ fun _ => ⟨hwidth, hnested⟩
  split at hread
  · split at hread
    · cases hread
    · cases hread
      refine h.nullable.map ?_
      intro value hvalue
      refine ⟨hwidth, ?_⟩
      intro inner hinner
      exact hvalue inner (Option.some.inj hinner)
  · cases hread
    exact yields_map _ fun _ => ⟨hwidth, hnested⟩

/-- A cell whose width fits, and whose grid nests within the bound, nests within one more. -/
theorem fits_cell {width : Nat} (color : Option Color) {nested : Option Grid}
    (hwidth : width < 2 ^ 32) (hnested : ∀ inner, nested = some inner → GridFits n inner) :
    CellFits (n + 1) ⟨width, color, nested⟩ := by
  refine ⟨⟨hwidth, fun inner hinner => (hnested inner hinner).1⟩, ?_⟩
  rw [Cell.nesting_le_iff]
  exact fun inner hinner => (hnested inner hinner).2

/-- A cell in an object. -/
theorem fits_of_cellInObject (h : grid.Yields (GridFits n))
    (hrun : cellInObject grid text = .ok (cell, rest)) : CellFits (n + 1) cell := by
  unfold cellInObject at hrun
  split at hrun
  · cases hrun
  · next known after hmembers =>
      have hstart : CellFields.Fit n {} := by
        constructor
        · intro width hwidth
          cases hwidth
        · intro inner hinner
          cases hinner
      obtain ⟨hwidth, hnested⟩ := yields_members (CellFields.yields_read h) hstart hmembers
      unfold CellFields.toCell at hrun
      rcases hknown : known.width with _ | width
      · rw [hknown] at hrun
        cases hrun
      · rw [hknown] at hrun
        cases hrun
        refine fits_cell _ (hwidth width hknown) ?_
        intro inner hinner
        exact hnested inner (Option.join_eq_some_iff.mp hinner)

/-- A cell in an array. -/
theorem fits_of_cellInArray (h : grid.Yields (GridFits n))
    (hrun : cellInArray grid text = .ok (cell, rest)) : CellFits (n + 1) cell := by
  unfold cellInArray at hrun
  split at hrun
  · cases hrun
  · cases hrun
  · next width _ hwidth =>
      split at hrun
      · cases hrun
      · split at hrun
        · cases hrun
        · next nested _ hnested =>
            obtain rfl := eq_of_lastPart hrun
            refine fits_cell _ (yields_weight.nextPart hwidth width rfl) ?_
            intro inner hinner
            exact h.nullable.nextPart hnested _ (Option.join_eq_some_iff.mp hinner) inner rfl

end

/-! ### Rows -/

section

variable {n : Nat} {cells : Reader (List Cell)} {text rest : List Char} {row : Row}

/-- What is known of a row fits, and its cells nest within the bound. -/
def RowFields.Fit (n : Nat) (known : RowFields) : Prop :=
  (∀ height, known.height = some height → height < 2 ^ 32) ∧
    ∀ cells, known.cells = some cells → CellsFit n cells

/-- Every field of a row keeps what is known of it fitting. -/
theorem RowFields.yields_read (h : cells.Yields (CellsFit n)) (known : RowFields) (key : List Char)
    (reader : Reader RowFields) (hknown : known.Fit n)
    (hread : RowFields.read cells known key = .ok reader) : reader.Yields (RowFields.Fit n) := by
  obtain ⟨hheight, hcells⟩ := hknown
  unfold RowFields.read at hread
  split at hread
  · split at hread
    · cases hread
    · cases hread
      refine yields_weight.map ?_
      intro value hvalue
      refine ⟨?_, hcells⟩
      intro height heq
      cases heq
      exact hvalue
  split at hread
  · split at hread
    · cases hread
    · cases hread
      refine h.map ?_
      intro value hvalue
      refine ⟨hheight, ?_⟩
      intro other heq
      cases heq
      exact hvalue
  · cases hread
    exact yields_map _ fun _ => ⟨hheight, hcells⟩

/-- A row whose height fits, and whose cells nest within the bound, nests within one more. -/
theorem fits_row {height : Nat} {cells : List Cell} (hheight : height < 2 ^ 32)
    (hcells : CellsFit n cells) : RowFits (n + 1) ⟨height, cells⟩ :=
  ⟨⟨hheight, hcells.1⟩, Nat.succ_le_succ hcells.2⟩

/-- A row in an object. -/
theorem fits_of_rowInObject (h : cells.Yields (CellsFit n))
    (hrun : rowInObject cells text = .ok (row, rest)) : RowFits (n + 1) row := by
  unfold rowInObject at hrun
  split at hrun
  · cases hrun
  · next known after hmembers =>
      have hstart : RowFields.Fit n {} := by
        constructor
        · intro height hheight
          cases hheight
        · intro cells hcells
          cases hcells
      obtain ⟨hheight, hcells⟩ := yields_members (RowFields.yields_read h) hstart hmembers
      unfold RowFields.toRow at hrun
      rcases hknown : known.height with _ | height
      · rw [hknown] at hrun
        cases hrun
      rcases hlist : known.cells with _ | list
      · rw [hknown, hlist] at hrun
        cases hrun
      · rw [hknown, hlist] at hrun
        cases hrun
        exact fits_row (hheight height hknown) (hcells list hlist)

/-- A row in an array. -/
theorem fits_of_rowInArray (h : cells.Yields (CellsFit n))
    (hrun : rowInArray cells text = .ok (row, rest)) : RowFits (n + 1) row := by
  unfold rowInArray at hrun
  split at hrun
  · cases hrun
  · cases hrun
  · next height _ hheight =>
      split at hrun
      · cases hrun
      · cases hrun
      · next list _ hlist =>
          obtain rfl := eq_of_lastPart hrun
          exact fits_row (yields_weight.nextPart hheight height rfl) (h.nextPart hlist list rfl)

end

/-! ### Grids -/

/-- **What is read fits**: the weights fit 32 bits, and the brackets are within what the reader
allows. -/
theorem yields_readers (n : Nat) :
    (gridReader n).Yields (GridFits n) ∧ (rowReader n).Yields (RowFits n) ∧
      (cellsReader n).Yields (CellsFit n) ∧ (cellReader n).Yields (CellFits n) := by
  induction n with
  | zero =>
      rw [gridReader, rowReader, cellsReader, cellReader, rowOf, cellOf]
      refine ⟨?_, ?_, yields_array_none _, ?_⟩
      · exact (yields_array_none fun _ => False).map fun _ => False.elim
      · refine yields_record ?_ ?_ <;> (intro _ _ _ hrun; cases hrun)
      · refine yields_record ?_ ?_ <;> (intro _ _ _ hrun; cases hrun)
  | succ n ih =>
      obtain ⟨hgrid, hrow, hcells, hcell⟩ := ih
      rw [gridReader, rowReader, cellsReader, cellReader, rowOf, cellOf]
      refine ⟨?_, ?_, ?_, ?_⟩
      · refine hrow.array.map ?_
        intro rows hrows
        refine ⟨Grid.bounded_iff.mpr fun row hmem => (hrows row hmem).1, ?_⟩
        rw [Grid.nesting_le_iff]
        exact fun row hmem => (hrows row hmem).2
      · exact yields_record (fun _ _ _ hrun => fits_of_rowInArray hcells hrun)
          (fun _ _ _ hrun => fits_of_rowInObject hcells hrun)
      · intro text cells rest hrun
        have hall := hcell.array text cells rest hrun
        refine ⟨fun cell hmem => (hall cell hmem).1, ?_⟩
        -- as the cells of a row of any height
        have hnesting : (⟨0, cells⟩ : Row).nesting ≤ n + 2 :=
          Row.nesting_le_iff.mpr fun cell hmem => (hall cell hmem).2
        exact Nat.le_of_succ_le_succ hnesting
      · exact yields_record (fun _ _ _ hrun => fits_of_cellInArray hgrid hrun)
          (fun _ _ _ hrun => fits_of_cellInObject hgrid hrun)

end Json

end Slab
