import Slab.Proofs.Balance
import Slab.Proofs.Openers
import Slab.Proofs.Staying

/-!
# Building appends

The rows that are done on a level stay as they are, and so do the cells of the open row but for the
last one; the open row gets no lower and that cell no narrower. What may happen to the cell is that
a grid is put into it (`Level.GrowsInto`). One lemma for each move says so,
`Builder.growsInto_step` says it of all levels that stay on the stack, and `growsInto_reached` of
any stretch of a program.

A grid is put into a cell that stands already only if the `S` of its program came right after a
growth. `lastMove_reached_eq_grew_iff` says what the flag for this means in terms of the program
(`FollowsGrowth`), and as a level keeps the flag while it waits, it is the `S` that counts and not
the close (`Refills`). With this `building_appends` collects what holds of a unit, and that the
rows done on the outermost level are the first rows of the grid, however the program goes on.
-/

namespace Slab

/-! ### Rows that grow -/

/-- The row grows into another one: it gets no lower, and its cells stay but for the last one, which
gets no narrower; more cells may follow. That the last cell holds another grid has a reason. -/
structure Row.GrowsInto (row after : Row) (reason : Prop) : Prop where
  /-- The row gets no lower. -/
  height : row.height ≤ after.height
  /-- The cells before the last one stay, and so does that one but for its width, its colour and,
  if there is a reason, the grid that it holds. -/
  cells : ∀ older last, row.cells = older ++ [last] → ∃ last' newer,
    after.cells = older ++ last' :: newer ∧ last.width ≤ last'.width ∧
      (last'.nested ≠ last.nested → reason)

variable {reason reason' : Prop}

/-- A row that stays as it is. -/
theorem Row.GrowsInto.refl (row : Row) : row.GrowsInto row reason where
  height := Nat.le_refl _
  cells _ last hcells := ⟨last, [], hcells, Nat.le_refl _, fun hne => absurd rfl hne⟩

/-- A row that grows twice. -/
theorem Row.GrowsInto.trans {row middle after : Row} (h : row.GrowsInto middle reason)
    (hafter : middle.GrowsInto after reason') : row.GrowsInto after (reason ∨ reason') := by
  refine ⟨Nat.le_trans h.height hafter.height, ?_⟩
  intro older last hcells
  obtain ⟨last', newer, hmiddle, hwidth, hnested⟩ := h.cells older last hcells
  rcases List.eq_nil_or_concat newer with rfl | ⟨newer, newest, rfl⟩
  · obtain ⟨last'', more, hmore, hwidth', hnested'⟩ := hafter.cells older last' hmiddle
    refine ⟨last'', more, hmore, Nat.le_trans hwidth hwidth', ?_⟩
    intro hne
    by_cases heq : last'.nested = last.nested
    · exact Or.inr (hnested' (by rwa [heq]))
    · exact Or.inl (hnested heq)
  · -- the last cell has become one of those before the last one
    obtain ⟨newest', more, hmore, -, -⟩ :=
      hafter.cells (older ++ last' :: newer) newest (by rw [hmiddle]; simp)
    refine ⟨last', newer ++ newest' :: more, by rw [hmore]; simp, hwidth, ?_⟩
    exact fun hne => Or.inl (hnested hne)

/-- A row whose reason is another one's. -/
theorem Row.GrowsInto.mono {row after : Row} (h : row.GrowsInto after reason)
    (himp : reason → reason') : row.GrowsInto after reason' where
  height := h.height
  cells older last hcells := by
    obtain ⟨last', newer, hafter, hwidth, hnested⟩ := h.cells older last hcells
    exact ⟨last', newer, hafter, hwidth, fun hne => himp (hnested hne)⟩

/-- An open row has its last cell in front. -/
theorem OpenRow.growsInto_close {row after : OpenRow} (hheight : row.height ≤ after.height)
    (hcells : ∀ last older, row.cells = last :: older → ∃ last' newer,
      after.cells = newer ++ last' :: older ∧ last.width ≤ last'.width ∧
        (last'.nested ≠ last.nested → reason)) :
    row.close.GrowsInto after.close reason := by
  refine ⟨hheight, ?_⟩
  intro older last hrow
  have hrow' : row.cells = last :: older.reverse := by
    rw [← List.reverse_reverse row.cells]
    show row.close.cells.reverse = _
    rw [hrow, List.reverse_append]
    rfl
  obtain ⟨last', newer, hafter, hlast⟩ := hcells last older.reverse hrow'
  refine ⟨last', newer.reverse, ?_, hlast⟩
  show after.cells.reverse = _
  rw [hafter]
  simp

/-! ### Levels that grow -/

namespace Level

variable {level middle after : Level}

/-- The level grows into another one: the rows that are done are the first of those that are done
then, and the open row grows into the one in its place. -/
structure GrowsInto (level after : Level) (reason : Prop) : Prop where
  /-- The rows that are done stay. -/
  done : level.done.reverse <+: after.done.reverse
  /-- The row that is open grows. -/
  openRow : ∀ row, level.openRow = some row → ∃ row',
    after.finish.rows[level.done.length]? = some row' ∧ row.close.GrowsInto row' reason

/-- A level whose reason is another one's. -/
theorem GrowsInto.mono (h : level.GrowsInto after reason) (himp : reason → reason') :
    level.GrowsInto after reason' where
  done := h.done
  openRow row hrow := by
    obtain ⟨row', hplace, hgrows⟩ := h.openRow row hrow
    exact ⟨row', hplace, hgrows.mono himp⟩

/-- A level that grows twice. -/
theorem GrowsInto.trans (h : level.GrowsInto middle reason)
    (hafter : middle.GrowsInto after reason') : level.GrowsInto after (reason ∨ reason') := by
  refine ⟨h.done.trans hafter.done, ?_⟩
  intro row hrow
  obtain ⟨row', hplace, hgrows⟩ := h.openRow row hrow
  have hle : level.done.length ≤ middle.done.length := by
    simpa using h.done.length_le
  rcases Nat.lt_or_eq_of_le hle with hlt | heq
  · -- the row has been ended, and is done
    have hdone : middle.done.reverse[level.done.length]? = some row' := by
      rw [← hplace, rows_finish_eq_append, List.getElem?_append_left (by simpa using hlt)]
    have hrows := hafter.done.trans after.done_prefix_rows_finish
    refine ⟨row', ?_, hgrows.mono Or.inl⟩
    rw [← hdone]
    exact (List.prefix_iff_getElem?.mp hrows _ (by simpa using hlt)).trans
      (List.getElem?_eq_getElem _).symm
  · rw [heq, rows_finish_getElem?_length] at hplace
    rw [heq]
    obtain ⟨row₁, hrow₁, rfl⟩ := Option.map_eq_some_iff.mp hplace
    obtain ⟨row'', hplace', hgrows'⟩ := hafter.openRow row₁ hrow₁
    exact ⟨row'', hplace', hgrows.trans hgrows'⟩

/-- A level on which the open row grows where it stands. -/
theorem GrowsInto.of_openRow (hdone : after.done = level.done)
    (hopen : ∀ row, level.openRow = some row → ∃ row', after.openRow = some row' ∧
      row.close.GrowsInto row'.close reason) : level.GrowsInto after reason := by
  refine ⟨by simp only [hdone, List.prefix_rfl], ?_⟩
  intro row hrow
  obtain ⟨row', hrow', hgrows⟩ := hopen row hrow
  refine ⟨row'.close, ?_, hgrows⟩
  rw [← hdone, rows_finish_getElem?_length, hrow']
  rfl

/-- A level that keeps its rows. -/
theorem GrowsInto.of_eq (hdone : after.done = level.done) (hopen : after.openRow = level.openRow) :
    level.GrowsInto after reason :=
  .of_openRow hdone fun row hrow => ⟨row, hopen.trans hrow, .refl _⟩

/-- A level in whose current row a cell is written: the newest one, or one that follows it. -/
theorem GrowsInto.put {cells : List Cell} (hdone : after.done = level.done)
    (hopen : after.openRow = some { level.currentRow with cells })
    (hcells : (∃ newest older written, level.currentRow.cells = newest :: older ∧
        cells = written :: older ∧ newest.width ≤ written.width ∧
          (written.nested ≠ newest.nested → reason)) ∨
      ∃ written, cells = written :: level.currentRow.cells) : level.GrowsInto after reason := by
  apply GrowsInto.of_openRow hdone
  intro row hrow
  rw [currentRow_of_some hrow] at hopen hcells
  refine ⟨_, hopen, OpenRow.growsInto_close (Nat.le_refl _) ?_⟩
  intro last older hlast
  rw [hlast] at hcells
  rcases hcells with ⟨newest, others, written, heq, rfl, hwidth, hnested⟩ | ⟨written, rfl⟩
  · obtain ⟨rfl, rfl⟩ := List.cons.inj heq
    exact ⟨written, [], rfl, hwidth, hnested⟩
  · exact ⟨last, [written], rfl, Nat.le_refl _, fun hne => absurd rfl hne⟩

/-- Growth widens the last cell or starts one behind it. -/
theorem growsInto_grow (level : Level) (color : Option Color) :
    level.GrowsInto (level.grow color) reason := by
  rcases level.grow_cases color with ⟨newest, older, hcells, -, hgrow⟩ | ⟨-, hgrow⟩
  · rw [hgrow]
    refine .put rfl rfl (Or.inl ⟨newest, older, _, hcells, rfl, Nat.le_succ _, ?_⟩)
    exact fun hne => absurd rfl hne
  · rw [hgrow]
    exact .put rfl rfl (Or.inr ⟨_, rfl⟩)

/-- A raise makes the open row no lower. -/
theorem growsInto_raise (level : Level) : level.GrowsInto level.raise reason := by
  rcases level.raise_cases with ⟨row, hrow, -, hraise⟩ | ⟨-, hraise⟩
  · rw [hraise]
    refine .of_openRow rfl ?_
    intro row' hrow'
    obtain rfl : row = row' := Option.some.inj (hrow.symm.trans hrow')
    refine ⟨_, rfl, OpenRow.growsInto_close (Nat.le_max_left _ _) ?_⟩
    intro last older hcells
    exact ⟨last, [], hcells, Nat.le_refl _, fun hne => absurd rfl hne⟩
  · rw [hraise]
    exact .of_eq rfl rfl

/-- A break ends the open row as it stands. -/
theorem growsInto_breakRow (level : Level) : level.GrowsInto level.breakRow reason := by
  refine ⟨level.done_prefix_rows_finish, ?_⟩
  intro row hrow
  refine ⟨row.close, ?_, .refl _⟩
  show level.finish.rows[level.done.length]? = some row.close
  rw [rows_finish_getElem?_length, hrow]
  rfl

/-- A grid goes into the last cell if the last move grew that, or else into one behind it. -/
theorem growsInto_attach (level : Level) (color : Option Color) (grid : Grid) :
    level.GrowsInto (level.attach color grid) (level.lastMove = .grew) := by
  rcases level.attach_cases color grid with ⟨newest, older, hcells, hmove, hattach⟩ | ⟨-, hattach⟩
  · rw [hattach]
    exact .put rfl rfl (Or.inl ⟨newest, older, _, hcells, rfl, Nat.le_refl _, fun _ => hmove⟩)
  · rw [hattach]
    exact .put rfl rfl (Or.inr ⟨_, rfl⟩)

/-- No unit that applies to a level puts a grid into a cell. -/
theorem growsInto_take (level : Level) (unit : Lexeme) :
    level.GrowsInto (level.take unit) reason := by
  rcases unit with _ | command | char
  · exact .of_eq rfl rfl
  · cases command with
    | breakRow => exact level.growsInto_breakRow
    | grow => exact level.growsInto_grow _
    | recurse => exact level.growsInto_grow _
    | raise => exact level.growsInto_raise
    | nest => exact .of_eq rfl rfl
    | hue hue => exact .of_eq rfl rfl
    | lighten => exact .of_eq rfl rfl
    | modeShift => exact .of_eq rfl rfl
    | modeReset => exact .of_eq rfl rfl
  · exact .of_eq rfl rfl

end Level

/-! ### Levels on the stack -/

/-- The levels of a builder, outermost first. -/
def Builder.levels (builder : Builder) : List Level :=
  builder.outer.reverse.map (·.level) ++ [builder.level]

namespace Builder

variable {builder : Builder} {waiting : Suspended} {level before after : Level}
  {outer : List Suspended} {unit : Lexeme} {d : Nat}

/-- There is one level more than wait. -/
@[simp] theorem length_levels (builder : Builder) :
    builder.levels.length = builder.outer.length + 1 := by
  simp [levels]

/-- The innermost level is the last one. -/
theorem levels_getElem?_length (level : Level) (outer : List Suspended) :
    (⟨level, outer⟩ : Builder).levels[outer.length]? = some level := by
  simp [levels]

/-- The innermost level comes after those that wait for it. -/
theorem levels_cons (level : Level) (waiting : Suspended) (outer : List Suspended) :
    (⟨level, waiting :: outer⟩ : Builder).levels =
      (⟨waiting.level, outer⟩ : Builder).levels ++ [level] := by
  simp [levels]

/-- A level around another one does not depend on that. -/
theorem levels_getElem?_cons (level : Level) (h : d < outer.length + 1) :
    (⟨level, waiting :: outer⟩ : Builder).levels[d]? =
      (⟨waiting.level, outer⟩ : Builder).levels[d]? := by
  rw [levels_cons, List.getElem?_append_left (by simpa using h)]

/-- Levels around the innermost one do not depend on it. -/
theorem levels_getElem?_congr (level after : Level) (h : d < outer.length) :
    (⟨level, outer⟩ : Builder).levels[d]? = (⟨after, outer⟩ : Builder).levels[d]? := by
  unfold levels
  rw [List.getElem?_append_left (by simpa using h), List.getElem?_append_left (by simpa using h)]

/-- Where another level takes the place of the innermost one, all others stay. -/
theorem growsInto_innermost {level' : Level}
    (hlevel : outer.length = d → level.GrowsInto level' reason)
    (hbefore : (⟨level, outer⟩ : Builder).levels[d]? = some before)
    (hafter : (⟨level', outer⟩ : Builder).levels[d]? = some after) :
    before.GrowsInto after reason := by
  rcases Nat.lt_trichotomy d outer.length with hlt | rfl | hgt
  · rw [levels_getElem?_congr level level' hlt, hafter] at hbefore
    obtain rfl := Option.some.inj hbefore
    exact .of_eq rfl rfl
  · rw [levels_getElem?_length] at hbefore hafter
    obtain rfl := Option.some.inj hbefore
    obtain rfl := Option.some.inj hafter
    exact hlevel rfl
  · rw [List.getElem?_eq_none (by rw [length_levels]; exact hgt)] at hbefore
    cases hbefore

/-- All levels that stay on the stack grow with a unit. A grid is put into a cell that stands
already if a close gives it to a level whose last move is a growth. -/
theorem growsInto_step (hbefore : builder.levels[d]? = some before)
    (hafter : (builder.step unit).levels[d]? = some after) :
    before.GrowsInto after (unit = .close ∧ ∃ waiting outer,
      builder.outer = waiting :: outer ∧ outer.length = d ∧ waiting.level.lastMove = .grew) := by
  obtain ⟨level, outer⟩ := builder
  by_cases hclose : unit = .close
  · subst hclose
    rcases outer with _ | ⟨waiting, outer⟩
    · exact growsInto_innermost (fun _ => level.growsInto_take .close) hbefore hafter
    · have hd : d < outer.length + 1 := by
        have hlt := (List.getElem?_eq_some_iff.mp hafter).1
        rwa [length_levels] at hlt
      rw [levels_getElem?_cons level hd] at hbefore
      refine growsInto_innermost ?_ hbefore hafter
      intro hlength
      exact (waiting.level.growsInto_attach waiting.color level.finish).mono
        fun hgrew => ⟨rfl, waiting, outer, rfl, hlength, hgrew⟩
  by_cases hnest : unit = .command .nest
  · subst hnest
    have hd : d < outer.length + 1 := by
      have hlt := (List.getElem?_eq_some_iff.mp hbefore).1
      rwa [length_levels] at hlt
    rw [step_nest, levels_getElem?_cons level.nestedStart hd] at hafter
    refine growsInto_innermost ?_ hbefore hafter
    exact fun _ => .of_eq rfl rfl
  · rw [step_eq_modify _ hclose hnest] at hafter
    exact growsInto_innermost (fun _ => level.growsInto_take unit) hbefore hafter

end Builder

/-! ### What the flag for growth means -/

/-- Before the position there is a growth on its level, and no `B`, `p` or `S` in between. -/
def FollowsGrowth (units : List Lexeme) (k : Nat) : Prop :=
  ∃ g < k, (∃ unit, units[g]? = some unit ∧ unit.IsGrowth) ∧ openers units g = openers units k ∧
    ∀ j, g < j → j < k → ∀ unit, units[j]? = some unit → ¬unit.Interrupts

variable {units : List Lexeme} {ink : Ink} {k d : Nat} {unit : Lexeme} {before after : Level}

/-- Right behind a growth. -/
theorem followsGrowth_succ_of_isGrowth (h : units[k]? = some unit) (hgrowth : unit.IsGrowth) :
    FollowsGrowth units (k + 1) := by
  refine ⟨k, Nat.lt_succ_self k, ⟨unit, h, hgrowth⟩, ?_, ?_⟩
  · rw [openers_of_ne]
    · rw [h]
      rintro ⟨rfl⟩
      exact absurd hgrowth (by decide)
    · rw [h]
      rintro ⟨rfl⟩
      exact absurd hgrowth (by decide)
  · intro j hkj hjk
    omega

/-- Right behind a unit that interrupts growth. -/
theorem not_followsGrowth_succ (h : units[k]? = some unit) (hinterrupts : unit.Interrupts) :
    ¬FollowsGrowth units (k + 1) := by
  rintro ⟨g, hg, ⟨grown, hunit, hgrown⟩, -, hbetween⟩
  rcases Nat.lt_or_eq_of_le (Nat.le_of_lt_succ hg) with hlt | rfl
  · exact hbetween k hlt (Nat.lt_succ_self k) unit h hinterrupts
  · obtain rfl : unit = grown := Option.some.inj (h.symm.trans hunit)
    exact hinterrupts.not_isGrowth hgrown

/-- Right behind any other unit it is as before it. -/
theorem followsGrowth_succ_iff (h : units[k]? = some unit) (hgrowth : ¬unit.IsGrowth)
    (hinterrupts : ¬unit.Interrupts) : FollowsGrowth units (k + 1) ↔ FollowsGrowth units k := by
  have hopeners : openers units (k + 1) = openers units k := by
    apply openers_of_ne
    · rw [h]
      rintro ⟨rfl⟩
      exact hinterrupts (by decide)
    · rw [h]
      rintro ⟨rfl⟩
      exact hinterrupts (by decide)
  constructor
  · rintro ⟨g, hg, ⟨grown, hunit, hgrown⟩, hlevel, hbetween⟩
    have hne : g ≠ k := by
      rintro rfl
      obtain rfl : unit = grown := Option.some.inj (h.symm.trans hunit)
      exact hgrowth hgrown
    refine ⟨g, by omega, ⟨grown, hunit, hgrown⟩, hlevel.trans hopeners, ?_⟩
    exact fun j hgj hjk => hbetween j hgj (Nat.lt_succ_of_lt hjk)
  · rintro ⟨g, hg, hgrown, hlevel, hbetween⟩
    refine ⟨g, Nat.lt_succ_of_lt hg, hgrown, hlevel.trans hopeners.symm, ?_⟩
    intro j hgj hjk
    rcases Nat.lt_or_eq_of_le (Nat.le_of_lt_succ hjk) with hlt | rfl
    · exact hbetween j hgj hlt
    · intro other hother
      obtain rfl : unit = other := Option.some.inj (h.symm.trans hother)
      exact hinterrupts

/-- The last move on the innermost level is a growth if the position follows one. -/
theorem lastMove_reached_eq_grew_iff (ink : Ink) (hk : k ≤ units.length) :
    (reached units ink k).level.lastMove = .grew ↔ FollowsGrowth units k := by
  induction k, hk using position_induction with
  | start =>
      constructor
      · rintro ⟨⟩
      · rintro ⟨g, hg, -⟩
        exact absurd hg (Nat.not_lt_zero g)
  | nest k _ h _ =>
      rw [reached_level_nest h]
      refine iff_of_false ?_ (not_followsGrowth_succ h (by decide))
      rintro ⟨⟩
  | close k s rest _ _ h hopen _ _ =>
      rw [reached_level_close h hopen]
      refine iff_of_false ?_ (not_followsGrowth_succ h (by decide))
      rintro ⟨⟩
  | other k unit _ h hnest hstray ih =>
      rw [reached_level_other h hnest hstray, Level.lastMove_take_eq_grew_iff hnest, ih]
      by_cases hgrowth : unit.IsGrowth
      · exact iff_of_true (Or.inl hgrowth) (followsGrowth_succ_of_isGrowth h hgrowth)
      by_cases hinterrupts : unit.Interrupts
      · refine iff_of_false ?_ (not_followsGrowth_succ h hinterrupts)
        rintro (hgrown | ⟨hnot, -⟩)
        · exact hgrowth hgrown
        · exact hnot hinterrupts
      · rw [followsGrowth_succ_iff h hgrowth hinterrupts]
        constructor
        · rintro (hgrown | ⟨-, hfollows⟩)
          · exact absurd hgrown hgrowth
          · exact hfollows
        · exact fun hfollows => Or.inr ⟨hinterrupts, hfollows⟩

/-! ### Levels along a program -/

/-- The unit puts a grid into a cell that stands already on the level so deep: it closes a program
whose `S` followed a growth there. -/
def Refills (units : List Lexeme) (k d : Nat) : Prop :=
  units[k]? = some .close ∧ ∃ s rest,
    openers units k = s :: rest ∧ rest.length = d ∧ FollowsGrowth units s

/-- A unit lets all levels grow that stay on the stack. -/
theorem growsInto_reached_succ (hk : k < units.length)
    (hbefore : (reached units ink k).levels[d]? = some before)
    (hafter : (reached units ink (k + 1)).levels[d]? = some after) :
    before.GrowsInto after (Refills units k d) := by
  have hunit : units[k]? = some units[k] := List.getElem?_eq_getElem hk
  rw [reached_succ hunit] at hafter
  refine (Builder.growsInto_step hbefore hafter).mono ?_
  rintro ⟨hclose, waiting, outer, houter, hlength, hgrew⟩
  have hstack := reached_outer ink (Nat.le_of_lt hk)
  rcases hopen : openers units k with _ | ⟨s, rest⟩
  · rw [hopen, houter] at hstack
    cases hstack
  · rw [hopen, houter, List.map_cons] at hstack
    obtain ⟨rfl, hrest⟩ := List.cons.inj hstack
    have hs : s ≤ units.length := by
      have := lt_of_openers_cons hopen
      omega
    refine ⟨by rw [hunit, hclose], s, rest, hopen, ?_, ?_⟩
    · rw [← hlength, hrest, List.length_map]
    · exact (lastMove_reached_eq_grew_iff ink hs).mp hgrew

/-- A level grows as long as it stays on the stack. -/
theorem growsInto_reached {j : Nat} (hkj : k ≤ j) (hj : j ≤ units.length)
    (hstays : ∀ i, k ≤ i → i ≤ j → d < (reached units ink i).levels.length)
    (hbefore : (reached units ink k).levels[d]? = some before)
    (hafter : (reached units ink j).levels[d]? = some after) :
    before.GrowsInto after (∃ i, k ≤ i ∧ i < j ∧ Refills units i d) := by
  induction hkj generalizing after with
  | refl =>
      obtain rfl : before = after := Option.some.inj (hbefore.symm.trans hafter)
      exact .of_eq rfl rfl
  | @step j hkj ih =>
      obtain ⟨middle, hmiddle⟩ : ∃ middle, (reached units ink j).levels[d]? = some middle :=
        ⟨_, List.getElem?_eq_getElem (hstays j hkj (Nat.le_succ j))⟩
      have hfirst := ih (Nat.le_of_succ_le hj)
        (fun i hki hij => hstays i hki (Nat.le_succ_of_le hij)) hmiddle
      refine (hfirst.trans (growsInto_reached_succ hj hmiddle hafter)).mono ?_
      rintro (⟨i, hki, hij, hrefills⟩ | hrefills)
      · exact ⟨i, hki, Nat.lt_succ_of_lt hij, hrefills⟩
      · exact ⟨j, hkj, Nat.lt_succ_self j, hrefills⟩

/-- What comes behind a text that does not cut a pair of `B`s is cut on its own. -/
theorem lexemes_append_of_not_cut {part rest : List Char}
    (h : EndsUnpaired part → rest.head? ≠ some 'B') :
    lexemes (part ++ rest) = lexemes part ++ lexemes rest := by
  by_cases hend : EndsUnpaired part
  · exact lexemes_append (h hend) part
  · exact settled_of_not_endsUnpaired hend rest

/-- The rows that are done on the outermost level are the first ones of the grid. -/
theorem done_prefix_rows_scan {part rest : List Char} {level : Level}
    (hcut : EndsUnpaired part → rest.head? ≠ some 'B')
    (hlevel : ((Builder.start ink).run (lexemes part)).levels[0]? = some level) :
    level.done.reverse <+: (scan (part ++ rest) ink).rows := by
  obtain ⟨more, hunits⟩ : ∃ more, closedUnits (part ++ rest) = lexemes part ++ more := by
    rw [closedUnits, lexemes_append_of_not_cut hcut, List.append_assoc]
    exact ⟨_, rfl⟩
  have hpart : (lexemes part).length ≤ (closedUnits (part ++ rest)).length := by
    rw [hunits, List.length_append]
    exact Nat.le_add_right _ _
  have hbefore : (reached (closedUnits (part ++ rest)) ink (lexemes part).length).levels[0]? =
      some level := by
    rw [← hlevel, reached, hunits, List.take_left]
  have hlast := reached_closedUnits (part ++ rest) ink
  have hafter : (reached (closedUnits (part ++ rest)) ink
      (closedUnits (part ++ rest)).length).levels[0]? =
        some ((Builder.start ink).run (lexemes (part ++ rest))).unwind := by
    rw [hlast]
    rfl
  have hgrows := growsInto_reached hpart (Nat.le_refl _)
    (fun i _ _ => by rw [Builder.length_levels]; exact Nat.succ_pos _) hbefore hafter
  exact hgrows.done.trans (Level.done_prefix_rows_finish _)

/-- **Building appends.** With every unit all levels grow that stay on the stack, and a cell that
stands already is given another grid only by the close of a program whose `S` came after a growth
on that level, with no `B`, `p` or `S` in between. So the rows that are done on the outermost level
after a part of a program, cut anywhere but within a pair of `B`s, are the first rows of the
grid. -/
theorem building_appends (ink : Ink) :
    (∀ units k d (before after : Level), k < units.length →
      (reached units ink k).levels[d]? = some before →
      (reached units ink (k + 1)).levels[d]? = some after →
        before.GrowsInto after (Refills units k d)) ∧
      ∀ part rest level, (EndsUnpaired part → rest.head? ≠ some 'B') →
        ((Builder.start ink).run (lexemes part)).levels[0]? = some level →
          level.done.reverse <+: (scan (part ++ rest) ink).rows :=
  ⟨fun _ _ _ _ _ hk hbefore hafter => growsInto_reached_succ hk hbefore hafter,
    fun _ _ _ hcut hlevel => done_prefix_rows_scan hcut hlevel⟩

/-- The second row is open, and its cell has just been grown when the nested program begins. Its
close puts the grid there, and the first row stays whatever follows. -/
theorem building_appends_refill :
    let units := lexemes "bBbrSbBB".toList
    Refills units 6 0 ∧ ∃ before after : Level,
      (reached units {} 6).levels[0]? = some before ∧
        (reached units {} 7).levels[0]? = some after ∧
        before.GrowsInto after (Refills units 6 0) ∧ before.done.length = 1 ∧
        before.done.reverse <+: (scan ("bBbrSb".toList ++ "BBpbB".toList) {}).rows := by
  intro units
  have hfollows : FollowsGrowth units 4 := by
    refine ⟨2, by decide, ⟨.command .grow, by decide, by decide⟩, by decide, ?_⟩
    intro j hlt hgt unit hunit
    obtain rfl : j = 3 := by omega
    obtain rfl : Lexeme.command (.hue .red) = unit := Option.some.inj hunit
    decide
  refine ⟨⟨by decide, 4, [], by decide, rfl, hfollows⟩, _, _, rfl, rfl, ?_, rfl, ?_⟩
  · exact (building_appends {}).1 units 6 0 _ _ (by decide) rfl rfl
  · exact (building_appends {}).2 "bBbrSb".toList "BBpbB".toList _ (by decide) rfl

end Slab
