import Mathlib.Data.List.Forall2
import Slab.Proofs.Values

/-!
# Arrays and objects are read back

A layout writes items between brackets and members between braces. If each item is given back by
the reader of items, the array is (`gives_array`), and if each member is, the object is
(`gives_record`): allowed if all parts are. A bracket for which no reader is left is too deep
(`gives_array_none`, `gives_record_none`).
-/

namespace Slab.Json

/-- The layout puts nothing but blanks between the parts of a text. -/
structure Layout.Blanks (layout : Layout) : Prop where
  /-- What stands around items. -/
  gap : ∀ level, Blank (layout.gap level)
  /-- What stands after a colon. -/
  colon : ∃ blanks, Blank blanks ∧ layout.colon = ':' :: blanks

/-- Without blanks there is nothing else. -/
theorem Layout.blanks_compact : Layout.compact.Blanks where
  gap _ := blank_nil
  colon := ⟨[], blank_nil, rfl⟩

/-- Line ends and spaces are blanks. -/
theorem Layout.blanks_pretty : Layout.pretty.Blanks where
  gap level := by
    intro c hc
    rcases List.mem_cons.mp hc with rfl | hc
    · rfl
    · rw [List.eq_of_mem_replicate hc]
      rfl
  colon := by
    refine ⟨[' '], ?_, rfl⟩
    intro c hc
    obtain rfl := List.mem_singleton.mp hc
    rfl

namespace Reader

variable {α σ : Type} {layout : Layout} {level : Nat}

/-! ### Items of an array -/

section

variable {item : Reader α} {found : List α} {text after rest : List Char} {value : α}

/-- A fault of an item is a fault of the array. -/
theorem itemsFrom_of_error {fault : Fault} (h : item.run text = .error fault) :
    itemsFrom item found text = .error fault := by
  rw [itemsFrom]
  split
  · next heq => rw [h] at heq; cases heq; rfl
  · next heq => rw [h] at heq; cases heq

/-- A bracket behind an item ends the array. -/
theorem itemsFrom_of_bracket (h : item.run text = .ok (value, after))
    (hblank : skipBlanks after = ']' :: rest) :
    itemsFrom item found text = .ok ((value :: found).reverse, rest) := by
  rw [itemsFrom]
  split
  · next heq => rw [h] at heq; cases heq
  · next heq =>
      rw [h] at heq
      cases heq
      split
      · next heq => rw [hblank] at heq; cases heq
      · next heq => rw [hblank] at heq; cases heq; rfl

/-- A comma behind an item announces another one. -/
theorem itemsFrom_of_comma (h : item.run text = .ok (value, after))
    (hblank : skipBlanks after = ',' :: rest) :
    itemsFrom item found text = itemsFrom item (value :: found) rest := by
  rw [itemsFrom]
  split
  · next heq => rw [h] at heq; cases heq
  · next heq =>
      rw [h] at heq
      cases heq
      split
      · next heq => rw [hblank] at heq; cases heq
      · next heq => rw [hblank] at heq; cases heq; rfl

end

/-- What follows an item ends a number. -/
theorem stops_tail (h : layout.Blanks) (items : List (List Char)) {closing : Char}
    (hclosing : EndsNumber closing) (rest : List Char) :
    Stops (layout.tail level items ++ (layout.gap level ++ closing :: rest)) := by
  rcases items with _ | ⟨item, items⟩
  · exact (h.gap level).stops (stops_cons hclosing rest)
  · exact stops_cons (by decide) _

/-- Further items begin with a comma, and then the next one follows in its place. -/
theorem skipBlanks_tail (layout : Layout) (level : Nat) (item : List Char)
    (items : List (List Char)) (rest : List Char) :
    skipBlanks (layout.tail level (item :: items) ++ rest) =
      ',' :: (layout.gap (level + 1) ++ (item ++ (layout.tail level items ++ rest))) := by
  have htail : layout.tail level (item :: items) ++ rest =
      ',' :: (layout.gap (level + 1) ++ (item ++ (layout.tail level items ++ rest))) := by
    simp [Layout.tail]
  rw [htail]
  exact skipBlanks_append blank_nil (by decide) _

/-- Items that are given back are read one after the other. -/
theorem itemsFrom_texts (h : layout.Blanks) {item : Reader α} {allowed : α → Prop}
    {texts : List (List Char)} {values : List α}
    (hitems : List.Forall₂ (fun text value => item.Gives text value (allowed value)) texts values)
    {text : List Char} {value : α} (hitem : item.Gives text value (allowed value))
    (found : List α) {gap : List Char} (hgap : Blank gap) (rest : List Char) :
    let whole := gap ++ (text ++ (layout.tail level texts ++ (layout.gap level ++ ']' :: rest)))
    ((∀ other ∈ value :: values, allowed other) →
        itemsFrom item found whole = .ok (found.reverse ++ value :: values, rest)) ∧
      ((¬∀ other ∈ value :: values, allowed other) →
        itemsFrom item found whole = .error .malformed) := by
  intro whole
  induction hitems generalizing text value found gap with
  | nil =>
      have hstops : Stops (layout.tail level [] ++ (layout.gap level ++ ']' :: rest)) :=
        stops_tail h [] (by decide) rest
      obtain ⟨hread, hdeep⟩ := hitem gap _ hgap hstops
      constructor
      · intro hall
        rw [itemsFrom_of_bracket (hread (hall value List.mem_cons_self))
          (skipBlanks_append (h.gap level) (by decide) rest), List.reverse_cons]
      · intro hnot
        apply itemsFrom_of_error
        apply hdeep
        intro hvalue
        exact hnot (by simpa using hvalue)
  | @cons next other texts values hnext hitems ih =>
      have hstops :
          Stops (layout.tail level (next :: texts) ++ (layout.gap level ++ ']' :: rest)) :=
        stops_tail h (next :: texts) (by decide) rest
      obtain ⟨hread, hdeep⟩ := hitem gap _ hgap hstops
      by_cases hvalue : allowed value
      · have hrest := ih hnext (value :: found) (h.gap (level + 1))
        rw [itemsFrom_of_comma (hread hvalue) (skipBlanks_tail layout level next texts _)]
        constructor
        · intro hall
          rw [hrest.1 fun more hmore => hall more (List.mem_cons_of_mem _ hmore)]
          simp
        · intro hnot
          apply hrest.2
          intro hall
          exact hnot (List.forall_mem_cons.mpr ⟨hvalue, hall⟩)
      · constructor
        · intro hall
          exact absurd (hall value List.mem_cons_self) hvalue
        · intro _
          exact itemsFrom_of_error (hdeep hvalue)

/-- An array is read by what follows its bracket. -/
theorem run_array (item : Option (Reader α)) {gap : List Char} (hgap : Blank gap)
    (text : List Char) :
    (array item).run (gap ++ '[' :: text) =
      match item with
      | some item => items item text
      | none => .error .malformed := by
  unfold array
  simp only [skipBlanks_append hgap (show ¬isBlank '[' by decide), if_true]
  rcases item with _ | item
  · rfl
  · rfl

/-- An array whose items are objects and are given back is given back. -/
theorem gives_array (h : layout.Blanks) {item : Reader α} {allowed : α → Prop}
    {texts : List (List Char)} {values : List α}
    (hitems : List.Forall₂ (fun text value => item.Gives text value (allowed value)) texts values)
    (hfront : ∀ text ∈ texts, text.head? = some '\x7b') :
    (array (some item)).Gives (layout.block level '[' ']' texts) values
      (∀ value ∈ values, allowed value) := by
  intro gap rest hgap _
  rcases hitems with _ | @⟨text, value, texts, values, hitem, hitems⟩
  · have hbracket : skipBlanks (']' :: rest) = ']' :: rest :=
      skipBlanks_append blank_nil (by decide) rest
    have hempty : items item (']' :: rest) = .ok ([], rest) := by
      unfold items
      rw [hbracket]
      rfl
    constructor
    · intro _
      exact (run_array (some item) hgap _).trans hempty
    · intro hnot
      exact absurd (fun value hvalue => nomatch hvalue) hnot
  · obtain ⟨tail, htext⟩ := List.head?_eq_some_iff.mp (hfront text List.mem_cons_self)
    have hblock : gap ++ (layout.block level '[' ']' (text :: texts) ++ rest) =
        gap ++ '[' :: (layout.gap (level + 1) ++
          (text ++ (layout.tail level texts ++ (layout.gap level ++ ']' :: rest)))) := by
      simp [Layout.block]
    have hfirst : items item (layout.gap (level + 1) ++
          (text ++ (layout.tail level texts ++ (layout.gap level ++ ']' :: rest)))) =
        itemsFrom item [] (layout.gap (level + 1) ++
          (text ++ (layout.tail level texts ++ (layout.gap level ++ ']' :: rest)))) := by
      unfold items
      rw [htext, List.cons_append, skipBlanks_append (h.gap (level + 1)) (by decide)]
      rfl
    rw [hblock, run_array (some item) hgap]
    dsimp only
    rw [hfirst]
    exact itemsFrom_texts h hitems hitem [] (h.gap (level + 1)) rest

/-- Where no bracket may be opened, an array is not read. -/
theorem gives_array_none (texts : List (List Char)) (values : List α) :
    (array (none : Option (Reader α))).Gives (layout.block level '[' ']' texts) values False := by
  intro gap rest hgap _
  refine ⟨False.elim, fun _ => ?_⟩
  rcases texts with _ | ⟨text, texts⟩
  · exact run_array none hgap _
  · exact run_array none hgap _

/-! ### Members of an object -/

/-- What is known before and after some members, and whether they are allowed: the reader of each
key gives back the value that is written behind it. -/
inductive FieldsGive (layout : Layout) (fields : Fields σ) :
    σ → List (List Char) → σ → Prop → Prop
  /-- Without members nothing more is known. -/
  | nil (known : σ) : FieldsGive layout fields known [] known True
  /-- A member tells something, and so may those that follow. -/
  | cons {known next last : σ} {key : String} {text : List Char} {members : List (List Char)}
    {reader : Reader σ} {allowed more : Prop} (hkey : PlainText key.toList)
    (hfield : fields known key.toList = .ok reader) (hvalue : reader.Gives text next allowed)
    (hrest : FieldsGive layout fields next members last more) :
    FieldsGive layout fields known (layout.member key text :: members) last (allowed ∧ more)

/-- The condition may be put in other words. -/
theorem FieldsGive.congr {fields : Fields σ} {known last : σ} {members : List (List Char)}
    {allowed other : Prop} (h : FieldsGive layout fields known members last allowed)
    (hiff : allowed ↔ other) : FieldsGive layout fields known members last other := by
  rwa [← propext hiff]

section

variable {fields : Fields σ} {known next last : σ} {key : String} {reader : Reader σ}
  {text members gap : List Char} {allowed : Prop}

/-- A member is read by the reader that its key has. -/
theorem membersFrom_member (h : layout.Blanks) (hkey : PlainText key.toList)
    (hfield : fields known key.toList = .ok reader) (hgap : Blank gap) (more : List Char) :
    ∃ colonGap, Blank colonGap ∧
      membersFrom fields known (gap ++ (layout.member key text ++ more)) =
        match reader.run (colonGap ++ (text ++ more)) with
        | .error fault => .error fault
        | .ok (next, after) =>
          match skipBlanks after with
          | [] => .error .endOfText
          | c :: rest =>
            if c = '\x7d' then .ok (next, rest)
            else if c = ',' then membersFrom fields next rest
            else .error .malformed := by
  obtain ⟨colonGap, hcolonGap, hcolon⟩ := h.colon
  refine ⟨colonGap, hcolonGap, ?_⟩
  have hquote : skipBlanks (gap ++ (layout.member key text ++ more)) =
      '"' :: (key.toList ++ '"' :: (':' :: (colonGap ++ (text ++ more)))) := by
    have hskip := skipBlanks_append hgap (show ¬isBlank '"' by decide)
      (key.toList ++ '"' :: (':' :: (colonGap ++ (text ++ more))))
    simpa [Layout.member, hcolon] using hskip
  have hbody := stringBody_plain hkey true [] (':' :: (colonGap ++ (text ++ more)))
  have hskip : skipBlanks (':' :: (colonGap ++ (text ++ more))) =
      ':' :: (colonGap ++ (text ++ more)) := skipBlanks_append blank_nil (by decide) _
  rw [membersFrom]
  split
  · next heq => rw [hquote] at heq; cases heq
  next heq =>
  rw [hquote] at heq
  cases heq
  rw [if_pos rfl]
  split
  · next heq => rw [hbody] at heq; cases heq
  next heq =>
  rw [hbody] at heq
  cases heq
  split
  · next heq => rw [List.reverse_nil, List.nil_append, hfield] at heq; cases heq
  next heq =>
  rw [List.reverse_nil, List.nil_append, hfield] at heq
  cases heq
  split
  · next heq => rw [hskip] at heq; cases heq
  next heq =>
  rw [hskip] at heq
  cases heq
  rw [if_pos rfl]
  split
  · next heq => rw [heq]
  next hread =>
  split
  · next hend => simp only [hread, hend]
  · next hfront => simp only [hread, hfront]

/-- Members that are given back are read one after the other. -/
theorem membersFrom_texts (h : layout.Blanks) (level : Nat) {member : List Char}
    {members : List (List Char)}
    (hmembers : FieldsGive layout fields known (member :: members) last allowed)
    (hgap : Blank gap) (rest : List Char) :
    let whole :=
      gap ++ (member ++ (layout.tail level members ++ (layout.gap level ++ '\x7d' :: rest)))
    (allowed → membersFrom fields known whole = .ok (last, rest)) ∧
      (¬allowed → membersFrom fields known whole = .error .malformed) := by
  intro whole
  generalize hall : member :: members = all at hmembers
  induction hmembers generalizing member members gap with
  | nil => cases hall
  | @cons known next last key text later reader allowed more hkey hfield hvalue hlater ih =>
      cases hall
      have hstops : Stops (layout.tail level later ++ (layout.gap level ++ '\x7d' :: rest)) :=
        stops_tail h later (by decide) rest
      obtain ⟨colonGap, hcolonGap, hmember⟩ := membersFrom_member h hkey hfield hgap
        (layout.tail level later ++ (layout.gap level ++ '\x7d' :: rest))
      obtain ⟨hread, hdeep⟩ := hvalue colonGap _ hcolonGap hstops
      have hfault : ¬allowed → membersFrom fields known whole = .error .malformed := by
        intro hnot
        rw [hmember, hdeep hnot]
      rcases later with _ | ⟨following, later⟩
      · cases hlater
        constructor
        · rintro ⟨hallowed, -⟩
          rw [hmember, hread hallowed]
          dsimp only
          rw [Layout.tail, List.flatMap_nil, List.nil_append,
            skipBlanks_append (h.gap level) (by decide) rest]
          rfl
        · intro hnot
          apply hfault
          intro hallowed
          exact hnot ⟨hallowed, trivial⟩
      · obtain ⟨hmore, hfails⟩ := ih (h.gap (level + 1)) rfl
        by_cases hallowed : allowed
        · have hgo : membersFrom fields known whole = membersFrom fields next
              (layout.gap (level + 1) ++ (following ++ (layout.tail level later ++
                (layout.gap level ++ '\x7d' :: rest)))) := by
            rw [hmember, hread hallowed]
            dsimp only
            rw [skipBlanks_tail]
            rfl
          rw [hgo]
          constructor
          · rintro ⟨-, hlast⟩
            exact hmore hlast
          · intro hnot
            apply hfails
            intro hlast
            exact hnot ⟨hallowed, hlast⟩
        · constructor
          · rintro ⟨hyes, -⟩
            exact absurd hyes hallowed
          · intro _
            exact hfault hallowed

end

/-- A record in an object is read by what follows its brace. -/
theorem run_record {wanted : Wanted} {inArray inObject : List Char → Except Fault (α × List Char)}
    {harray hobject} {gap : List Char} (hgap : Blank gap) (text : List Char) :
    (record wanted inArray inObject harray hobject).run (gap ++ '\x7b' :: text) =
      inObject text := by
  unfold record
  simp only [skipBlanks_append hgap (show ¬isBlank '\x7b' by decide), if_true]
  rw [if_neg (by decide)]

/-- A record in an object is given back, if its members are and what they tell makes up the
value. -/
theorem gives_record (h : layout.Blanks) {wanted : Wanted} {fields : Fields σ} {start last : σ}
    {inArray inObject : List Char → Except Fault (α × List Char)} {harray hobject}
    {finish : σ → Except Fault α} {value : α} {allowed : Prop} {texts : List (List Char)}
    (hmembers : FieldsGive layout fields start texts last allowed) (hne : texts ≠ [])
    (hfinish : finish last = .ok value)
    (hinObject : ∀ text, inObject text =
      match members fields start text with
      | .error fault => .error fault
      | .ok (known, rest) => (finish known).map (·, rest)) :
    (record wanted inArray inObject harray hobject).Gives
      (layout.block level '\x7b' '\x7d' texts) value allowed := by
  intro gap rest hgap _
  obtain ⟨member, later, rfl⟩ := List.exists_cons_of_ne_nil hne
  let body := layout.gap (level + 1) ++
    (member ++ (layout.tail level later ++ (layout.gap level ++ '\x7d' :: rest)))
  obtain ⟨hread, hdeep⟩ := membersFrom_texts h level hmembers (h.gap (level + 1)) rest
  have hblock : gap ++ (layout.block level '\x7b' '\x7d' (member :: later) ++ rest) =
      gap ++ '\x7b' :: body := by
    simp [Layout.block, body]
  have hfirst : members fields start body = membersFrom fields start body := by
    have hquote : ∃ tail, member = '"' :: tail := by
      cases hmembers
      exact ⟨_, rfl⟩
    obtain ⟨tail, rfl⟩ := hquote
    unfold members
    rw [show skipBlanks body = _ from skipBlanks_append (h.gap (level + 1)) (by decide) _]
    rfl
  rw [hblock, run_record hgap, hinObject, hfirst]
  constructor
  · intro hallowed
    rw [hread hallowed]
    dsimp only
    rw [hfinish]
    rfl
  · intro hnot
    rw [hdeep hnot]

/-- Where no bracket may be opened, a record is not read. -/
theorem gives_record_none (wanted : Wanted) (texts : List (List Char)) (value : α)
    {harray hobject} :
    (record wanted tooDeep tooDeep harray hobject).Gives
      (layout.block level '\x7b' '\x7d' texts) value False := by
  intro gap rest hgap _
  refine ⟨False.elim, fun _ => ?_⟩
  rcases texts with _ | ⟨text, texts⟩
  · exact run_record hgap _
  · exact run_record hgap _

end Reader

end Slab.Json
