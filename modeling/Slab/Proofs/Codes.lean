import Slab.Proofs.Values

/-!
# Codes that can be told apart

A text of several codes can be taken apart in one way only if each code shows where it ends.
`Unambiguous` says that of the code of one item: nothing that may follow it can be mistaken for a
part of it. **`Unambiguous.flatMap`** is what this is for: the codes of several items, one after the
other, then show where the last one ends.

The last section has the parts that the lines of outlines and paintings are made of: repeated
characters, numbers in decimal and the texts of colours.
-/

namespace Slab

/-! ### Items and lists of items -/

/-- The code of an item can be told from what follows: where another code makes the same text with
what follows that, the two items look the same, and the same follows. Of an item that is not all
written, only a view can be told. -/
def Unambiguous {α β γ : Type} (code : α → List β) (view : α → γ) (follows : List β → Prop)
    (item : α) : Prop :=
  ∀ other rest rest', follows rest → follows rest' →
    code item ++ rest = code other ++ rest' → view item = view other ∧ rest = rest'

/-- If the codes of some items can be told from what follows, be that the code of another item or
the end of the list, and no code can be mistaken for that end, then the list can be told from what
follows it. -/
theorem Unambiguous.flatMap {α β γ : Type} {code : α → List β} {view : α → γ}
    {follows ends : List β → Prop} {items : List α}
    (hitems : ∀ item ∈ items, Unambiguous code view follows item)
    (hnext : ∀ item rest, follows (code item ++ rest)) (hends : ∀ rest, ends rest → follows rest)
    (hstop : ∀ item rest, ¬ends (code item ++ rest)) :
    Unambiguous (fun items => items.flatMap code) (List.map view) ends items := by
  have hfollows (items : List α) {rest : List β} (hrest : ends rest) :
      follows (items.flatMap code ++ rest) := by
    rcases items with _ | ⟨item, items⟩
    · exact hends rest hrest
    · rw [List.flatMap_cons, List.append_assoc]
      exact hnext item _
  induction items with
  | nil =>
      intro others rest rest' hrest _ h
      rcases others with _ | ⟨other, others⟩
      · exact ⟨rfl, h⟩
      · simp only [List.flatMap_nil, List.nil_append, List.flatMap_cons, List.append_assoc] at h
        exact absurd (h ▸ hrest) (hstop other _)
  | cons item items ih =>
      intro others rest rest' hrest hrest' h
      rw [List.forall_mem_cons] at hitems
      rcases others with _ | ⟨other, others⟩
      · simp only [List.flatMap_nil, List.nil_append, List.flatMap_cons, List.append_assoc] at h
        exact absurd (h ▸ hrest') (hstop item _)
      · simp only [List.flatMap_cons, List.append_assoc] at h
        obtain ⟨hitem, hothers⟩ :=
          hitems.1 other _ _ (hfollows items hrest) (hfollows others hrest') h
        obtain ⟨hmap, hrests⟩ := ih hitems.2 others rest rest' hrest hrest' hothers
        exact ⟨by rw [List.map_cons, List.map_cons, hitem, hmap], hrests⟩

/-! ### Parts of codes -/

section Parts

variable {c c' : Char} {rest rest' : List Char}

/-- The front of a text ends where its first character of another kind stands. -/
theorem span_append_inj {p : Char → Bool} {front front' : List Char} (hfront : ∀ c ∈ front, p c)
    (hfront' : ∀ c ∈ front', p c) (hc : ¬p c) (hc' : ¬p c')
    (h : front ++ c :: rest = front' ++ c' :: rest') :
    front = front' ∧ c = c' ∧ rest = rest' := by
  have htake := congrArg (List.takeWhile p) h
  rw [List.takeWhile_append_of_pos hfront, List.takeWhile_append_of_pos hfront',
    List.takeWhile_cons_of_neg hc, List.takeWhile_cons_of_neg hc', List.append_nil,
    List.append_nil] at htake
  subst htake
  exact ⟨rfl, List.cons.inj (List.append_cancel_left h)⟩

/-- A character is repeated until another one follows. -/
theorem replicate_append_inj {a : Char} {n m : Nat} (hc : c ≠ a) (hc' : c' ≠ a)
    (h : List.replicate n a ++ c :: rest = List.replicate m a ++ c' :: rest') :
    n = m ∧ c = c' ∧ rest = rest' := by
  have hall (n : Nat) : ∀ b ∈ List.replicate n a, b == a := fun b hb =>
    beq_iff_eq.mpr (List.eq_of_mem_replicate hb)
  obtain ⟨hfront, hrests⟩ := span_append_inj (hall n) (hall m) (by simpa using hc)
    (by simpa using hc') h
  have hlength := congrArg List.length hfront
  rw [List.length_replicate, List.length_replicate] at hlength
  exact ⟨hlength, hrests⟩

/-- A number ends where its digits do. -/
theorem decimal_append_inj {n m : Nat} (hc : ¬isDigit c) (hc' : ¬isDigit c')
    (h : decimal n ++ c :: rest = decimal m ++ c' :: rest') : n = m ∧ c = c' ∧ rest = rest' := by
  have hall (n : Nat) : ∀ c ∈ decimal n, isDigit c := fun c hmem => isDigit_of_mem_decimal hmem
  obtain ⟨hfront, hrests⟩ := span_append_inj (hall n) (hall m) hc hc' h
  have hvalue := congrArg ofDigits hfront
  rw [ofDigits_decimal, ofDigits_decimal] at hvalue
  exact ⟨hvalue, hrests⟩

/-- The texts of all colours are of the same length. -/
theorem Color.chars_append_inj {color other : Color}
    (h : color.chars ++ rest = other.chars ++ rest') : color = other ∧ rest = rest' := by
  obtain ⟨hchars, hrests⟩ := List.append_inj h rfl
  have hvalue := congrArg Color.ofChars hchars
  rw [Color.ofChars_chars, Color.ofChars_chars] at hvalue
  exact ⟨Except.ok.inj hvalue, hrests⟩

end Parts

end Slab
