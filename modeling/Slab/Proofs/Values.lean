import Mathlib.Algebra.Group.Nat.Defs
import Slab.Json.GridReader
import Slab.Json.Layout

/-!
# Weights and colours are read back

What is written of a number, a string or a colour is read as the same again, as long as nothing
that could be part of it follows. `Reader.Gives` is the form that all such statements have here: a
reader takes a text for a value, after any blanks and before anything that ends a number, on a
condition; without it the text is malformed. The condition will be that brackets do not nest too
deep. `gives_weight` and `gives_color` are the cases without brackets.
-/

namespace Slab

/-! ### Numbers in decimal -/

/-- A digit stands for the number that it was made from. -/
theorem digitValue_digitChar {n : Nat} (h : n < 10) : digitValue (digitChar n) = n := by
  have hall : ∀ n < 10, digitValue (digitChar n) = n := by decide
  exact hall n h

/-- A digit is a digit. -/
theorem isDigit_digitChar {n : Nat} (h : n < 10) : isDigit (digitChar n) := by
  have hall : ∀ n < 10, isDigit (digitChar n) := by decide
  exact hall n h

/-- Only the digit of zero is a zero. -/
theorem digitChar_ne_zero {n : Nat} (hpos : 0 < n) (h : n < 10) : digitChar n ≠ '0' := by
  have hall : ∀ n < 10, 0 < n → digitChar n ≠ '0' := by decide
  exact hall n h hpos

/-- One more digit. -/
theorem ofDigits_append_singleton (digits : List Char) (c : Char) :
    ofDigits (digits ++ [c]) = 10 * ofDigits digits + digitValue c := by
  simp [ofDigits]

/-- A number is read back from its digits. -/
@[simp] theorem ofDigits_decimal (n : Nat) : ofDigits (decimal n) = n := by
  fun_induction decimal n with
  | case1 n h =>
      have hvalue := digitValue_digitChar h
      simpa [ofDigits] using hvalue
  | case2 n h ih =>
      rw [ofDigits_append_singleton, ih, digitValue_digitChar (Nat.mod_lt n (by decide))]
      exact Nat.div_add_mod n 10

/-- A number is written with digits only. -/
theorem isDigit_of_mem_decimal {n : Nat} {c : Char} (h : c ∈ decimal n) : isDigit c := by
  fun_induction decimal n with
  | case1 n hn =>
      obtain rfl := List.mem_singleton.mp h
      exact isDigit_digitChar hn
  | case2 n hn ih =>
      rcases List.mem_append.mp h with h | h
      · exact ih h
      · obtain rfl := List.mem_singleton.mp h
        exact isDigit_digitChar (Nat.mod_lt n (by decide))

/-- A number is written with one digit at least. -/
theorem decimal_ne_nil (n : Nat) : decimal n ≠ [] := by
  fun_cases decimal n with
  | case1 => simp
  | case2 => simp

/-- A positive number is written without a zero in front. -/
theorem head?_decimal_ne_zero {n : Nat} (h : 0 < n) : (decimal n).head? ≠ some '0' := by
  fun_induction decimal n with
  | case1 n hn =>
      rw [List.head?_singleton, ne_eq, Option.some_inj]
      exact digitChar_ne_zero h hn
  | case2 n hn ih =>
      obtain ⟨c, digits, hdecimal⟩ := List.exists_cons_of_ne_nil (decimal_ne_nil (n / 10))
      have hhead := ih (by omega)
      rw [hdecimal] at hhead ⊢
      exact hhead

/-- A number of several digits is written without a zero in front. -/
theorem decimal_ne_zero_cons (n : Nat) (c : Char) (rest : List Char) :
    decimal n ≠ '0' :: c :: rest := by
  intro h
  rcases Nat.eq_zero_or_pos n with rfl | hn
  · have hzero : decimal 0 = ['0'] := by rw [decimal]; rfl
    rw [hzero] at h
    cases h
  · exact head?_decimal_ne_zero hn (by rw [h]; rfl)

/-! ### Colours -/

/-- A hexadecimal digit has the value that it was made from. -/
theorem hexValue?_hexDigit {n : Nat} (h : n < 16) : hexValue? (hexDigit n) = some n := by
  have hall : ∀ n < 16, hexValue? (hexDigit n) = some n := by decide
  exact hall n h

/-- A byte is read back from its two digits. -/
theorem byteOfDigits_div_mod (byte : UInt8) :
    byteOfDigits (byte.toNat / 16) (byte.toNat % 16) = byte := by
  unfold byteOfDigits
  rw [Nat.div_add_mod, UInt8.ofNat_toNat]

/-- A colour is read back from its text. -/
theorem Color.ofChars_chars (color : Color) : Color.ofChars color.chars = .ok color := by
  have hhigh (byte : UInt8) : hexValue? (hexDigit (byte.toNat / 16)) = some (byte.toNat / 16) :=
    hexValue?_hexDigit (by have := byte.toNat_lt; omega)
  have hlow (byte : UInt8) : hexValue? (hexDigit (byte.toNat % 16)) = some (byte.toNat % 16) :=
    hexValue?_hexDigit (by omega)
  have hdigits : (Color.stripHash color.chars).mapM hexValue? =
      some [color.red.toNat / 16, color.red.toNat % 16, color.green.toNat / 16,
        color.green.toNat % 16, color.blue.toNat / 16, color.blue.toNat % 16] := by
    simp [Color.chars, Color.stripHash, hexPair, hhigh, hlow]
  unfold Color.ofChars
  rw [hdigits]
  simp only [byteOfDigits_div_mod]

namespace Json

/-! ### Blanks and ends of numbers -/

/-- The text is made of blanks only. -/
def Blank (gap : List Char) : Prop :=
  ∀ c ∈ gap, isBlank c

/-- The character cannot be part of a number that has begun. -/
def EndsNumber (c : Char) : Prop :=
  ¬isDigit c ∧ c ≠ '.' ∧ c ≠ 'e' ∧ c ≠ 'E'

instance (c : Char) : Decidable (EndsNumber c) :=
  inferInstanceAs (Decidable (¬isDigit c ∧ c ≠ '.' ∧ c ≠ 'e' ∧ c ≠ 'E'))

/-- The text does not go on with what could be part of a number. -/
def Stops (text : List Char) : Prop :=
  ∀ c ∈ text.head?, EndsNumber c

/-- Nothing is blank. -/
theorem blank_nil : Blank [] := by
  intro c hc
  cases hc

/-- The end of the text ends a number. -/
theorem stops_nil : Stops [] := by
  intro c hc
  cases hc

/-- A character that cannot be part of a number ends it. -/
theorem stops_cons {c : Char} (h : EndsNumber c) (rest : List Char) : Stops (c :: rest) := by
  intro other hother
  obtain rfl : c = other := by simpa using hother
  exact h

/-- Blanks end a number. -/
theorem Blank.stops {gap rest : List Char} (h : Blank gap) (hrest : Stops rest) :
    Stops (gap ++ rest) := by
  rcases gap with _ | ⟨blank, gap⟩
  · exact hrest
  · have hblank : isBlank blank := h blank List.mem_cons_self
    apply stops_cons
    simp only [isBlank, Bool.or_eq_true, beq_iff_eq] at hblank
    rcases hblank with ((rfl | rfl) | rfl) | rfl <;> decide

/-- Blanks are passed over. -/
theorem skipBlanks_append {gap : List Char} (h : Blank gap) {c : Char} (hc : ¬isBlank c)
    (rest : List Char) : skipBlanks (gap ++ c :: rest) = c :: rest := by
  unfold skipBlanks
  rw [List.dropWhile_append_of_pos h, List.dropWhile_cons_of_neg hc]

/-! ### Numbers and strings in a text -/

/-- The digits of a number are the digits in front of what ends it. -/
theorem someDigits_decimal (n : Nat) {rest : List Char} (h : Stops rest) :
    someDigits (decimal n ++ rest) = .ok (decimal n, rest) := by
  have hdigits : ∀ c ∈ decimal n, isDigit c := fun c hc => isDigit_of_mem_decimal hc
  have hstop : rest.takeWhile isDigit = [] ∧ rest.dropWhile isDigit = rest := by
    rcases rest with _ | ⟨c, rest⟩
    · exact ⟨rfl, rfl⟩
    · have hc : ¬isDigit c := (h c rfl).1
      exact ⟨List.takeWhile_cons_of_neg hc, List.dropWhile_cons_of_neg hc⟩
  unfold someDigits frontDigits afterDigits
  rw [List.takeWhile_append_of_pos hdigits, List.dropWhile_append_of_pos hdigits, hstop.1,
    hstop.2, List.append_nil, if_neg (decimal_ne_nil n)]

/-- The text of a number has no minus in front. -/
theorem splitMinus_decimal (n : Nat) (rest : List Char) :
    splitMinus (decimal n ++ rest) = (false, decimal n ++ rest) := by
  obtain ⟨c, digits, hdecimal⟩ := List.exists_cons_of_ne_nil (decimal_ne_nil n)
  have hc : isDigit c :=
    isDigit_of_mem_decimal (n := n) (by rw [hdecimal]; exact List.mem_cons_self)
  rw [hdecimal, List.cons_append]
  unfold splitMinus
  split
  · next heq =>
      cases heq
      cases hc
  · rfl

/-- What ends a number is no fraction. -/
theorem Stops.fractionDigits {rest : List Char} (h : Stops rest) :
    fractionDigits rest = .ok ([], rest) := by
  unfold Json.fractionDigits
  split
  · exact absurd rfl (h '.' rfl).2.1
  · rfl

/-- What ends a number is no exponent. -/
theorem Stops.exponentPart {rest : List Char} (h : Stops rest) :
    exponentPart rest = .ok (none, rest) := by
  rcases rest with _ | ⟨c, rest⟩
  · rfl
  · have hc := h c rfl
    unfold Json.exponentPart
    dsimp only
    rw [if_neg (by simp [hc.2.2.1, hc.2.2.2])]

/-- A number in front of what ends it is found as a numeral. -/
theorem numeral_decimal (n : Nat) {rest : List Char} (h : Stops rest) :
    numeral (decimal n ++ rest) = .ok (⟨false, decimal n, [], none⟩, rest) := by
  unfold numeral
  rw [splitMinus_decimal, someDigits_decimal n h]
  dsimp only
  split
  · next heq => cases heq
  · next heq =>
      obtain ⟨hzero, -⟩ := Prod.mk.inj (Except.ok.inj heq)
      exact absurd hzero (decimal_ne_zero_cons n _ _)
  · next heq =>
      obtain ⟨rfl, rfl⟩ := Prod.mk.inj (Except.ok.inj heq)
      rw [h.fractionDigits]
      dsimp only
      rw [h.exponentPart]

/-- A number of at most 64 bits is read back. -/
theorem readNumber_decimal {n : Nat} (hn : n < 2 ^ 64) {rest : List Char} (h : Stops rest) :
    readNumber (decimal n ++ rest) = .ok (.whole n, rest) := by
  have hvalue : (⟨false, decimal n, [], none⟩ : Numeral).value? = some (.whole n) := by
    unfold Numeral.value?
    simp only [ofDigits_decimal]
    have hsize : n < UInt64.size := hn
    rw [if_pos]
    rw [decide_eq_true hsize]
    rfl
  unfold readNumber
  rw [numeral_decimal n h]
  dsimp only
  rw [hvalue]

/-- The character stands for itself in a string. -/
def Plain (c : Char) : Prop :=
  c ≠ '"' ∧ c ≠ '\\' ∧ ¬c < ' '

instance (c : Char) : Decidable (Plain c) :=
  inferInstanceAs (Decidable (c ≠ '"' ∧ c ≠ '\\' ∧ ¬c < ' '))

/-- All characters stand for themselves. -/
def PlainText (chars : List Char) : Prop :=
  ∀ c ∈ chars, Plain c

instance (chars : List Char) : Decidable (PlainText chars) :=
  List.decidableBAll Plain chars

/-- A string of characters that stand for themselves ends at the next quote. -/
theorem stringBody_plain {chars : List Char} (h : PlainText chars) (strict : Bool)
    (found rest : List Char) :
    stringBody strict found (chars ++ '"' :: rest) = .ok (found.reverse ++ chars, rest) := by
  induction chars generalizing found with
  | nil =>
      rw [List.nil_append, stringBody, List.append_nil]
  | cons c chars ih =>
      obtain ⟨hquote, hescape, hspace⟩ := h c List.mem_cons_self
      rw [List.cons_append, stringBody, if_neg hspace,
        ih fun other hother => h other (List.mem_cons_of_mem c hother)]
      · simp
      · exact hquote
      · exact hescape

/-- The characters of a colour stand for themselves. -/
theorem plainText_chars (color : Color) : PlainText color.chars := by
  have hdigit : ∀ n < 16, Plain (hexDigit n) := by decide
  have hpair : ∀ byte : UInt8, PlainText (hexPair byte) := by
    intro byte c hc
    have hlt := byte.toNat_lt
    rcases List.mem_cons.mp hc with rfl | hc
    · exact hdigit _ (by omega)
    · obtain rfl := List.mem_singleton.mp hc
      exact hdigit _ (by omega)
  intro c h
  simp only [Color.chars, List.mem_cons, List.mem_append] at h
  rcases h with rfl | (h | h) | h
  · decide
  · exact hpair _ c h
  · exact hpair _ c h
  · exact hpair _ c h

/-! ### Readers that give back what was written -/

namespace Reader

variable {α β : Type} {reader : Reader α} {text : List Char} {value : α} {allowed : Prop}

/-- The reader takes the text for the value on the condition that it is allowed, and without that
for malformed; whatever blanks precede it, and whatever follows that is not part of a number. -/
def Gives (reader : Reader α) (text : List Char) (value : α) (allowed : Prop) : Prop :=
  ∀ gap rest, Blank gap → Stops rest →
    (allowed → reader.run (gap ++ (text ++ rest)) = .ok (value, rest)) ∧
      (¬allowed → reader.run (gap ++ (text ++ rest)) = .error .malformed)

/-- What is always allowed is always read. -/
theorem gives_of_run (h : ∀ gap rest, Blank gap → Stops rest →
    reader.run (gap ++ (text ++ rest)) = .ok (value, rest)) : reader.Gives text value True :=
  fun gap rest hgap hrest => ⟨fun _ => h gap rest hgap hrest, fun hnot => absurd trivial hnot⟩

/-- The condition may be put in other words. -/
theorem Gives.congr {other : Prop} (h : reader.Gives text value allowed) (hiff : allowed ↔ other) :
    reader.Gives text value other := by
  rwa [← propext hiff]

/-- The value may be given another form. -/
theorem Gives.map (h : reader.Gives text value allowed) (f : α → β) :
    (reader.map f).Gives text (f value) allowed := by
  intro gap rest hgap hrest
  obtain ⟨hread, hdeep⟩ := h gap rest hgap hrest
  unfold Reader.map
  constructor
  · intro hallowed
    simp only [hread hallowed]
    rfl
  · intro hnot
    simp only [hdeep hnot]
    rfl

/-- A weight is read back. -/
theorem gives_weight {n : Nat} (h : n < 2 ^ 32) : weight.Gives (decimal n) n True := by
  apply gives_of_run
  intro gap rest hgap hrest
  have hread := readNumber_decimal (Nat.lt_trans h (by decide)) hrest
  obtain ⟨c, digits, hdecimal⟩ := List.exists_cons_of_ne_nil (decimal_ne_nil n)
  have hc : isDigit c := isDigit_of_mem_decimal (by rw [hdecimal]; exact List.mem_cons_self)
  have hblank : ¬isBlank c := by
    simp only [isDigit, Bool.and_eq_true, decide_eq_true_eq] at hc
    simp only [isBlank, Bool.or_eq_true, beq_iff_eq]
    rintro (((rfl | rfl) | rfl) | rfl) <;> exact absurd hc (by decide)
  rw [hdecimal, List.cons_append] at hread ⊢
  unfold weight
  simp only [skipBlanks_append hgap hblank]
  rw [if_pos (Or.inr hc), hread]
  have hrange : (0 : Int) ≤ n ∧ (n : Int) < UInt32.size :=
    ⟨Int.natCast_nonneg n, Int.ofNat_lt.mpr h⟩
  dsimp only
  rw [if_pos hrange, Int.toNat_natCast]

/-- A colour is read back. -/
theorem gives_color (color : Color) : Reader.color.Gives (Layout.colorText color) color True := by
  apply gives_of_run
  intro gap rest hgap _
  have hbody := stringBody_plain (plainText_chars color) true [] rest
  have htext : Reader.text.run (gap ++ (Layout.colorText color ++ rest)) =
      .ok (color.chars, rest) := by
    unfold Reader.text Layout.colorText
    rw [List.cons_append, List.append_assoc]
    simp only [skipBlanks_append hgap (show ¬isBlank '"' by decide)]
    exact hbody
  unfold Reader.color Reader.check
  simp only [htext, Color.ofChars_chars]
  rfl

/-- What may be null is read as what it is, if it does not begin like null. -/
theorem Gives.nullable {c : Char} {tail : List Char} (h : reader.Gives (c :: tail) value allowed)
    (hblank : ¬isBlank c) (hnull : c ≠ 'n') :
    (Reader.nullable reader).Gives (c :: tail) (some value) allowed := by
  intro gap rest hgap hrest
  have hrun : (Reader.nullable reader).run (gap ++ (c :: tail ++ rest)) =
      (reader.map some).run (gap ++ (c :: tail ++ rest)) := by
    unfold Reader.nullable
    simp only [List.cons_append, skipBlanks_append hgap hblank]
    split
    · next heq => exact absurd (List.cons.inj heq).1 hnull
    · rfl
  rw [hrun]
  exact h.map some gap rest hgap hrest

end Reader

end Json

end Slab
