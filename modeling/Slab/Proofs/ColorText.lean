import Mathlib.Data.List.Forall2
import Slab.Expansion
import Slab.Proofs.Values

/-!
# Which texts are colours

A text is a colour if it is three or six hexadecimal digits of either case, after at most one `#`
(`AfterHash`, `IsColorDigits`). `hexValue?_eq_some_iff` is the one fact about single digits that the
rest builds on, and `ofChars_of_isColorDigits` says what reading gives: the bytes of the six digits
that the text stands for.

`readByOffset` reads the digits by their byte offsets in the text, and each pair as a number that
may have a sign. Characters of several bytes or a sign could trip it, but never do
(`readByOffset_eq`): that all is hexadecimal is asked first, and then every character is one byte.
-/

namespace Slab

/-! ### Single digits -/

/-- An ASCII hexadecimal digit of either case. -/
def IsHexDigit (c : Char) : Prop :=
  ('0' ≤ c ∧ c ≤ '9') ∨ ('a' ≤ c ∧ c ≤ 'f') ∨ ('A' ≤ c ∧ c ≤ 'F')

instance (c : Char) : Decidable (IsHexDigit c) :=
  inferInstanceAs (Decidable (_ ∨ _))

/-- The character is a digit of that value. -/
def HasValue (c : Char) (n : Nat) : Prop :=
  hexValue? c = some n

variable {c : Char} {n high low : Nat}

/-- A character between two others is some places behind the first. -/
theorem exists_eq_ofNat_add {first last : Char} (h : first ≤ c ∧ c ≤ last) :
    ∃ k ≤ last.toNat - first.toNat, c = Char.ofNat (first.toNat + k) ∧
      c.toNat - first.toNat = k := by
  have hbounds : first.toNat ≤ c.toNat ∧ c.toNat ≤ last.toNat := h
  refine ⟨c.toNat - first.toNat, by omega, ?_, rfl⟩
  rw [Nat.add_sub_cancel' hbounds.1, Char.ofNat_toNat]

/-- A character is a digit of a value if it is the lowercase or the uppercase digit of it. -/
theorem hasValue_iff : HasValue c n ↔ n < 16 ∧ (c = hexDigit n ∨ c = (hexDigit n).toUpper) := by
  constructor
  · intro h
    have hnumeral : ∀ k ≤ 9, Char.ofNat ('0'.toNat + k) = hexDigit k := by decide
    have hlower : ∀ k ≤ 5, Char.ofNat ('a'.toNat + k) = hexDigit (k + 10) := by decide
    have hupper : ∀ k ≤ 5, Char.ofNat ('A'.toNat + k) = (hexDigit (k + 10)).toUpper := by decide
    unfold HasValue hexValue? at h
    split at h
    · next hrange =>
        obtain ⟨k, hk, hc, hvalue⟩ := exists_eq_ofNat_add hrange
        obtain rfl : k = n := hvalue.symm.trans (Option.some.inj h)
        exact ⟨Nat.lt_of_le_of_lt hk (by decide), Or.inl (hc.trans (hnumeral k hk))⟩
    split at h
    · next hrange =>
        obtain ⟨k, hk, hc, hvalue⟩ := exists_eq_ofNat_add hrange
        obtain rfl : k + 10 = n := hvalue ▸ Option.some.inj h
        exact ⟨Nat.add_lt_of_lt_sub (Nat.lt_of_le_of_lt hk (by decide)),
          Or.inl (hc.trans (hlower k hk))⟩
    split at h
    · next hrange =>
        obtain ⟨k, hk, hc, hvalue⟩ := exists_eq_ofNat_add hrange
        obtain rfl : k + 10 = n := hvalue ▸ Option.some.inj h
        exact ⟨Nat.add_lt_of_lt_sub (Nat.lt_of_le_of_lt hk (by decide)),
          Or.inr (hc.trans (hupper k hk))⟩
    · exact nomatch h
  · have hupper : ∀ n < 16, hexValue? (hexDigit n).toUpper = some n := by decide
    rintro ⟨hn, rfl | rfl⟩
    · exact hexValue?_hexDigit hn
    · exact hupper n hn

/-- The characters with a value are the hexadecimal digits. -/
theorem isHexDigit_iff : IsHexDigit c ↔ ∃ n, HasValue c n := by
  unfold IsHexDigit HasValue hexValue?
  split
  · simp_all
  · split
    · simp_all
    · split <;> simp_all

/-- Written in lowercase, a digit is the one that its value is written with. -/
theorem HasValue.toLower_eq (h : HasValue c n) : c.toLower = hexDigit n := by
  have hall : ∀ n < 16, (hexDigit n).toLower = hexDigit n ∧
      (hexDigit n).toUpper.toLower = hexDigit n := by decide
  obtain ⟨hn, rfl | rfl⟩ := hasValue_iff.mp h
  · exact (hall n hn).1
  · exact (hall n hn).2

/-- A digit takes up one byte, and it is no sign. -/
theorem HasValue.narrow (h : HasValue c n) : c.utf8Size = 1 ∧ c ≠ '+' := by
  have hall : ∀ n < 16, ((hexDigit n).utf8Size = 1 ∧ hexDigit n ≠ '+') ∧
      (hexDigit n).toUpper.utf8Size = 1 ∧ (hexDigit n).toUpper ≠ '+' := by decide
  obtain ⟨hn, rfl | rfl⟩ := hasValue_iff.mp h
  · exact (hall n hn).1
  · exact (hall n hn).2

/-- The number made of two digits is a byte. -/
theorem toNat_byteOfDigits (hhigh : high < 16) (hlow : low < 16) :
    (byteOfDigits high low).toNat = 16 * high + low := by
  rw [byteOfDigits, UInt8.toNat_ofNat']
  omega

/-- A byte made of two digits is written with these digits. -/
theorem hexPair_byteOfDigits (hhigh : high < 16) (hlow : low < 16) :
    hexPair (byteOfDigits high low) = [hexDigit high, hexDigit low] := by
  have hdiv : (16 * high + low) / 16 = high := by omega
  have hmod : (16 * high + low) % 16 = low := by omega
  rw [hexPair, toNat_byteOfDigits hhigh hlow, hdiv, hmod]

/-! ### Several digits -/

variable {text other digits rest : List Char} {values : List Nat}

/-- Characters that are all digits have values. -/
theorem exists_values (h : ∀ c ∈ digits, IsHexDigit c) :
    ∃ values, List.Forall₂ HasValue digits values := by
  induction digits with
  | nil => exact ⟨[], .nil⟩
  | cons c digits ih =>
      obtain ⟨hc, hdigits⟩ := List.forall_mem_cons.mp h
      obtain ⟨n, hn⟩ := isHexDigit_iff.mp hc
      obtain ⟨values, hvalues⟩ := ih hdigits
      exact ⟨n :: values, .cons hn hvalues⟩

/-- The values of digits are below 16. -/
theorem lt_of_mem_values (h : List.Forall₂ HasValue digits values) : ∀ n ∈ values, n < 16 := by
  induction h with
  | nil => simp
  | cons hc _ ih => exact List.forall_mem_cons.mpr ⟨(hasValue_iff.mp hc).1, ih⟩

/-- The values of digits are found. -/
theorem mapM_hexValue? (h : List.Forall₂ HasValue digits values) :
    digits.mapM hexValue? = some values := by
  induction h with
  | nil => rfl
  | cons hc _ ih =>
      rw [List.mapM_cons, hc, ih]
      rfl

/-- Where one character is no digit, no values are found. -/
theorem mapM_hexValue?_eq_none (h : ∃ c ∈ digits, ¬IsHexDigit c) :
    digits.mapM hexValue? = none := by
  induction digits with
  | nil =>
      obtain ⟨c, hc, -⟩ := h
      exact absurd hc List.not_mem_nil
  | cons c digits ih =>
      rw [List.mapM_cons]
      cases hvalue : hexValue? c with
      | none => rfl
      | some n =>
          have hc : IsHexDigit c := isHexDigit_iff.mpr ⟨n, hvalue⟩
          have hrest : ∃ other ∈ digits, ¬IsHexDigit other := by
            obtain ⟨other, hmem, hother⟩ := h
            rcases List.mem_cons.mp hmem with rfl | hmem
            · exact absurd hc hother
            · exact ⟨other, hmem, hother⟩
          rw [ih hrest]
          rfl

/-- Each digit written twice. -/
def doubled (digits : List Char) : List Char :=
  digits.flatMap fun c => [c, c]

/-- The six digits that three or six digits stand for. -/
def longForm (digits : List Char) : List Char :=
  if digits.length = 3 then doubled digits else digits

/-- Three or six hexadecimal digits. -/
def IsColorDigits (digits : List Char) : Prop :=
  (∀ c ∈ digits, IsHexDigit c) ∧ (digits.length = 3 ∨ digits.length = 6)

instance (digits : List Char) : Decidable (IsColorDigits digits) :=
  decidable_of_iff ((digits.all fun c => IsHexDigit c) ∧ (digits.length = 3 ∨ digits.length = 6))
    (by simp [IsColorDigits])

/-- The rest of a text is what follows a `#` at its front, or all of it if there is none. -/
def AfterHash (text rest : List Char) : Prop :=
  text = '#' :: rest ∨ text.head? ≠ some '#' ∧ text = rest

/-- Three digits doubled are six digits. -/
theorem IsColorDigits.doubled (h : IsColorDigits digits) (hlength : digits.length = 3) :
    IsColorDigits (doubled digits) ∧ longForm (Slab.doubled digits) = longForm digits := by
  have hsix : (Slab.doubled digits).length = 6 := by
    simp [Slab.doubled, List.length_flatMap, hlength]
  refine ⟨⟨?_, Or.inr hsix⟩, ?_⟩
  · intro c hc
    obtain ⟨digit, hdigit, hmem⟩ := List.mem_flatMap.mp hc
    obtain rfl : c = digit := by simpa using hmem
    exact h.1 c hdigit
  · rw [longForm, longForm, if_neg (by omega), if_pos hlength]

namespace Color

/-- There is one rest, the text without its `#`. -/
theorem afterHash_iff : AfterHash text rest ↔ rest = stripHash text := by
  unfold AfterHash stripHash
  split
  · simp [eq_comm]
  · next hne =>
      have hfront : text.head? ≠ some '#' := by
        intro h
        obtain ⟨tail, rfl⟩ := List.head?_eq_some_iff.mp h
        exact hne tail rfl
      have hcons : text ≠ '#' :: rest := fun h => hne rest h
      simp [hfront, hcons, eq_comm]

/-! ### What reading gives -/

/-- A character that is no digit is reported. -/
theorem ofChars_of_notHex (h : ∃ c ∈ stripHash text, ¬IsHexDigit c) :
    ofChars text = .error (.notHex text) := by
  rw [ofChars, mapM_hexValue?_eq_none h]

/-- A wrong number of digits is reported. -/
theorem ofChars_of_wrongLength (h : ∀ c ∈ stripHash text, IsHexDigit c)
    (hlength : ¬((stripHash text).length = 3 ∨ (stripHash text).length = 6)) :
    ofChars text = .error (.wrongLength text) := by
  obtain ⟨values, hvalues⟩ := exists_values h
  rw [hvalues.length_eq] at hlength
  rw [ofChars, mapM_hexValue? hvalues]
  split
  · next heq => cases heq
  · next heq => cases heq; simp at hlength
  · next heq => cases heq; simp at hlength
  · rfl

/-- Three or six digits are read as the bytes of the six digits that they stand for. -/
theorem ofChars_of_isColorDigits (h : IsColorDigits (stripHash text)) :
    ∃ r₁ r₀ g₁ g₀ b₁ b₀,
      List.Forall₂ HasValue (longForm (stripHash text)) [r₁, r₀, g₁, g₀, b₁, b₀] ∧
      ofChars text = .ok ⟨byteOfDigits r₁ r₀, byteOfDigits g₁ g₀, byteOfDigits b₁ b₀⟩ := by
  obtain ⟨hhex, hlength⟩ := h
  obtain ⟨values, hvalues⟩ := exists_values hhex
  have hread := mapM_hexValue? hvalues
  unfold ofChars longForm
  rw [hread]
  rcases hlength with hthree | hsix
  · rw [if_pos hthree]
    obtain ⟨c₁, c₂, c₃, hdigits⟩ := List.length_eq_three.mp hthree
    rw [hdigits] at hvalues ⊢
    obtain _ | ⟨hr, _ | ⟨hg, _ | ⟨hb, _ | _⟩⟩⟩ := hvalues
    exact ⟨_, _, _, _, _, _, .cons hr (.cons hr (.cons hg (.cons hg (.cons hb (.cons hb .nil))))),
      rfl⟩
  · rw [if_neg (by omega)]
    have hcount : values.length = 6 := hvalues.length_eq.symm.trans hsix
    match values, hcount with
    | [r₁, r₀, g₁, g₀, b₁, b₀], _ => exact ⟨_, _, _, _, _, _, hvalues, rfl⟩

/-- One of the three things happens to every text. -/
theorem ofChars_cases (text : List Char) :
    (∃ c ∈ stripHash text, ¬IsHexDigit c) ∧ ofChars text = .error (.notHex text) ∨
    (∀ c ∈ stripHash text, IsHexDigit c) ∧
      ¬((stripHash text).length = 3 ∨ (stripHash text).length = 6) ∧
      ofChars text = .error (.wrongLength text) ∨
    IsColorDigits (stripHash text) ∧ ∃ color, ofChars text = .ok color := by
  by_cases hhex : ∀ c ∈ stripHash text, IsHexDigit c
  · by_cases hlength : (stripHash text).length = 3 ∨ (stripHash text).length = 6
    · obtain ⟨_, _, _, _, _, _, -, hread⟩ := ofChars_of_isColorDigits ⟨hhex, hlength⟩
      exact Or.inr (Or.inr ⟨⟨hhex, hlength⟩, _, hread⟩)
    · exact Or.inr (Or.inl ⟨hhex, hlength, ofChars_of_wrongLength hhex hlength⟩)
  · have hbad : ∃ c ∈ stripHash text, ¬IsHexDigit c := by simpa using hhex
    exact Or.inl ⟨hbad, ofChars_of_notHex hbad⟩

/-- Only three or six digits are read as a colour. -/
theorem isColorDigits_of_ofChars {color : Color} (h : ofChars text = .ok color) :
    IsColorDigits (stripHash text) := by
  rcases ofChars_cases text with ⟨-, hread⟩ | ⟨-, -, hread⟩ | ⟨hdigits, -⟩
  · cases h.symm.trans hread
  · cases h.symm.trans hread
  · exact hdigits

/-- The colour of a text depends on the six digits that it stands for only. -/
theorem ofChars_congr (h : IsColorDigits (stripHash text))
    (hother : IsColorDigits (stripHash other))
    (hlong : longForm (stripHash text) = longForm (stripHash other)) :
    ofChars text = ofChars other := by
  obtain ⟨r₁, r₀, g₁, g₀, b₁, b₀, hvalues, hread⟩ := ofChars_of_isColorDigits h
  obtain ⟨r₁', r₀', g₁', g₀', b₁', b₀', hvalues', hread'⟩ := ofChars_of_isColorDigits hother
  have hsame : [r₁, r₀, g₁, g₀, b₁, b₀] = [r₁', r₀', g₁', g₀', b₁', b₀'] := by
    apply Option.some.inj
    rw [← mapM_hexValue? hvalues, ← mapM_hexValue? hvalues', hlong]
  cases hsame
  rw [hread, hread']

/-- Digits in lowercase are the ones that their values are written with. -/
theorem map_toLower_eq (h : List.Forall₂ HasValue digits values) :
    digits.map Char.toLower = values.map hexDigit := by
  induction h with
  | nil => rfl
  | cons hc _ ih => rw [List.map_cons, List.map_cons, hc.toLower_eq, ih]

/-- A colour that was read is written with the six digits that the text stands for. -/
theorem chars_of_ofChars {color : Color} (h : ofChars text = .ok color) :
    color.chars = '#' :: (longForm (stripHash text)).map Char.toLower := by
  obtain ⟨r₁, r₀, g₁, g₀, b₁, b₀, hvalues, hread⟩ :=
    ofChars_of_isColorDigits (isColorDigits_of_ofChars h)
  obtain rfl : color = _ := Except.ok.inj (h.symm.trans hread)
  have hsmall := lt_of_mem_values hvalues
  simp only [List.forall_mem_cons] at hsmall
  obtain ⟨hr₁, hr₀, hg₁, hg₀, hb₁, hb₀, -⟩ := hsmall
  rw [map_toLower_eq hvalues, chars, hexPair_byteOfDigits hr₁ hr₀, hexPair_byteOfDigits hg₁ hg₀,
    hexPair_byteOfDigits hb₁ hb₀]
  rfl

/-! ### Reading by byte offsets -/

/-- The characters before a byte offset and those behind it. There are none if the offset lies
inside a character or beyond the end. -/
def splitAtByte? : Nat → List Char → Option (List Char × List Char)
  | 0, text => some ([], text)
  | _ + 1, [] => none
  | n + 1, c :: text =>
    if c.utf8Size ≤ n + 1 then
      (splitAtByte? (n + 1 - c.utf8Size) text).map fun (front, back) => (c :: front, back)
    else none

/-- The part of a text between two byte offsets. -/
def bytePart? (text : List Char) (start stop : Nat) : Option (List Char) :=
  (splitAtByte? stop text).bind fun (front, _) => (splitAtByte? start front).map (·.2)

/-- What reading by offsets could trip over. -/
inductive Mishap
  /-- An offset that lies inside a character or beyond the end. -/
  | badOffset
  /-- Characters that do not spell a byte. -/
  | notByte
deriving DecidableEq, Repr

/-- A number without the plus that may stand in front of its digits. -/
def dropPlus : List Char → List Char
  | '+' :: c :: digits => c :: digits
  | digits => digits

/-- The byte that some hexadecimal digits spell, as numbers are read: with a plus in front or not,
and with any number of digits. -/
def byteOfText (text : List Char) : Except Mishap UInt8 :=
  match (dropPlus text).mapM hexValue? with
  | none | some [] => .error .notByte
  | some values =>
    let number := values.foldl (16 * · + ·) 0
    if number < 256 then .ok (UInt8.ofNat number) else .error .notByte

/-- The byte that the part between two offsets spells if it is repeated. -/
def channelAt (hex : List Char) (start stop copies : Nat) : Except Mishap UInt8 :=
  match bytePart? hex start stop with
  | none => .error .badOffset
  | some part => byteOfText (List.replicate copies part).flatten

/-- The colour whose three channels stand one after the other in parts of the given width. -/
def channels (hex : List Char) (width copies : Nat) : Except Mishap Color := do
  let red ← channelAt hex 0 width copies
  let green ← channelAt hex width (2 * width) copies
  let blue ← channelAt hex (2 * width) (3 * width) copies
  return ⟨red, green, blue⟩

/-- The colour that a text denotes, read by its length in bytes and by byte offsets. -/
def readByOffset (text : List Char) : Except Mishap (Except Fault Color) :=
  let hex := stripHash text
  if hex.all fun c => IsHexDigit c then
    match byteLength hex with
    | 3 => (channels hex 1 2).map .ok
    | 6 => (channels hex 2 1).map .ok
    | _ => .ok (.error (.wrongLength text))
  else .ok (.error (.notHex text))

/-- In a text of characters of one byte, byte offsets count characters. -/
theorem splitAtByte?_of_narrow (h : ∀ c ∈ text, c.utf8Size = 1) (hn : n ≤ text.length) :
    splitAtByte? n text = some (text.take n, text.drop n) := by
  induction text generalizing n with
  | nil =>
      obtain rfl : n = 0 := Nat.le_zero.mp hn
      rfl
  | cons c text ih =>
      rcases n with _ | n
      · rfl
      · obtain ⟨hc, htext⟩ := List.forall_mem_cons.mp h
        rw [splitAtByte?, hc, if_pos (by omega), Nat.add_sub_cancel,
          ih htext (Nat.le_of_succ_le_succ hn)]
        rfl

/-- So a part is cut out by counting characters. -/
theorem bytePart?_of_narrow {start stop : Nat} (h : ∀ c ∈ text, c.utf8Size = 1)
    (hstart : start ≤ stop) (hstop : stop ≤ text.length) :
    bytePart? text start stop = some ((text.take stop).drop start) := by
  have hfront : ∀ c ∈ text.take stop, c.utf8Size = 1 := fun c hc => h c (List.mem_of_mem_take hc)
  have hlength : start ≤ (text.take stop).length := by
    rw [List.length_take_of_le hstop]
    exact hstart
  rw [bytePart?, splitAtByte?_of_narrow h hstop, Option.bind_some]
  dsimp only
  rw [splitAtByte?_of_narrow hfront hlength, Option.map_some]

/-- And there are as many bytes as characters. -/
theorem byteLength_of_narrow (h : ∀ c ∈ text, c.utf8Size = 1) : byteLength text = text.length := by
  induction text with
  | nil => rfl
  | cons c text ih =>
      obtain ⟨hc, htext⟩ := List.forall_mem_cons.mp h
      rw [byteLength_cons, hc, ih htext, List.length_cons, Nat.add_comm]

/-- Two digits spell a byte. -/
theorem byteOfText_pair {c₁ c₀ : Char} (hhigh : HasValue c₁ high) (hlow : HasValue c₀ low) :
    byteOfText [c₁, c₀] = .ok (byteOfDigits high low) := by
  have hplus : dropPlus [c₁, c₀] = [c₁, c₀] := by
    unfold dropPlus
    split
    · next heq => exact absurd (List.cons.inj heq).1 hhigh.narrow.2
    · rfl
  have hbyte : 16 * high + low < 256 := by
    have hhigh := (hasValue_iff.mp hhigh).1
    have hlow := (hasValue_iff.mp hlow).1
    omega
  rw [byteOfText, hplus, mapM_hexValue? (.cons hhigh (.cons hlow .nil))]
  simp only [List.foldl_cons, List.foldl_nil, Nat.mul_zero, Nat.zero_add, if_pos hbyte]
  rfl

/-- A part that gives two digits is read as their byte. -/
theorem channelAt_eq {hex : List Char} {start stop copies : Nat} {c₁ c₀ : Char}
    (h : ∀ c ∈ hex, c.utf8Size = 1) (hstart : start ≤ stop) (hstop : stop ≤ hex.length)
    (hpart : (List.replicate copies ((hex.take stop).drop start)).flatten = [c₁, c₀])
    (hhigh : HasValue c₁ high) (hlow : HasValue c₀ low) :
    channelAt hex start stop copies = .ok (byteOfDigits high low) := by
  rw [channelAt, bytePart?_of_narrow h hstart hstop]
  dsimp only
  rw [hpart, byteOfText_pair hhigh hlow]

/-- Digits take up one byte each. -/
theorem narrow_of_isHexDigit (h : ∀ c ∈ digits, IsHexDigit c) : ∀ c ∈ digits, c.utf8Size = 1 := by
  intro c hc
  obtain ⟨n, hn⟩ := isHexDigit_iff.mp (h c hc)
  exact hn.narrow.1

/-- Three digits, each read twice, and six digits, read in pairs, spell the bytes of the six digits
that they stand for. -/
theorem channels_eq {r₁ r₀ g₁ g₀ b₁ b₀ : Nat} (h : ∀ c ∈ digits, IsHexDigit c)
    (hvalues : List.Forall₂ HasValue (longForm digits) [r₁, r₀, g₁, g₀, b₁, b₀]) :
    (digits.length = 3 → channels digits 1 2 =
        .ok ⟨byteOfDigits r₁ r₀, byteOfDigits g₁ g₀, byteOfDigits b₁ b₀⟩) ∧
      (digits.length = 6 → channels digits 2 1 =
        .ok ⟨byteOfDigits r₁ r₀, byteOfDigits g₁ g₀, byteOfDigits b₁ b₀⟩) := by
  have hnarrow := narrow_of_isHexDigit h
  constructor
  · intro hthree
    obtain ⟨c₁, c₂, c₃, rfl⟩ := List.length_eq_three.mp hthree
    obtain _ | ⟨hr₁, _ | ⟨hr₀, _ | ⟨hg₁, _ | ⟨hg₀, _ | ⟨hb₁, _ | ⟨hb₀, _⟩⟩⟩⟩⟩⟩ := hvalues
    rw [channels, channelAt_eq hnarrow (by decide) (by simp) rfl hr₁ hr₀,
      channelAt_eq hnarrow (by decide) (by simp) rfl hg₁ hg₀,
      channelAt_eq hnarrow (by decide) (by simp) rfl hb₁ hb₀]
    rfl
  · intro hsix
    rw [longForm, if_neg (by omega)] at hvalues
    obtain _ | ⟨hr₁, _ | ⟨hr₀, _ | ⟨hg₁, _ | ⟨hg₀, _ | ⟨hb₁, _ | ⟨hb₀, _ | _⟩⟩⟩⟩⟩⟩ := hvalues
    rw [channels, channelAt_eq hnarrow (by decide) (by simp) rfl hr₁ hr₀,
      channelAt_eq hnarrow (by decide) (by simp) rfl hg₁ hg₀,
      channelAt_eq hnarrow (by decide) (by simp) rfl hb₁ hb₀]
    rfl

/-- Nothing ever trips reading by offsets, and it gives what reading gives. -/
theorem readByOffset_eq (text : List Char) : readByOffset text = .ok (ofChars text) := by
  have hall : ((stripHash text).all fun c => IsHexDigit c) ↔
      ∀ c ∈ stripHash text, IsHexDigit c := by simp
  unfold readByOffset
  by_cases hhex : ∀ c ∈ stripHash text, IsHexDigit c
  · rw [if_pos (hall.mpr hhex), byteLength_of_narrow (narrow_of_isHexDigit hhex)]
    by_cases hlength : (stripHash text).length = 3 ∨ (stripHash text).length = 6
    · obtain ⟨r₁, r₀, g₁, g₀, b₁, b₀, hvalues, hread⟩ := ofChars_of_isColorDigits ⟨hhex, hlength⟩
      obtain ⟨hthree, hsix⟩ := channels_eq hhex hvalues
      rw [hread]
      rcases hlength with hlength | hlength
      · rw [hlength]
        exact congrArg (Except.map Except.ok) (hthree hlength)
      · rw [hlength]
        exact congrArg (Except.map Except.ok) (hsix hlength)
    · rw [ofChars_of_wrongLength hhex hlength]
      split
      · next heq => exact absurd (Or.inl heq) hlength
      · next heq => exact absurd (Or.inr heq) hlength
      · rfl
  · rw [if_neg (hall.not.mpr hhex), ofChars_of_notHex (by simpa using hhex)]

/-! ### The law of colour texts -/

/-- How one text is read as a colour. -/
structure ReadExactly (text : String) : Prop where
  /-- It is a colour if it is three or six digits after at most one `#`. -/
  accepted : (∃ color, ofText text = .ok color) ↔
    ∃ digits, AfterHash text.toList digits ∧ IsColorDigits digits
  /-- Three digits are read like the six that they are if each is doubled. -/
  short : ∀ digits, AfterHash text.toList digits → IsColorDigits digits → digits.length = 3 →
    ofText text = ofText (String.ofList (doubled digits)) ∧
      ofText text = ofText (String.ofList ('#' :: doubled digits))
  /-- The colour is written as `#` and those six digits in lowercase. -/
  written : ∀ color digits, ofText text = .ok color → AfterHash text.toList digits →
    color.text = "#" ++ String.ofList ((longForm digits).map Char.toLower)
  /-- If a character after the optional `#` is no digit, then that is what is reported. -/
  notHex : ofText text = .error (.notHex text.toList) ↔
    ∃ rest, AfterHash text.toList rest ∧ ∃ c ∈ rest, ¬IsHexDigit c
  /-- If all are digits, but neither three nor six, then that is what is reported. -/
  wrongLength : ofText text = .error (.wrongLength text.toList) ↔
    ∃ rest, AfterHash text.toList rest ∧ (∀ c ∈ rest, IsHexDigit c) ∧
      ¬(rest.length = 3 ∨ rest.length = 6)
  /-- Both reports quote all of the text. -/
  quoted : (Fault.notHex text.toList).message =
      "Invalid color '" ++ text ++ "': expected hex digits." ∧
    (Fault.wrongLength text.toList).message =
      "Invalid color '" ++ text ++ "': expected #rgb or #rrggbb."
  /-- Reading by byte offsets cuts no character, finds a byte wherever it looks for one, and gives
  the same. -/
  unharmed : readByOffset text.toList = .ok (ofText text)

/-- Every text is read as the law says. -/
theorem readExactly (text : String) : ReadExactly text where
  accepted := by
    constructor
    · rintro ⟨color, h⟩
      exact ⟨_, afterHash_iff.mpr rfl, isColorDigits_of_ofChars h⟩
    · rintro ⟨digits, hrest, h⟩
      obtain rfl := afterHash_iff.mp hrest
      obtain ⟨_, _, _, _, _, _, -, hread⟩ := ofChars_of_isColorDigits h
      exact ⟨_, hread⟩
  short := by
    intro digits hrest h hthree
    obtain rfl := afterHash_iff.mp hrest
    obtain ⟨hsix, hlong⟩ := h.doubled hthree
    have hplain :
        AfterHash (doubled (stripHash text.toList)) (doubled (stripHash text.toList)) := by
      refine Or.inr ⟨?_, rfl⟩
      intro hfront
      exact absurd (hsix.1 '#' (List.mem_of_mem_head? hfront)) (by decide)
    have hstrip := afterHash_iff.mp hplain
    unfold ofText
    rw [String.toList_ofList, String.toList_ofList]
    exact ⟨ofChars_congr h (hstrip ▸ hsix) (hstrip ▸ hlong.symm), ofChars_congr h hsix hlong.symm⟩
  written := by
    intro color digits h hrest
    obtain rfl := afterHash_iff.mp hrest
    rw [Color.text, chars_of_ofChars h, String.ofList_cons]
    rfl
  notHex := by
    constructor
    · intro h
      refine ⟨_, afterHash_iff.mpr rfl, ?_⟩
      rcases ofChars_cases text.toList with ⟨hbad, -⟩ | ⟨-, -, hread⟩ | ⟨-, color, hread⟩
      · exact hbad
      · cases h.symm.trans hread
      · cases h.symm.trans hread
    · rintro ⟨rest, hrest, hbad⟩
      obtain rfl := afterHash_iff.mp hrest
      exact ofChars_of_notHex hbad
  wrongLength := by
    constructor
    · intro h
      refine ⟨_, afterHash_iff.mpr rfl, ?_⟩
      rcases ofChars_cases text.toList with ⟨-, hread⟩ | ⟨hhex, hlength, -⟩ | ⟨-, color, hread⟩
      · cases h.symm.trans hread
      · exact ⟨hhex, hlength⟩
      · cases h.symm.trans hread
    · rintro ⟨rest, hrest, hhex, hlength⟩
      obtain rfl := afterHash_iff.mp hrest
      exact ofChars_of_wrongLength hhex hlength
  quoted := by
    have hquoted : String.ofList text.toList = text := String.ofList_toList
    exact ⟨congrArg ("Invalid color '" ++ · ++ "': expected hex digits.") hquoted,
      congrArg ("Invalid color '" ++ · ++ "': expected #rgb or #rrggbb.") hquoted⟩
  unharmed := readByOffset_eq text.toList

/-- **The texts of colours.** Every text is read as `ReadExactly` says, and what is written of a
colour is read as that colour. -/
theorem colorText_exact :
    (∀ text : String, ReadExactly text) ∧ ∀ color : Color, ofText color.text = .ok color := by
  refine ⟨readExactly, ?_⟩
  intro color
  rw [ofText, Color.text, String.toList_ofList]
  exact ofChars_chars color

/-- A short form in uppercase is written long and in lowercase, and a second `#` is no digit. -/
theorem colorText_exact_shortForm :
    (∃ color, ofText "#FAA" = .ok color ∧ color.text = "#ffaaaa") ∧
      ofText "#FAA" = ofText "FFAAAA" ∧ ofText "##FAA" = .error (.notHex "##FAA".toList) := by
  have hshort := colorText_exact.1 "#FAA"
  have hdigits : AfterHash "#FAA".toList "FAA".toList := Or.inl (by decide)
  obtain ⟨color, hcolor⟩ := hshort.accepted.mpr ⟨_, hdigits, by decide⟩
  refine ⟨⟨color, hcolor, hshort.written color _ hcolor hdigits⟩, ?_, ?_⟩
  · exact (hshort.short _ hdigits (by decide) (by decide)).1
  · refine (colorText_exact.1 "##FAA").notHex.mpr ⟨"#FAA".toList, Or.inl (by decide), '#', ?_⟩
    decide

end Color

end Slab
