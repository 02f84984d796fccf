import Slab.Expansion
import Slab.Json.Fault

/-!
# JSON words and strings

The three words of JSON must stand there letter by letter. A string ends at the first quote that
is not escaped; its escapes are decoded, and halves of surrogate pairs are only accepted where the
string is skipped anyway.
-/

namespace Slab.Json

/-- What follows a word, which must stand at the front of a text. -/
def word : List Char → List Char → Except Fault (List Char)
  | [], rest => .ok rest
  | _ :: _, [] => .error .endOfText
  | letter :: letters, c :: rest => if c = letter then word letters rest else .error .malformed

/-- A word does not lengthen the text. -/
theorem word_shortens {letters text rest : List Char} (h : word letters text = .ok rest) :
    rest.length ≤ text.length := by
  fun_induction word letters text with
  | case1 => cases h; exact Nat.le_refl _
  | case2 => cases h
  | case3 letters c tail ih =>
    have := ih h
    simp only [List.length_cons]
    omega
  | case4 => cases h

/-! ### Escapes -/

/-- The number that four hexadecimal digits at the front of a text spell. With fewer than four
bytes left the text ends too early. -/
def fourDigits : List Char → Except Fault (Nat × List Char)
  | a :: b :: c :: d :: rest =>
    match [a, b, c, d].mapM hexValue? with
    | some digits => .ok (digits.foldl (16 * · + ·) 0, rest)
    | none => .error .malformed
  | short => .error (if byteLength short < 4 then .endOfText else .malformed)

/-- Four digits are used up. -/
theorem fourDigits_shortens {text rest : List Char} {n : Nat}
    (h : fourDigits text = .ok (n, rest)) : rest.length < text.length := by
  unfold fourDigits at h
  split at h
  · split at h
    · cases h
      simp only [List.length_cons]
      omega
    · cases h
  · cases h

/-- The character whose surrogate pair starts with the half `lead`; its second half has to follow
as an escape of its own. -/
def secondHalf (lead : Nat) (text : List Char) : Except Fault (Char × List Char) :=
  match word ['\\', 'u'] text with
  | .error fault => .error fault
  | .ok rest =>
    match fourDigits rest with
    | .error fault => .error fault
    | .ok (trail, rest) =>
      if 0xDC00 ≤ trail ∧ trail ≤ 0xDFFF then
        .ok (Char.ofNat ((lead - 0xD800) * 0x400 + (trail - 0xDC00) + 0x10000), rest)
      else .error .malformed

/-- A second half is used up. -/
theorem secondHalf_shortens {lead : Nat} {text rest : List Char} {c : Char}
    (h : secondHalf lead text = .ok (c, rest)) : rest.length < text.length := by
  unfold secondHalf at h
  split at h
  · cases h
  · next hword =>
    have := word_shortens hword
    split at h
    · cases h
    · next hdigits =>
      have := fourDigits_shortens hdigits
      split at h
      · obtain ⟨-, rfl⟩ := Prod.mk.inj (Except.ok.inj h)
        omega
      · cases h

/-- The character that the digits after `\u` denote. A lenient reading does not ask what a
surrogate half goes with. -/
def numberedChar (strict : Bool) (text : List Char) : Except Fault (Char × List Char) :=
  match fourDigits text with
  | .error fault => .error fault
  | .ok (n, rest) =>
    if !strict || n < 0xD800 || 0xDFFF < n then .ok (Char.ofNat n, rest)
    else if n < 0xDC00 then secondHalf n rest
    else .error .malformed

/-- A numbered character is used up. -/
theorem numberedChar_shortens {strict : Bool} {text rest : List Char} {c : Char}
    (h : numberedChar strict text = .ok (c, rest)) : rest.length < text.length := by
  unfold numberedChar at h
  split at h
  · cases h
  · next hdigits =>
    have := fourDigits_shortens hdigits
    split at h
    · cases h
      exact this
    · split at h
      · have := secondHalf_shortens h
        omega
      · cases h

/-- The character that a letter after a backslash denotes, except for `u`. -/
def escapedChar? : Char → Option Char
  | '"' => some '"'
  | '\\' => some '\\'
  | '/' => some '/'
  | 'b' => some '\x08'
  | 'f' => some '\x0c'
  | 'n' => some '\n'
  | 'r' => some '\r'
  | 't' => some '\t'
  | _ => none

/-- The character that an escape denotes, given what follows its backslash. -/
def escape (strict : Bool) : List Char → Except Fault (Char × List Char)
  | [] => .error .endOfText
  | letter :: rest =>
    if letter = 'u' then numberedChar strict rest
    else match escapedChar? letter with
      | some c => .ok (c, rest)
      | none => .error .malformed

/-- An escape is used up. -/
theorem escape_shortens {strict : Bool} {text rest : List Char} {c : Char}
    (h : escape strict text = .ok (c, rest)) : rest.length < text.length := by
  unfold escape at h
  split at h
  · cases h
  · next tail =>
    split at h
    · have := numberedChar_shortens h
      simp only [List.length_cons]
      omega
    · split at h
      · cases h
        simp
      · cases h

/-! ### Strings -/

/-- The characters of a string up to the quote that ends it, after those already read, which come
newest first; and what follows the quote. -/
def stringBody (strict : Bool) (found : List Char) (text : List Char) :
    Except Fault (List Char × List Char) :=
  match text with
  | [] => .error .endOfText
  | '"' :: rest => .ok (found.reverse, rest)
  | '\\' :: rest =>
    match h : escape strict rest with
    | .error fault => .error fault
    | .ok (c, rest') =>
      have : rest'.length < rest.length := escape_shortens h
      stringBody strict (c :: found) rest'
  | c :: rest => if c < ' ' then .error .malformed else stringBody strict (c :: found) rest
termination_by text.length

/-- A string is used up. -/
theorem stringBody_shortens {strict : Bool} {found text chars rest : List Char}
    (h : stringBody strict found text = .ok (chars, rest)) : rest.length < text.length := by
  fun_induction stringBody strict found text with
  | case1 => cases h
  | case2 found tail => cases h; simp
  | case3 => cases h
  | case4 found tail c tail' hescape hlt ih =>
    have := ih h
    simp only [List.length_cons]
    omega
  | case5 => cases h
  | case6 found c tail _ _ _ ih =>
    have := ih h
    simp only [List.length_cons]
    omega

end Slab.Json
