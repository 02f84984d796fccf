import Slab.Decimal.Reading
import Slab.Json.Fault

/-!
# JSON numbers

A numeral has an optional minus, digits without a needless leading zero, and optionally a fraction
and an exponent. Without these two it denotes a whole number as long as that fits 64 bits; all
other numerals denote floating point numbers.
-/

namespace Slab.Json

/-- The parts of a numeral. -/
structure Numeral where
  /-- There is a minus in front. -/
  negative : Bool
  /-- The digits before the point. -/
  whole : List Char
  /-- The digits after the point, none if there is no point. -/
  fraction : List Char
  /-- The number after the `e`, if there is one. -/
  exponent : Option Int

/-! ### Reading the parts -/

/-- The digits at the front of a text, at least one, and what follows them. -/
def someDigits (text : List Char) : Except Fault (List Char × List Char) :=
  if frontDigits text = [] then .error (if text.isEmpty then .endOfText else .malformed)
  else .ok (frontDigits text, afterDigits text)

/-- The digits after a point, if there is one, and what follows them. -/
def fractionDigits : List Char → Except Fault (List Char × List Char)
  | '.' :: rest => someDigits rest
  | rest => .ok ([], rest)

/-- The number after an `e`, if there is one, and what follows it. -/
def exponentPart : List Char → Except Fault (Option Int × List Char)
  | c :: rest =>
    if c = 'e' ∨ c = 'E' then
      match someDigits (splitSign rest).2 with
      | .error fault => .error fault
      | .ok (digits, after) => .ok (some (signed (splitSign rest).1 digits), after)
    else .ok (none, c :: rest)
  | [] => .ok (none, [])

/-- A minus, if there is one, and what follows it. -/
def splitMinus : List Char → Bool × List Char
  | '-' :: rest => (true, rest)
  | rest => (false, rest)

/-- The numeral at the front of a text and what follows it. -/
def numeral (text : List Char) : Except Fault (Numeral × List Char) :=
  match someDigits (splitMinus text).2 with
  | .error fault => .error fault
  | .ok ('0' :: _ :: _, _) => .error .malformed
  | .ok (whole, rest) =>
    match fractionDigits rest with
    | .error fault => .error fault
    | .ok (fraction, rest) =>
      match exponentPart rest with
      | .error fault => .error fault
      | .ok (exponent, rest) => .ok (⟨(splitMinus text).1, whole, fraction, exponent⟩, rest)

/-! ### What is read is used up -/

/-- At least one digit is used up. -/
theorem someDigits_shortens {text digits rest : List Char}
    (h : someDigits text = .ok (digits, rest)) : rest.length < text.length := by
  unfold someDigits at h
  split at h
  · cases h
  · next hne =>
    simp only [Except.ok.injEq, Prod.mk.injEq] at h
    obtain ⟨-, rfl⟩ := h
    have hsplit := congrArg List.length (List.takeWhile_append_dropWhile (p := isDigit) (l := text))
    have hpos : 0 < (frontDigits text).length := List.length_pos_iff.2 hne
    simp only [List.length_append] at hsplit
    simp only [frontDigits, afterDigits] at hpos ⊢
    omega

/-- A fraction does not lengthen the text. -/
theorem fractionDigits_shortens {text digits rest : List Char}
    (h : fractionDigits text = .ok (digits, rest)) : rest.length ≤ text.length := by
  unfold fractionDigits at h
  split at h
  · have := someDigits_shortens h
    simp only [List.length_cons]
    omega
  · cases h
    exact Nat.le_refl _

/-- Taking off a sign does not lengthen the text. -/
theorem length_splitSign_le (text : List Char) : (splitSign text).2.length ≤ text.length := by
  unfold splitSign
  split <;> simp

/-- Taking off a minus does not lengthen the text. -/
theorem length_splitMinus_le (text : List Char) : (splitMinus text).2.length ≤ text.length := by
  unfold splitMinus
  split <;> simp

/-- An exponent does not lengthen the text. -/
theorem exponentPart_shortens {text rest : List Char} {exponent : Option Int}
    (h : exponentPart text = .ok (exponent, rest)) : rest.length ≤ text.length := by
  unfold exponentPart at h
  split at h
  · next c tail =>
    split at h
    · split at h
      · cases h
      · next hdigits =>
        cases h
        have := someDigits_shortens hdigits
        have := length_splitSign_le tail
        simp only [List.length_cons]
        omega
    · cases h
      exact Nat.le_refl _
  · cases h
    exact Nat.le_refl _

/-- A numeral uses up at least one character. -/
theorem numeral_shortens {text rest : List Char} {number : Numeral}
    (h : numeral text = .ok (number, rest)) : rest.length < text.length := by
  unfold numeral at h
  have hminus := length_splitMinus_le text
  split at h
  · cases h
  · cases h
  · next hwhole =>
    have := someDigits_shortens hwhole
    split at h
    · cases h
    · next hfraction =>
      have := fractionDigits_shortens hfraction
      split at h
      · cases h
      · next hexponent =>
        have := exponentPart_shortens hexponent
        cases h
        omega

/-! ### What a numeral denotes -/

/-- A number as a reader sees it. -/
inductive Number
  /-- A whole number that fits 64 bits. -/
  | whole (n : Int)
  /-- Any other number, rounded. -/
  | real (x : Float)

/-- Digits appended to a number as long as it fits 64 bits, and the digits left over. -/
def absorb (significand : Nat) : List Char → Nat × List Char
  | [] => (significand, [])
  | digit :: digits =>
    let longer := 10 * significand + digitValue digit
    if longer < UInt64.size then absorb longer digits else (significand, digit :: digits)

/-- The power of ten as a floating point number, for exponents up to 308. -/
def powerOfTen (exponent : Nat) : Float := Float.ofScientific 1 false exponent

/-- A number divided by a power of ten, in several steps if the power is out of range. -/
def divideByPower (x : Float) (exponent : Nat) : Float :=
  if exponent ≤ 308 then x / powerOfTen exponent
  else if x == 0 then x
  else divideByPower (x / powerOfTen 308) (exponent - 308)
termination_by exponent
decreasing_by omega

/-- A significand scaled by a power of ten, if the result is in range. -/
def scaled (significand : Nat) (exponent : Int) : Option Float :=
  let x := Float.ofNat significand
  if exponent < 0 then some (divideByPower x exponent.natAbs)
  else if significand = 0 then some x
  else if exponent > 308 then none
  else
    let y := x * powerOfTen exponent.natAbs
    if y.isInf then none else some y

namespace Numeral

/-- The floating point number that a numeral denotes, if it is in range. Digits that no longer fit
64 bits only count for the exponent. -/
def real? (number : Numeral) : Option Float :=
  let (significand, dropped) := absorb 0 number.whole
  let (significand, ignored) := absorb significand number.fraction
  let shift : Int := dropped.length - (number.fraction.length - ignored.length : Nat)
  (scaled significand (shift + number.exponent.getD 0)).map fun x =>
    if number.negative then -x else x

/-- The numeral has neither fraction nor exponent. -/
def isWhole (number : Numeral) : Bool :=
  number.fraction.isEmpty && number.exponent.isNone

/-- What a numeral denotes, if it is in range. A negative zero is not a whole number. -/
def value? (number : Numeral) : Option Number :=
  let n := ofDigits number.whole
  if number.isWhole && !number.negative && n < UInt64.size then some (.whole n)
  else if number.isWhole && number.negative && 0 < n && n ≤ UInt64.size / 2 then some (.whole (-n))
  else number.real?.map .real

end Numeral

/-- The number at the front of a text and what follows it. -/
def readNumber (text : List Char) : Except Fault (Number × List Char) :=
  match numeral text with
  | .error fault => .error fault
  | .ok (number, rest) =>
    match number.value? with
    | some value => .ok (value, rest)
    | none => .error .malformed

/-- A number uses up at least one character. -/
theorem readNumber_shortens {text rest : List Char} {value : Number}
    (h : readNumber text = .ok (value, rest)) : rest.length < text.length := by
  unfold readNumber at h
  split at h
  · cases h
  · next hnumeral =>
    split at h
    · cases h
      exact numeral_shortens hnumeral
    · cases h

/-- What follows the numeral at the front of a text. Here an early end is no different from any
other fault. -/
def skipNumber (text : List Char) : Except Fault (List Char) :=
  match numeral text with
  | .error _ => .error .malformed
  | .ok (_, rest) => .ok rest

end Slab.Json
