import Slab.Json.Literal
import Slab.Json.Numeral

/-!
# Passing over a JSON value

The value of an unknown key is passed over. Any JSON will do, however deep it nests: the brackets
that are still open are kept in a list.
-/

namespace Slab.Json

/-- The character is a blank of JSON. -/
def isBlank (c : Char) : Bool :=
  c == ' ' || c == '\t' || c == '\n' || c == '\r'

/-- A text without the blanks at its front. -/
def skipBlanks (text : List Char) : List Char := text.dropWhile isBlank

/-- Passing over blanks does not lengthen a text. -/
theorem length_skipBlanks_le (text : List Char) : (skipBlanks text).length ≤ text.length :=
  (List.dropWhile_suffix _).length_le

/-- A bracket that is still open. -/
inductive Bracket
  /-- The opening bracket of an array. -/
  | square
  /-- The opening bracket of an object. -/
  | curly
deriving DecidableEq, Repr

/-- The bracket that closes another. -/
def Bracket.closing : Bracket → Char
  | .square => ']'
  | .curly => '\x7d'

/-- What follows a word, number or string at the front of a text. -/
def skipScalar : List Char → Except Fault (List Char)
  | [] => .error .endOfText
  | c :: rest =>
    if c = 'n' then word "ull".toList rest
    else if c = 't' then word "rue".toList rest
    else if c = 'f' then word "alse".toList rest
    else if c = '"' then (stringBody false [] rest).map (·.2)
    else if c = '-' ∨ isDigit c then skipNumber (c :: rest)
    else .error .malformed

/-- A scalar is used up. -/
theorem skipScalar_shortens {text rest : List Char} (h : skipScalar text = .ok rest) :
    rest.length < text.length := by
  unfold skipScalar at h
  split at h
  · cases h
  · next c tail =>
    have hword {letters : List Char} (h : word letters tail = .ok rest) :
        rest.length < (c :: tail).length := by
      have := word_shortens h
      simp only [List.length_cons]
      omega
    split at h
    · exact hword h
    split at h
    · exact hword h
    split at h
    · exact hword h
    split at h
    · cases hbody : stringBody false [] tail with
      | error fault => rw [hbody] at h; cases h
      | ok result =>
        rw [hbody] at h
        cases h
        have := stringBody_shortens hbody
        simp only [List.length_cons]
        omega
    split at h
    · unfold skipNumber at h
      split at h
      · cases h
      · next hnumeral =>
        cases h
        exact numeral_shortens hnumeral
    · cases h

/-- What follows a key and its colon. -/
def skipKey (text : List Char) : Except Fault (List Char) :=
  match skipBlanks text with
  | [] => .error .endOfText
  | c :: rest =>
    if c = '"' then
      match stringBody false [] rest with
      | .error fault => .error fault
      | .ok (_, rest) =>
        match skipBlanks rest with
        | [] => .error .endOfText
        | c :: rest => if c = ':' then .ok rest else .error .malformed
    else .error .malformed

/-- A key is used up. -/
theorem skipKey_shortens {text rest : List Char} (h : skipKey text = .ok rest) :
    rest.length < text.length := by
  unfold skipKey at h
  have hblank := length_skipBlanks_le text
  split at h
  · cases h
  · next hfront =>
    rw [hfront] at hblank
    split at h
    · split at h
      · cases h
      · next after hbody =>
        have := stringBody_shortens hbody
        have hblank' := length_skipBlanks_le after
        split at h
        · cases h
        · next hfront' =>
          rw [hfront'] at hblank'
          split at h
          · cases h
            simp only [List.length_cons] at hblank hblank'
            omega
          · cases h
    · cases h

/-- What the text of a skipped value goes on with. -/
inductive SkipState
  /-- A value has to follow. -/
  | value
  /-- The innermost bracket has just been opened. -/
  | opened
  /-- A value has just ended. -/
  | ended
deriving DecidableEq, Repr

/-- The place of a state in the order in which states follow each other without using up text. -/
def SkipState.rank : SkipState → Nat
  | .value => 0
  | .opened => 1
  | .ended => 1

/-- What follows the value that is being skipped, given the brackets still open, innermost
first. -/
def skipFrom (state : SkipState) (brackets : List Bracket) (text : List Char) :
    Except Fault (List Char) :=
  match state, brackets with
  | .ended, [] => .ok text
  | .ended, bracket :: outer =>
    match h : skipBlanks text with
    | [] => .error .endOfText
    | c :: rest =>
      have : rest.length < text.length := by
        have := length_skipBlanks_le text
        rw [h] at this
        exact this
      if c = bracket.closing then skipFrom .ended outer rest
      else if c = ',' then
        match bracket with
        | .square => skipFrom .value (bracket :: outer) rest
        | .curly =>
          match hkey : skipKey rest with
          | .error fault => .error fault
          | .ok after =>
            have : after.length < rest.length := skipKey_shortens hkey
            skipFrom .value (bracket :: outer) after
      else .error .malformed
  | .opened, [] => .error .malformed
  | .opened, bracket :: outer =>
    match h : skipBlanks text with
    | [] => .error .endOfText
    | c :: rest =>
      have hle : (c :: rest).length ≤ text.length := h ▸ length_skipBlanks_le text
      if c = bracket.closing then skipFrom .ended outer rest
      else match bracket with
        | .square => skipFrom .value (bracket :: outer) (c :: rest)
        | .curly =>
          match hkey : skipKey (c :: rest) with
          | .error fault => .error fault
          | .ok after =>
            have : after.length < (c :: rest).length := skipKey_shortens hkey
            skipFrom .value (bracket :: outer) after
  | .value, brackets =>
    match h : skipBlanks text with
    | [] => .error .endOfText
    | c :: rest =>
      have hle : (c :: rest).length ≤ text.length := h ▸ length_skipBlanks_le text
      if c = '[' then skipFrom .opened (.square :: brackets) rest
      else if c = '\x7b' then skipFrom .opened (.curly :: brackets) rest
      else match hscalar : skipScalar (c :: rest) with
        | .error fault => .error fault
        | .ok after =>
          have : after.length < (c :: rest).length := skipScalar_shortens hscalar
          skipFrom .ended brackets after
termination_by 2 * text.length + state.rank
decreasing_by
  all_goals simp only [List.length_cons, SkipState.rank] at *
  all_goals omega

/-- Skipping uses text up, at least one character if a value has to follow. -/
theorem skipFrom_shortens {state : SkipState} {brackets : List Bracket} {text rest : List Char}
    (h : skipFrom state brackets text = .ok rest) :
    rest.length + (1 - state.rank) ≤ text.length := by
  fun_induction skipFrom state brackets text with
  | case1 => cases h; simp [SkipState.rank]
  | case2 | case5 | case7 | case8 | case9 | case12 | case14 | case17 => cases h
  | case3 | case4 | case6 | case10 | case11 | case13 | case15 | case16 | case18 =>
    rename_i ih
    have := ih h
    simp only [List.length_cons, SkipState.rank] at *
    omega

/-- What follows the value at the front of a text. -/
def skipValue (text : List Char) : Except Fault (List Char) :=
  skipFrom .value [] text

/-- A value is used up. -/
theorem skipValue_shortens {text rest : List Char} (h : skipValue text = .ok rest) :
    rest.length < text.length :=
  skipFrom_shortens h

end Slab.Json
