import Slab.Json.Skip

/-!
# Readers

A `Reader` takes a value of a certain kind off the front of a JSON text. It carries the proof that
it uses text up, and that is what ends the reading of arrays and objects. Readers of values that
nest are given their inner reader as an `Option`: without one, no further nesting is allowed.
-/

namespace Slab.Json

/-- A way to take a value off the front of a text, or to say what is wrong. -/
structure Reader (α : Type) where
  /-- The value and what follows it, or the first fault. -/
  run : List Char → Except Fault (α × List Char)
  /-- A value is used up. -/
  shortens {text rest : List Char} {value : α} :
    run text = .ok (value, rest) → rest.length < text.length

/-- The fault of a value that is not of the kind that is wanted. What makes the value no JSON at
all comes first; arrays and objects are judged by their bracket. -/
def mismatch (wanted : Wanted) : List Char → Fault
  | [] => .endOfText
  | c :: rest =>
    let wrong (found : Found) : Fault := .misfit (.wrongType found wanted)
    let afterWord (letters : List Char) (found : Found) : Fault :=
      match word letters rest with
      | .error fault => fault
      | .ok _ => wrong found
    if c = 'n' then afterWord "ull".toList .null
    else if c = 't' then afterWord "rue".toList (.boolean true)
    else if c = 'f' then afterWord "alse".toList (.boolean false)
    else if c = '"' then
      match stringBody true [] rest with
      | .error fault => fault
      | .ok (chars, _) => wrong (.text chars)
    else if c = '[' then wrong .sequence
    else if c = '\x7b' then wrong .map
    else if c = '-' ∨ isDigit c then
      match readNumber (c :: rest) with
      | .error fault => fault
      | .ok (.whole n, _) => wrong (.whole n)
      | .ok (.real x, _) => wrong (.real x)
    else .malformed

namespace Reader

variable {α β : Type}

/-- The reader with another form of its value. -/
def map (reader : Reader α) (f : α → β) : Reader β where
  run text := (reader.run text).map fun (value, rest) => (f value, rest)
  shortens {text rest value} h := by
    cases hrun : reader.run text with
    | error fault => rw [hrun] at h; cases h
    | ok result =>
      rw [hrun] at h
      cases h
      exact reader.shortens hrun

/-- The reader with a further condition on its value. -/
def check (reader : Reader α) (f : α → Except Fault β) : Reader β where
  run text :=
    match reader.run text with
    | .error fault => .error fault
    | .ok (value, rest) => (f value).map (·, rest)
  shortens {text rest value} h := by
    split at h
    · cases h
    · next value' rest' hrun =>
      cases hf : f value' with
      | error fault => rw [hf] at h; cases h
      | ok result =>
        rw [hf] at h
        cases h
        exact reader.shortens hrun

/-! ### Simple values -/

/-- A weight: a whole number from 0 to `2 ^ 32 - 1`. -/
def weight : Reader Nat where
  run text :=
    match skipBlanks text with
    | [] => .error .endOfText
    | c :: rest =>
      if c = '-' ∨ isDigit c then
        match readNumber (c :: rest) with
        | .error fault => .error fault
        | .ok (.real x, _) => .error (.misfit (.wrongType (.real x) .weight))
        | .ok (.whole n, after) =>
          if 0 ≤ n ∧ n < UInt32.size then .ok (n.toNat, after)
          else .error (.misfit (.outOfRange n .weight))
      else .error (mismatch .weight (c :: rest))
  shortens {text rest value} h := by
    have hblank := length_skipBlanks_le text
    split at h
    · cases h
    · next hfront =>
      rw [hfront] at hblank
      split at h
      · split at h
        · cases h
        · cases h
        · next hnumber =>
          have := readNumber_shortens hnumber
          split at h
          · cases h
            omega
          · cases h
      · cases h

/-- A string. -/
def text : Reader (List Char) where
  run text :=
    match skipBlanks text with
    | [] => .error .endOfText
    | c :: rest =>
      if c = '"' then stringBody true [] rest else .error (mismatch .text (c :: rest))
  shortens {text rest value} h := by
    have hblank := length_skipBlanks_le text
    split at h
    · cases h
    · next hfront =>
      rw [hfront] at hblank
      split at h
      · have := stringBody_shortens h
        simp only [List.length_cons] at hblank
        omega
      · cases h

/-- A colour, given by its text. -/
def color : Reader Color :=
  text.check fun chars => match Color.ofChars chars with
    | .ok color => .ok color
    | .error fault => .error (.misfit (.badColor fault))

/-- Any value, which is passed over. -/
def skip : Reader Unit where
  run text := (skipValue text).map ((), ·)
  shortens {text rest value} h := by
    cases hskip : skipValue text with
    | error fault => rw [hskip] at h; cases h
    | ok after =>
      rw [hskip] at h
      cases h
      exact skipValue_shortens hskip

/-- A value that may be null instead. -/
def nullable (reader : Reader α) : Reader (Option α) where
  run text :=
    match skipBlanks text with
    | 'n' :: rest => (word "ull".toList rest).map (none, ·)
    | _ => (reader.map some).run text
  shortens {text rest value} h := by
    have hblank := length_skipBlanks_le text
    split at h
    · next tail hfront =>
      rw [hfront] at hblank
      cases hword : word "ull".toList tail with
      | error fault => rw [hword] at h; cases h
      | ok after =>
        rw [hword] at h
        cases h
        have := word_shortens hword
        simp only [List.length_cons] at hblank
        omega
    · exact (reader.map some).shortens h

/-! ### Arrays -/

/-- The items of an array from one that has to follow to the closing bracket, after those already
read, which come newest first. -/
def itemsFrom (item : Reader α) (found : List α) (text : List Char) :
    Except Fault (List α × List Char) :=
  match h : item.run text with
  | .error fault => .error fault
  | .ok (value, after) =>
    match hblank : skipBlanks after with
    | [] => .error .endOfText
    | c :: rest =>
      if c = ']' then .ok ((value :: found).reverse, rest)
      else if c = ',' then
        have : rest.length < text.length := by
          have h₁ := item.shortens h
          have h₂ := length_skipBlanks_le after
          rw [hblank] at h₂
          simp only [List.length_cons] at h₂
          omega
        itemsFrom item (value :: found) rest
      else .error .malformed
termination_by text.length

/-- The items of an array are used up. -/
theorem itemsFrom_shortens {item : Reader α} {found values : List α} {text rest : List Char}
    (h : itemsFrom item found text = .ok (values, rest)) : rest.length < text.length := by
  fun_induction itemsFrom item found text with
  | case1 => cases h
  | case2 => cases h
  | case3 found text value after hitem tail hfront =>
    cases h
    have h₁ := item.shortens hitem
    have h₂ := length_skipBlanks_le after
    rw [hfront] at h₂
    simp only [List.length_cons] at h₂
    omega
  | case4 =>
    rename_i hlt _ ih
    have := ih h
    omega
  | case5 => cases h

/-- What follows the opening bracket of an array. -/
def items (item : Reader α) (text : List Char) : Except Fault (List α × List Char) :=
  match skipBlanks text with
  | ']' :: rest => .ok ([], rest)
  | _ => itemsFrom item [] text

/-- The items of an array are used up. -/
theorem items_shortens {item : Reader α} {values : List α} {text rest : List Char}
    (h : items item text = .ok (values, rest)) : rest.length < text.length := by
  have hblank := length_skipBlanks_le text
  unfold items at h
  split at h
  · next hfront =>
    rw [hfront] at hblank
    cases h
    exact hblank
  · exact itemsFrom_shortens h

/-- What follows a bracket that may not be opened: nesting would get too deep. -/
def tooDeep (_ : List Char) : Except Fault (α × List Char) := .error .malformed

/-- An array of items, if there is a reader for them. -/
def array (item : Option (Reader α)) : Reader (List α) where
  run text :=
    match skipBlanks text with
    | [] => .error .endOfText
    | c :: rest =>
      if c = '[' then
        match item with
        | some item => items item rest
        | none => tooDeep rest
      else .error (mismatch .sequence (c :: rest))
  shortens {text rest value} h := by
    have hblank := length_skipBlanks_le text
    split at h
    · cases h
    · next hfront =>
      rw [hfront] at hblank
      split at h
      · split at h
        · have := items_shortens h
          simp only [List.length_cons] at hblank
          omega
        · cases h
      · cases h

/-! ### Records -/

/-- A record: a value written as an array of its parts or as an object, each form given by how
what follows its opening bracket is read. -/
def record (wanted : Wanted) (inArray inObject : List Char → Except Fault (α × List Char))
    (inArray_shortens : ∀ {text rest value}, inArray text = .ok (value, rest) →
      rest.length ≤ text.length)
    (inObject_shortens : ∀ {text rest value}, inObject text = .ok (value, rest) →
      rest.length ≤ text.length) : Reader α where
  run text :=
    match skipBlanks text with
    | [] => .error .endOfText
    | c :: rest =>
      if c = '[' then inArray rest
      else if c = '\x7b' then inObject rest
      else .error (mismatch wanted (c :: rest))
  shortens {text rest value} h := by
    have hblank := length_skipBlanks_le text
    split at h
    · cases h
    · next hfront =>
      rw [hfront] at hblank
      simp only [List.length_cons] at hblank
      split at h
      · have := inArray_shortens h
        omega
      split at h
      · have := inObject_shortens h
        omega
      · cases h

/-- The next part of a record written as an array, or nothing if the array ends here. -/
def nextPart (first : Bool) (part : Reader α) (text : List Char) :
    Except Fault (Option α × List Char) :=
  match skipBlanks text with
  | [] => .error .endOfText
  | c :: rest =>
    if c = ']' then .ok (none, c :: rest)
    else if first then (part.map some).run (c :: rest)
    else if c = ',' then (part.map some).run rest
    else .error .malformed

/-- A part does not lengthen the text. -/
theorem nextPart_shortens {first : Bool} {part : Reader α} {text rest : List Char}
    {value : Option α} (h : nextPart first part text = .ok (value, rest)) :
    rest.length ≤ text.length := by
  have hblank := length_skipBlanks_le text
  unfold nextPart at h
  split at h
  · cases h
  · next hfront =>
    rw [hfront] at hblank
    split at h
    · cases h
      exact hblank
    split at h
    · have := (part.map some).shortens h
      omega
    split at h
    · have := (part.map some).shortens h
      simp only [List.length_cons] at hblank
      omega
    · cases h

/-- What follows the closing bracket of a record written as an array. -/
def lastPart (value : α) (text : List Char) : Except Fault (α × List Char) :=
  match skipBlanks text with
  | [] => .error .endOfText
  | c :: rest => if c = ']' then .ok (value, rest) else .error .malformed

/-- A closing bracket does not lengthen the text. -/
theorem lastPart_shortens {value result : α} {text rest : List Char}
    (h : lastPart value text = .ok (result, rest)) : rest.length ≤ text.length := by
  have hblank := length_skipBlanks_le text
  unfold lastPart at h
  split at h
  · cases h
  · next hfront =>
    rw [hfront] at hblank
    split at h
    · cases h
      simp only [List.length_cons] at hblank
      omega
    · cases h

/-- How the fields of an object are read: from what is known so far and a key, a reader of the
value that gives what is known then, or a reason to refuse the key. -/
abbrev Fields (σ : Type) := σ → List Char → Except Fault (Reader σ)

/-- The members of an object from one that has to follow to the closing bracket. -/
def membersFrom {σ : Type} (fields : Fields σ) (known : σ) (text : List Char) :
    Except Fault (σ × List Char) :=
  match hkey : skipBlanks text with
  | [] => .error .endOfText
  | c :: afterQuote =>
    if c = '"' then
      match hbody : stringBody true [] afterQuote with
      | .error fault => .error fault
      | .ok (key, afterKey) =>
        match fields known key with
        | .error fault => .error fault
        | .ok reader =>
          match hcolon : skipBlanks afterKey with
          | [] => .error .endOfText
          | c :: afterColon =>
            if c = ':' then
              match hvalue : reader.run afterColon with
              | .error fault => .error fault
              | .ok (known', afterValue) =>
                match hblank : skipBlanks afterValue with
                | [] => .error .endOfText
                | c :: rest =>
                  have hlt : rest.length < text.length := by
                    have h₁ := hkey ▸ length_skipBlanks_le text
                    have h₂ := stringBody_shortens hbody
                    have h₃ := hcolon ▸ length_skipBlanks_le afterKey
                    have h₄ := reader.shortens hvalue
                    have h₅ := hblank ▸ length_skipBlanks_le afterValue
                    simp only [List.length_cons] at h₁ h₃ h₅
                    omega
                  if c = '\x7d' then .ok (known', rest)
                  else if c = ',' then membersFrom fields known' rest
                  else .error .malformed
            else .error .malformed
    else .error .malformed
termination_by text.length

/-- The members of an object are used up. -/
theorem membersFrom_shortens {σ : Type} {fields : Fields σ} {known result : σ}
    {text rest : List Char} (h : membersFrom fields known text = .ok (result, rest)) :
    rest.length < text.length := by
  fun_induction membersFrom fields known text with
  | case7 => cases h; assumption
  | case8 =>
    rename_i hlt _ _ ih
    have := ih h
    omega
  | _ => cases h

/-- What follows the opening bracket of an object. -/
def members {σ : Type} (fields : Fields σ) (start : σ) (text : List Char) :
    Except Fault (σ × List Char) :=
  match skipBlanks text with
  | '\x7d' :: rest => .ok (start, rest)
  | _ => membersFrom fields start text

/-- The members of an object are used up. -/
theorem members_shortens {σ : Type} {fields : Fields σ} {start result : σ}
    {text rest : List Char} (h : members fields start text = .ok (result, rest)) :
    rest.length < text.length := by
  have hblank := length_skipBlanks_le text
  unfold members at h
  split at h
  · next hfront =>
    rw [hfront] at hblank
    cases h
    exact hblank
  · exact membersFrom_shortens h

/-! ### Whole texts -/

/-- The value that a whole text denotes: nothing but blanks may follow it. -/
def whole (reader : Reader α) (text : List Char) : Except Fault α :=
  match reader.run text with
  | .error fault => .error fault
  | .ok (value, rest) => if skipBlanks rest = [] then .ok value else .error .malformed

end Reader

end Slab.Json
