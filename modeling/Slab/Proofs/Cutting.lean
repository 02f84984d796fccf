import Slab.Lexeme

/-!
# How a program is cut

The units of a program can be found from the left, one at a time. `lexemes_cons_of_ne` and
`lexemes_break` say what the first unit is, `unit_induction` and `bracket_induction` are the
inductions that go along, and `ofChar?_eq_some_iff` says which character stands for a command.
A text is `Settled` if no `B` at its end waits for a second one: then it is cut the same way
whatever follows. Units are `Writable` if they are cut from their own text again.
-/

namespace Slab

/-! ### The letter of a command -/

/-- Only the letter of a command is read as it. -/
theorem Command.eq_letter_of_ofChar? {c : Char} {command : Command}
    (h : Command.ofChar? c = some command) : c = command.letter := by
  unfold Command.ofChar? at h
  split at h <;> cases h <;> rfl

/-- A character is read as a command exactly if it is the letter of that command. -/
theorem Command.ofChar?_eq_some_iff {c : Char} {command : Command} :
    Command.ofChar? c = some command ↔ c = command.letter := by
  constructor
  · exact Command.eq_letter_of_ofChar?
  · rintro rfl
    exact Command.ofChar?_letter command

/-- Only the row break is written `B`. -/
theorem Command.letter_eq_B_iff {command : Command} :
    command.letter = 'B' ↔ command = .breakRow := by
  rw [eq_comm, ← Command.ofChar?_eq_some_iff]
  show some Command.breakRow = some command ↔ _
  rw [Option.some_inj, eq_comm]

/-- A character is the unit of a command exactly if it is the letter of that command. -/
theorem Lexeme.ofChar_eq_command_iff {c : Char} {command : Command} :
    Lexeme.ofChar c = .command command ↔ c = command.letter := by
  rw [← Command.ofChar?_eq_some_iff]
  unfold Lexeme.ofChar
  rcases h : Command.ofChar? c with _ | other
  · simp
  · simp

/-- The letter of a command is the unit of that command. -/
@[simp] theorem Lexeme.ofChar_letter (command : Command) :
    Lexeme.ofChar command.letter = .command command :=
  Lexeme.ofChar_eq_command_iff.mpr rfl

/-- No character closes a nested program on its own. -/
theorem Lexeme.ofChar_ne_close (c : Char) : Lexeme.ofChar c ≠ .close := by
  unfold Lexeme.ofChar
  rcases Command.ofChar? c with _ | command
  · simp
  · simp

/-! ### The first unit -/

/-- A character other than `B` is a unit of its own. -/
theorem lexemes_cons_of_ne {c : Char} (h : c ≠ 'B') (rest : List Char) :
    lexemes (c :: rest) = .ofChar c :: lexemes rest := by
  apply lexemes_cons
  intro rest' hc
  exact absurd hc h

/-- A character that does not pair with the next one is a unit of its own. -/
theorem lexemes_single {c : Char} {rest : List Char} (h : c = 'B' → rest.head? ≠ some 'B') :
    lexemes (c :: rest) = .ofChar c :: lexemes rest := by
  refine lexemes_cons ?_
  rintro rest' hc rfl
  exact h hc rfl

/-- A `B` without a second one behind it breaks a row. -/
theorem lexemes_break {rest : List Char} (h : rest.head? ≠ some 'B') :
    lexemes ('B' :: rest) = .command .breakRow :: lexemes rest :=
  lexemes_single fun _ => h

/-! ### Induction along the units -/

/-- Induction over a text from its end, one unit at a time. -/
@[elab_as_elim]
theorem unit_induction {motive : List Char → Prop} (nil : motive [])
    (pair : ∀ rest, motive rest → motive ('B' :: 'B' :: rest))
    (single : ∀ c rest, (c = 'B' → rest.head? ≠ some 'B') → motive rest → motive (c :: rest)) :
    ∀ text, motive text
  | [] => nil
  | [c] => single c [] (fun _ => by simp) nil
  | c :: d :: rest => by
      have ih := unit_induction nil pair single rest
      by_cases h : c = 'B' ∧ d = 'B'
      · obtain ⟨rfl, rfl⟩ := h
        exact pair rest ih
      · refine single c (d :: rest) ?_ (unit_induction nil pair single (d :: rest))
        rintro rfl hd
        exact h ⟨rfl, by simpa using hd⟩

/-- Induction over a text in which an `S` may refer to every text no longer than what follows
it: to the nested program that it begins and to the text behind that. -/
@[elab_as_elim]
theorem bracket_induction {motive : List Char → Prop} (nil : motive [])
    (close : ∀ rest, motive rest → motive ('B' :: 'B' :: rest))
    (nest : ∀ rest, (∀ part : List Char, part.length ≤ rest.length → motive part) →
      motive ('S' :: rest))
    (single : ∀ c rest, c ≠ 'S' → (c = 'B' → rest.head? ≠ some 'B') → motive rest →
      motive (c :: rest)) (text : List Char) : motive text := by
  induction hn : text.length using Nat.strongRecOn generalizing text with
  | ind n ih =>
      subst hn
      rcases text with _ | ⟨c, rest⟩
      · exact nil
      have shorter : ∀ part : List Char, part.length ≤ rest.length → motive part := by
        intro part hpart
        exact ih part.length (by simp; omega) part rfl
      by_cases hS : c = 'S'
      · subst hS
        exact nest rest shorter
      by_cases hB : c = 'B' ∧ rest.head? = some 'B'
      · obtain ⟨rfl, hd⟩ := hB
        obtain ⟨rest, rfl⟩ := List.head?_eq_some_iff.mp hd
        exact close rest (shorter rest (by simp))
      · refine single c rest hS ?_ (shorter rest (Nat.le_refl _))
        intro hc hd
        exact hB ⟨hc, hd⟩

/-! ### Counting units -/

/-- A command other than the row break occurs as often among the units as its letter in the
text. -/
theorem count_lexemes (command : Command) (h : command ≠ .breakRow) (text : List Char) :
    (lexemes text).count (.command command) = text.count command.letter := by
  have hletter : command.letter ≠ 'B' := by
    intro hB
    exact h (Command.letter_eq_B_iff.mp hB)
  induction text using unit_induction with
  | nil => rfl
  | pair rest ih =>
      rw [lexemes_pair, List.count_cons_of_ne (by simp), ih,
        List.count_cons_of_ne hletter.symm, List.count_cons_of_ne hletter.symm]
  | single c rest hB ih =>
      rw [lexemes_single hB]
      by_cases hc : c = command.letter
      · rw [Lexeme.ofChar_eq_command_iff.mpr hc, hc, List.count_cons_self, List.count_cons_self,
          ih]
      · rw [List.count_cons_of_ne fun hu => hc (Lexeme.ofChar_eq_command_iff.mp hu),
          List.count_cons_of_ne hc, ih]

/-- A text without two adjacent `B`s closes nothing. -/
theorem close_notMem_lexemes {text : List Char} (h : ¬['B', 'B'] <:+: text) :
    Lexeme.close ∉ lexemes text := by
  induction text using unit_induction with
  | nil => simp
  | pair rest ih => exact absurd (List.prefix_append ['B', 'B'] rest).isInfix h
  | single c rest hB ih =>
      rw [lexemes_single hB, List.mem_cons, not_or]
      refine ⟨(Lexeme.ofChar_ne_close c).symm, ih ?_⟩
      intro hrest
      exact h (hrest.trans (List.suffix_cons c rest).isInfix)

/-! ### Texts that are cut the same way whatever follows -/

/-- What follows the text has no say in how it is cut. -/
def Settled (text : List Char) : Prop :=
  ∀ rest, lexemes (text ++ rest) = lexemes text ++ lexemes rest

/-- The empty text is settled. -/
theorem settled_nil : Settled [] := fun _ => rfl

/-- One settled text after another is settled. -/
theorem Settled.append {text more : List Char} (htext : Settled text) (hmore : Settled more) :
    Settled (text ++ more) := by
  intro rest
  rw [List.append_assoc, htext, hmore, htext, List.append_assoc]

/-- A character other than `B` may stand before a settled text. -/
theorem Settled.cons {c : Char} {text : List Char} (hc : c ≠ 'B') (htext : Settled text) :
    Settled (c :: text) := by
  intro rest
  rw [List.cons_append, lexemes_cons_of_ne hc, lexemes_cons_of_ne hc, htext, List.cons_append]

/-- A `B` may stand before a settled text that begins with another character. -/
theorem Settled.break {c : Char} {text : List Char} (hc : c ≠ 'B')
    (htext : Settled (c :: text)) : Settled ('B' :: c :: text) := by
  intro rest
  have hhead : ∀ more, (c :: more).head? ≠ some 'B' := by
    intro more
    simpa using hc
  rw [List.cons_append, List.cons_append, lexemes_break (hhead _), lexemes_break (hhead _),
    ← List.cons_append, htext, List.cons_append]

/-- Pairs of `B`s are so many closes. -/
theorem lexemes_closes (n : Nat) (rest : List Char) :
    lexemes (List.replicate (2 * n) 'B' ++ rest) = List.replicate n .close ++ lexemes rest := by
  induction n with
  | zero => rfl
  | succ n ih =>
      rw [Nat.mul_succ, List.replicate_succ, List.replicate_succ, List.cons_append,
        List.cons_append, lexemes_pair, ih, List.replicate_succ, List.cons_append]

/-- Pairs of `B`s are settled. -/
theorem settled_closes (n : Nat) : Settled (List.replicate (2 * n) 'B') := by
  intro rest
  have h := lexemes_closes n []
  rw [List.append_nil, lexemes_nil, List.append_nil] at h
  rw [lexemes_closes, h]

/-! ### Writing units down -/

/-- The text of a unit. -/
def Lexeme.chars : Lexeme → List Char
  | .close => ['B', 'B']
  | .command letter => [letter.letter]
  | .noise char => [char]

/-- The text of some units. -/
def spell (units : List Lexeme) : List Char :=
  units.flatMap Lexeme.chars

/-- The units are cut from their text again, whatever follows, and none of them refers to the
program itself. -/
structure Writable (units : List Lexeme) : Prop where
  /-- The text is cut into the units. -/
  cut : ∀ rest, lexemes (spell units ++ rest) = units ++ lexemes rest
  /-- There is no self-reference. -/
  noRecurse : .command .recurse ∉ units

/-- Writable units give their text. -/
theorem Writable.lexemes_spell {units : List Lexeme} (h : Writable units) :
    lexemes (spell units) = units := by
  simpa using h.cut []

/-- No units are writable. -/
theorem writable_nil : Writable [] := ⟨fun _ => rfl, by simp⟩

/-- Writable units can be written one after another. -/
theorem Writable.append {units more : List Lexeme} (h : Writable units) (hmore : Writable more) :
    Writable (units ++ more) where
  cut := by
    intro rest
    have hspell : spell (units ++ more) = spell units ++ spell more := List.flatMap_append
    rw [hspell, List.append_assoc, h.cut, hmore.cut, List.append_assoc]
  noRecurse := by
    rw [List.mem_append, not_or]
    exact ⟨h.noRecurse, hmore.noRecurse⟩

/-- A close may stand before writable units. -/
theorem Writable.close {units : List Lexeme} (h : Writable units) : Writable (.close :: units) where
  cut := by
    intro rest
    show lexemes ('B' :: 'B' :: (spell units ++ rest)) = _
    rw [lexemes_pair, h.cut, List.cons_append]
  noRecurse := by simpa using h.noRecurse

/-- A command other than a row break or a self-reference may stand before writable units. -/
theorem Writable.command {units : List Lexeme} {command : Command} (hbreak : command ≠ .breakRow)
    (hrecurse : command ≠ .recurse) (h : Writable units) :
    Writable (.command command :: units) where
  cut := by
    intro rest
    show lexemes (command.letter :: (spell units ++ rest)) = _
    rw [lexemes_cons_of_ne (fun hB => hbreak (Command.letter_eq_B_iff.mp hB)), h.cut,
      Lexeme.ofChar_letter, List.cons_append]
  noRecurse := by
    rw [List.mem_cons, not_or]
    refine ⟨?_, h.noRecurse⟩
    intro heq
    exact hrecurse (Lexeme.command.inj heq).symm

/-- A row break may stand before writable units that begin with another command. -/
theorem Writable.breakRow {units : List Lexeme} {command : Command} (hbreak : command ≠ .breakRow)
    (h : Writable (.command command :: units)) :
    Writable (.command .breakRow :: .command command :: units) where
  cut := by
    intro rest
    show lexemes ('B' :: (spell (.command command :: units) ++ rest)) = _
    rw [lexemes_break, h.cut]
    · rfl
    · show (command.letter :: (spell units ++ rest)).head? ≠ some 'B'
      rw [List.head?_cons]
      exact fun hB => hbreak (Command.letter_eq_B_iff.mp (Option.some.inj hB))
  noRecurse := by simpa using h.noRecurse

/-- The same command can be written any number of times, unless it is a row break or a
self-reference. -/
theorem writable_replicate {command : Command} (hbreak : command ≠ .breakRow)
    (hrecurse : command ≠ .recurse) (n : Nat) : Writable (List.replicate n (.command command)) := by
  induction n with
  | zero => exact writable_nil
  | succ n ih => exact ih.command hbreak hrecurse

end Slab
