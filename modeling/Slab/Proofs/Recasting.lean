import Slab.Compile
import Slab.Proofs.Copies
import Slab.Proofs.Cutting

/-!
# Other letters

A text is recast by putting the letter of another command for that of a command, the same one
wherever it occurs. As long as nothing else becomes a `B`, the text is cut as before
(`lexemes_recast`). As long as this is also true of the other letters that expansion looks at, the
expansion of the recast text is the recast expansion (`expand_recast`): it takes the same rounds, as
all letters are equally long.
-/

namespace Slab

/-- A character with its command changed. A character that is no command is kept. -/
def recast (change : Command → Command) (c : Char) : Char :=
  match Command.ofChar? c with
  | some command => (change command).letter
  | none => c

/-- A unit with its command changed. -/
def Lexeme.recast (change : Command → Command) : Lexeme → Lexeme
  | .command letter => .command (change letter)
  | unit => unit

/-- The change leaves the command as it is and makes it of no other. -/
def Command.KeptBy (command : Command) (change : Command → Command) : Prop :=
  ∀ other, change other = command ↔ other = command

variable {change : Command → Command}

/-! ### Characters and units -/

/-- The command of a recast character is the changed one. -/
theorem ofChar?_recast (change : Command → Command) (c : Char) :
    Command.ofChar? (recast change c) = (Command.ofChar? c).map change := by
  unfold recast
  rcases h : Command.ofChar? c with _ | command
  · exact h
  · exact Command.ofChar?_letter _

/-- Changing commands twice is changing them once. -/
theorem recast_recast (outer inner : Command → Command) (c : Char) :
    recast outer (recast inner c) = recast (fun command => outer (inner command)) c := by
  rw [recast, ofChar?_recast]
  unfold recast
  rcases h : Command.ofChar? c with _ | command
  · rfl
  · rfl

/-- The unit of a recast character is the recast unit. -/
theorem Lexeme.ofChar_recast (change : Command → Command) (c : Char) :
    Lexeme.ofChar (Slab.recast change c) = (Lexeme.ofChar c).recast change := by
  rcases h : Command.ofChar? c with _ | command
  · have hrecast : Slab.recast change c = c := by rw [Slab.recast, h]
    rw [hrecast, Lexeme.ofChar, h]
    rfl
  · rw [Lexeme.ofChar, ofChar?_recast, Lexeme.ofChar, h]
    rfl

/-- The letter of a kept command comes from itself and from no other character. -/
theorem recast_eq_letter_iff {command : Command} (h : command.KeptBy change) {c : Char} :
    recast change c = command.letter ↔ c = command.letter := by
  rw [← Command.ofChar?_eq_some_iff, ← Command.ofChar?_eq_some_iff, ofChar?_recast,
    Option.map_eq_some_iff]
  constructor
  · rintro ⟨other, hother, hchange⟩
    rw [hother, (h other).mp hchange]
  · intro hc
    exact ⟨command, hc, (h command).mpr rfl⟩

/-- The letter of a kept command is kept. -/
theorem recast_letter {command : Command} (h : command.KeptBy change) :
    recast change command.letter = command.letter :=
  (recast_eq_letter_iff h).mpr rfl

/-- A recast text is cut as before. -/
theorem lexemes_recast (h : Command.breakRow.KeptBy change) (text : List Char) :
    lexemes (text.map (recast change)) = (lexemes text).map (Lexeme.recast change) := by
  have hB : ∀ c, recast change c = 'B' ↔ c = 'B' := fun c => recast_eq_letter_iff h
  induction text using unit_induction with
  | nil => rfl
  | pair rest ih =>
      rw [List.map_cons, List.map_cons, (hB 'B').mpr rfl, lexemes_pair, lexemes_pair, ih,
        List.map_cons]
      rfl
  | single c rest hpair ih =>
      have hrecast : recast change c = 'B' → (rest.map (recast change)).head? ≠ some 'B' := by
        intro hc hhead
        rw [List.head?_map, Option.map_eq_some_iff] at hhead
        obtain ⟨d, hd, hdB⟩ := hhead
        rw [(hB d).mp hdB] at hd
        exact hpair ((hB c).mp hc) hd
      rw [List.map_cons, lexemes_single hrecast, lexemes_single hpair, ih, List.map_cons,
        Lexeme.ofChar_recast]

/-! ### Lengths and counts -/

/-- All letters are one byte long. -/
@[simp] theorem Command.utf8Size_letter (command : Command) : command.letter.utf8Size = 1 := by
  cases command with
  | hue hue => cases hue <;> rfl
  | _ => rfl

/-- A recast character is as long as before. -/
theorem utf8Size_recast (change : Command → Command) (c : Char) :
    (recast change c).utf8Size = c.utf8Size := by
  unfold recast
  rcases h : Command.ofChar? c with _ | command
  · rfl
  · rw [Command.eq_letter_of_ofChar? h, Command.utf8Size_letter, Command.utf8Size_letter]

/-- A recast text is as long as before. -/
theorem byteLength_recast (change : Command → Command) (text : List Char) :
    byteLength (text.map (recast change)) = byteLength text := by
  induction text with
  | nil => rfl
  | cons c text ih =>
      rw [List.map_cons, byteLength_cons, byteLength_cons, utf8Size_recast, ih]

/-- A kept command occurs as often as before. -/
theorem count_recast {command : Command} (h : command.KeptBy change) (text : List Char) :
    (text.map (recast change)).count command.letter = text.count command.letter := by
  unfold List.count
  rw [List.countP_map]
  apply List.countP_congr
  intro c _
  simp only [Function.comp_apply, beq_iff_eq]
  exact recast_eq_letter_iff h

/-! ### Expansion -/

/-- The change keeps the commands that cutting and expanding look at. -/
structure KeepsStructure (change : Command → Command) : Prop where
  /-- The row break is kept. -/
  breakRow : Command.breakRow.KeptBy change
  /-- The beginning of a nested program is kept. -/
  nest : Command.nest.KeptBy change
  /-- The raise is kept. -/
  raise : Command.raise.KeptBy change
  /-- The self-reference is kept. -/
  recurse : Command.recurse.KeptBy change

/-- Self-references are replaced before or after recasting. -/
theorem substitute_recast (h : Command.recurse.KeptBy change) (replacement text : List Char) :
    substitute (replacement.map (recast change)) (text.map (recast change)) =
      (substitute replacement text).map (recast change) := by
  induction text with
  | nil => rfl
  | cons c text ih =>
      by_cases hc : c = 'i'
      · subst hc
        have hi : recast change 'i' = 'i' := recast_letter h
        rw [List.map_cons, hi, substitute_recurse, substitute_recurse, ih, List.map_append]
      · have hi : recast change c ≠ 'i' := fun heq => hc ((recast_eq_letter_iff h).mp heq)
        rw [List.map_cons, substitute_cons_of_ne hi, substitute_cons_of_ne hc, ih, List.map_cons]

/-- The nested copy of a recast program is the recast copy. -/
theorem nestedCopy_recast (h : KeepsStructure change) (program : List Char) :
    nestedCopy (program.map (recast change)) = (nestedCopy program).map (recast change) := by
  unfold nestedCopy
  rw [count_recast h.nest, List.map_cons, List.map_append, List.map_replicate,
    recast_letter h.nest, recast_letter h.breakRow]

/-- The rounds of expansion are taken before or after recasting. -/
theorem expandFrom_recast (h : Command.recurse.KeptBy change) (replacement : List Char)
    (budget rounds : Nat) (text : List Char) :
    expandFrom (replacement.map (recast change)) budget rounds (text.map (recast change)) =
      ((expandFrom replacement budget rounds text).1.map (recast change),
        (expandFrom replacement budget rounds text).2) := by
  fun_induction expandFrom replacement budget rounds text with
  | case1 rounds text hmore ih =>
      rw [expandFrom, substitute_recast h, byteLength_recast, byteLength_recast, if_pos hmore, ih]
  | case2 rounds text hdone =>
      rw [expandFrom, substitute_recast h, byteLength_recast, byteLength_recast, if_neg hdone]

/-- The expansion of a recast program is the recast expansion, in as many rounds. -/
theorem expand_recast (h : KeepsStructure change) (program : List Char) :
    expand (program.map (recast change)) =
      { expand program with program := (expand program).program.map (recast change) } := by
  have hbudget : budgetFor (program.map (recast change)) = budgetFor program := by
    unfold budgetFor
    rw [count_recast h.raise]
  rw [expand, nestedCopy_recast h, hbudget]
  dsimp only
  rw [expandFrom_recast h.recurse, expand]

/-- A recast program refers to itself if the program does. -/
theorem isRecursive_recast (h : Command.recurse.KeptBy change) (program : List Char) :
    isRecursive (program.map (recast change)) = isRecursive program := by
  rw [Bool.eq_iff_iff, isRecursive, isRecursive, List.contains_iff_mem, List.contains_iff_mem,
    List.mem_map]
  constructor
  · rintro ⟨c, hc, heq⟩
    rwa [← (recast_eq_letter_iff h).mp heq]
  · intro hmem
    exact ⟨_, hmem, recast_letter h⟩

/-- Programs are prepared for scanning before or after recasting. -/
theorem prepare_recast (h : KeepsStructure change) (options : CompileOptions)
    (program : List Char) :
    options.prepare (program.map (recast change)) =
      (options.prepare program).map (recast change) := by
  unfold CompileOptions.prepare
  rw [isRecursive_recast h.recurse, expand_recast h]
  split <;> rfl

end Slab
