import Slab.Command

/-!
# Lexemes

The letter `B` has two readings: alone it ends a row, doubled it ends a nested program. `lexemes`
cuts a program into units in which that is settled: from the left, two adjacent `B`s are always
one unit. The equations `lexemes_nil`, `lexemes_pair` and `lexemes_cons` say how.
-/

namespace Slab

/-- A unit of a program. -/
inductive Lexeme
  /-- `BB`: end the nested program. -/
  | close
  /-- A command of one letter; a row break here is one that does not pair. -/
  | command (command : Command)
  /-- A character that means nothing. -/
  | noise (char : Char)
deriving DecidableEq, Repr

/-- The unit that a character is on its own. -/
def Lexeme.ofChar (c : Char) : Lexeme :=
  match Command.ofChar? c with
  | some letter => .command letter
  | none => .noise c

/-- The units of a program after those already found, which come newest first. -/
def lexemesAfter (found : List Lexeme) : List Char → List Lexeme
  | [] => found.reverse
  | 'B' :: 'B' :: rest => lexemesAfter (.close :: found) rest
  | c :: rest => lexemesAfter (.ofChar c :: found) rest

/-- The units of a program in order. -/
def lexemes (program : List Char) : List Lexeme :=
  lexemesAfter [] program

/-! ### Equations -/

/-- Units found earlier come first and have no say in what is found later. -/
theorem lexemesAfter_append (found older : List Lexeme) (program : List Char) :
    lexemesAfter (found ++ older) program = older.reverse ++ lexemesAfter found program := by
  fun_induction lexemesAfter found program with
  | case1 found => simp [lexemesAfter]
  | case2 found rest ih => simpa [lexemesAfter] using ih
  | case3 found c rest h ih =>
    rw [lexemesAfter]
    · exact ih
    · exact h

/-- What was found comes before the units of the program. -/
theorem lexemesAfter_eq (found : List Lexeme) (program : List Char) :
    lexemesAfter found program = found.reverse ++ lexemes program := by
  simpa [lexemes] using lexemesAfter_append [] found program

/-- The empty program has no units. -/
@[simp] theorem lexemes_nil : lexemes [] = [] := rfl

/-- Two adjacent `B`s at the front are one unit. -/
@[simp] theorem lexemes_pair (rest : List Char) :
    lexemes ('B' :: 'B' :: rest) = .close :: lexemes rest := by
  rw [lexemes, lexemesAfter, lexemesAfter_eq]
  rfl

/-- Any other character at the front is a unit of its own. -/
theorem lexemes_cons {c : Char} {rest : List Char} (h : ∀ rest', c = 'B' → rest = 'B' :: rest' → False) :
    lexemes (c :: rest) = .ofChar c :: lexemes rest := by
  rw [lexemes, lexemesAfter, lexemesAfter_eq]
  · rfl
  · exact h

end Slab
