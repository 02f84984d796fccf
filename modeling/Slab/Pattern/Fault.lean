/-!
# What can be wrong with the text of a pattern

A fault has a cause and the extent of the text that it concerns. `Flaw` is a fault, or one of the
two things that are wrong with no part of a text in particular: the pattern is too large, or it
asks for word boundaries among all characters, which needs tables that are not kept here.
-/

namespace Slab.Pattern

/-- The part of a text from one place up to another, as numbers of characters before them. -/
structure Extent where
  /-- The characters before the part. -/
  start : Nat
  /-- The characters up to the end of the part. -/
  stop : Nat
deriving DecidableEq, Repr

/-- What can be wrong. -/
inductive Cause
  /-- An escape stands for no character where a set is described. -/
  | escapeInSet
  /-- The first character of a range comes after the last. -/
  | reversedRange
  /-- The end of a range is not a character. -/
  | badRangeEnd
  /-- A set is not closed. -/
  | openSet
  /-- A count has no digits. -/
  | emptyCount
  /-- A count is too large. -/
  | hugeCount
  /-- The first count of a repetition is above the second. -/
  | reversedCounts
  /-- The counts of a repetition are not closed. -/
  | openCounts
  /-- There is nothing to repeat. -/
  | nothingToRepeat
  /-- A number in braces has no digits. -/
  | emptyNumber
  /-- A number stands for no character. -/
  | noSuchCharacter
  /-- A digit is not hexadecimal. -/
  | badDigit
  /-- An escape ends with the text. -/
  | openEscape
  /-- There is no such escape. -/
  | unknownEscape
  /-- An escape refers to a group. -/
  | backreference
  /-- A property has no name. -/
  | badProperty
  /-- A minus turns no flag off. -/
  | danglingMinus
  /-- A flag is given twice. -/
  | repeatedFlag
  /-- The flags have two minuses. -/
  | repeatedMinus
  /-- The flags end with the text. -/
  | openFlags
  /-- There is no such flag. -/
  | unknownFlag
  /-- The name of a group is taken. -/
  | repeatedName
  /-- The name of a group is empty. -/
  | emptyName
  /-- A character cannot be part of a name. -/
  | badName
  /-- The name of a group is not closed. -/
  | openName
  /-- A group is not closed. -/
  | openGroup
  /-- There is no group to close. -/
  | strayClose
  /-- A group looks ahead or back. -/
  | lookAround
  /-- The kind of a word boundary is not closed. -/
  | openBoundary
  /-- There is no such kind of word boundary. -/
  | unknownBoundary
  /-- Something is nested too deep. -/
  | tooDeep
  /-- The text ends in a brace after a word boundary. -/
  | openBoundaryOrCounts
  /-- A character beyond ASCII is used where bytes are described. -/
  | beyondAscii
  /-- The pattern might match a part of a character. -/
  | splitsCharacters
  /-- There is no such property. -/
  | unknownProperty
  /-- There is no such category of characters. -/
  | unknownCategory
  /-- The classes of digits, blanks and words of all characters are not known. -/
  | unknownClass
  /-- The cases of all characters are not known. -/
  | unknownCases
deriving DecidableEq, Repr

/-- The sentence for a cause. -/
def Cause.message : Cause → String
  | .escapeInSet => "invalid escape sequence found in character class"
  | .reversedRange => "invalid character class range, the start must be <= the end"
  | .badRangeEnd => "invalid range boundary, must be a literal"
  | .openSet => "unclosed character class"
  | .emptyCount => "repetition quantifier expects a valid decimal"
  | .hugeCount => "decimal literal invalid"
  | .reversedCounts => "invalid repetition count range, the start must be <= the end"
  | .openCounts => "unclosed counted repetition"
  | .nothingToRepeat => "repetition operator missing expression"
  | .emptyNumber => "hexadecimal literal empty"
  | .noSuchCharacter => "hexadecimal literal is not a Unicode scalar value"
  | .badDigit => "invalid hexadecimal digit"
  | .openEscape => "incomplete escape sequence, reached end of pattern prematurely"
  | .unknownEscape => "unrecognized escape sequence"
  | .backreference => "backreferences are not supported"
  | .badProperty => "invalid Unicode character class"
  | .danglingMinus => "dangling flag negation operator"
  | .repeatedFlag => "duplicate flag"
  | .repeatedMinus => "flag negation operator repeated"
  | .openFlags => "expected flag but got end of regex"
  | .unknownFlag => "unrecognized flag"
  | .repeatedName => "duplicate capture group name"
  | .emptyName => "empty capture group name"
  | .badName => "invalid capture group character"
  | .openName => "unclosed capture group name"
  | .openGroup => "unclosed group"
  | .strayClose => "unopened group"
  | .lookAround => "look-around, including look-ahead and look-behind, is not supported"
  | .openBoundary =>
    "special word boundary assertion is either unclosed or contains an invalid character"
  | .unknownBoundary =>
    "unrecognized special word boundary assertion, valid choices are: " ++
      "start, end, start-half or end-half"
  | .openBoundaryOrCounts =>
    "found either the beginning of a special word boundary or a bounded repetition on a \\b " ++
      "with an opening brace, but no closing brace"
  | .tooDeep => "exceed the maximum number of nested parentheses/brackets (250)"
  | .beyondAscii => "Unicode not allowed here"
  | .splitsCharacters => "pattern can match invalid UTF-8"
  | .unknownProperty => "Unicode property not found"
  | .unknownCategory => "Unicode property value not found"
  | .unknownClass =>
    "Unicode-aware Perl class not found (make sure the unicode-perl feature is enabled)"
  | .unknownCases =>
    "Unicode-aware case insensitivity matching is not available " ++
      "(make sure the unicode-case feature is enabled)"

/-- A fault in the text of a pattern. -/
structure Fault where
  /-- What is wrong. -/
  cause : Cause
  /-- Where it is wrong. -/
  extent : Extent
  /-- The part of the text that it repeats, if it repeats one. -/
  earlier : Option Extent := none
deriving DecidableEq, Repr

/-- Why a text denotes no pattern. -/
inductive Flaw
  /-- There is a fault in the text. -/
  | inText (fault : Fault)
  /-- The pattern is too large. -/
  | tooLarge
  /-- The pattern asks for word boundaries among all characters. -/
  | unknownWords
deriving DecidableEq, Repr

end Slab.Pattern
