/-!
# Faults of regular expressions

Why a text is no regular expression.
-/

namespace Excerpt.Regex

/-- What makes a text no regular expression. -/
inductive Fault where
  | unclosedGroup
  | unopenedGroup
  | badGroupName
  | repeatedGroupName
  | lookAround
  | backReference
  | nothingToRepeat
  | badCount
  | reversedCount
  | unclosedClass
  | reversedRange
  | notInClass
  | danglingBackslash
  | unknownEscape
  | badCharacterNumber
  | badBoundary
  | unknownClass
  | unknownFlag
  | repeatedFlag
  | danglingNegation
  | notText
  | beyondAscii
  | tooDeep
  deriving DecidableEq, Repr

/-- A fault in words. -/
def Fault.message : Fault → String
  | unclosedGroup => "unclosed group"
  | unopenedGroup => "unopened group"
  | badGroupName => "invalid capture group name"
  | repeatedGroupName => "duplicate capture group name"
  | lookAround => "look-around is not supported"
  | backReference => "backreferences are not supported"
  | nothingToRepeat => "repetition operator missing expression"
  | badCount => "invalid repetition count"
  | reversedCount => "the start of a repetition count must not be above its end"
  | unclosedClass => "unclosed character class"
  | reversedRange => "the start of a character range must not be above its end"
  | notInClass => "invalid escape sequence in a character class"
  | danglingBackslash => "incomplete escape sequence, end of pattern reached"
  | unknownEscape => "unrecognized escape sequence"
  | badCharacterNumber => "invalid hexadecimal character number"
  | badBoundary => "unrecognized or unclosed word boundary"
  | unknownClass => "unknown character class"
  | unknownFlag => "unrecognized flag"
  | repeatedFlag => "duplicate flag"
  | danglingNegation => "dangling flag negation operator"
  | notText => "the pattern can match what is not text"
  | beyondAscii => "a character class of bytes holds a character beyond ASCII"
  | tooDeep => "the pattern is nested too deeply"

end Excerpt.Regex
