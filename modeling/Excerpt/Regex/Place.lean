import Excerpt.Regex.CharSet

/-!
# Places in a text

A place stands between two characters (`Spot`), and a regular expression can ask for a condition on
it (`Place`): the start or the end of the text, of a line or of a word.
-/

namespace Excerpt.Regex

/-- A place in a text, with what stands on either side. -/
structure Spot where
  /-- The number of characters before the place. -/
  position : Nat
  /-- The character before the place. -/
  previous : Option Char
  /-- The text behind the place. -/
  rest : Text

/-- The start of a text. -/
def Spot.start (text : Text) : Spot := ⟨0, none, text⟩

/-- A condition on a place in a text. -/
inductive Place where
  | textStart
  | textEnd
  /-- The start of the text, or after a line feed. -/
  | lineStart
  /-- The end of the text, or before a line feed. -/
  | lineEnd
  /-- Like `lineStart`, where a carriage return ends a line too. -/
  | lineStartCR
  /-- Like `lineEnd`, where a carriage return ends a line too. -/
  | lineEndCR
  /-- Between a character of the set and none. -/
  | boundary (members : CharSet)
  | noBoundary (members : CharSet)
  | wordStart (members : CharSet)
  | wordEnd (members : CharSet)
  /-- No character of the set before. -/
  | wordStartHalf (members : CharSet)
  /-- No character of the set after. -/
  | wordEndHalf (members : CharSet)
  deriving DecidableEq, Repr

/-- Whether a place has a character of the set before it. -/
def Spot.memberBefore (set : CharSet) (s : Spot) : Bool := s.previous.any set.holds

/-- Whether a place has a character of the set after it. -/
def Spot.memberAfter (set : CharSet) (s : Spot) : Bool := s.rest.head?.any set.holds

/-- Whether a condition holds of a place. -/
def Place.holds : Place → Spot → Bool
  | textStart, s => s.previous.isNone
  | textEnd, s => s.rest.isEmpty
  | lineStart, s => s.previous.isNone || s.previous == some '\n'
  | lineEnd, s => s.rest.isEmpty || s.rest.head? == some '\n'
  | lineStartCR, s =>
    s.previous.isNone || s.previous == some '\n' ||
      (s.previous == some '\r' && s.rest.head? != some '\n')
  | lineEndCR, s =>
    s.rest.isEmpty || s.rest.head? == some '\r' ||
      (s.rest.head? == some '\n' && s.previous != some '\r')
  | boundary members, s => s.memberBefore members != s.memberAfter members
  | noBoundary members, s => s.memberBefore members == s.memberAfter members
  | wordStart members, s => !s.memberBefore members && s.memberAfter members
  | wordEnd members, s => s.memberBefore members && !s.memberAfter members
  | wordStartHalf members, s => !s.memberBefore members
  | wordEndHalf members, s => !s.memberAfter members

end Excerpt.Regex
