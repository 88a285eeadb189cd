import Excerpt.Regex.CharSet
import Excerpt.Regex.Place

/-!
# Flags

How the elements of a regular expression are understood: what a flag letter sets (`Flags.set?`),
what the flags make of classes, dots and anchors, and which white space and comments they let stand
between elements (`Flags.skip`).
-/

namespace Excerpt.Regex

/-- How the elements of a pattern are understood. -/
structure Flags where
  ignoreCase : Bool
  /-- `^` and `$` hold at lines. -/
  multiLine : Bool
  /-- A dot stands for line feeds too. -/
  dotAll : Bool
  /-- White space and comments between elements are skipped. -/
  spaced : Bool
  /-- Repetitions are seldom rather than often by default. -/
  swapGreed : Bool
  /-- A carriage return ends a line too. -/
  crlf : Bool
  /-- Classes and case know ASCII only. -/
  asciiOnly : Bool
  deriving DecidableEq, Repr

namespace Flags

/-- No flag is set. -/
def none : Flags := ⟨false, false, false, false, false, false, false⟩

/-- Sets or clears the flag with the given letter. -/
def set? (f : Flags) (on : Bool) (letter : Char) : Option Flags :=
  if letter = 'i' then some { f with ignoreCase := on }
  else if letter = 'm' then some { f with multiLine := on }
  else if letter = 's' then some { f with dotAll := on }
  else if letter = 'x' then some { f with spaced := on }
  else if letter = 'U' then some { f with swapGreed := on }
  else if letter = 'R' then some { f with crlf := on }
  else if letter = 'u' then some { f with asciiOnly := !on }
  else Option.none

/-! ## White space and comments -/

/-- The text after white space and comments; a comment ends with its line. -/
def skipFree : Bool → Text → Text
  | _, [] => []
  | true, c :: rest => skipFree (c != '\n') rest
  | false, c :: rest =>
    if Text.isBlank c then skipFree false rest
    else if c = '#' then skipFree true rest
    else c :: rest

/-- Skips white space and comments if the flags say so. -/
def skip (f : Flags) (t : Text) : Text :=
  if f.spaced then skipFree false t else t

/-- The first character of a text that is not white space, but for the first number sign. -/
def peekFree : Bool → Text → Option Char
  | _, [] => Option.none
  | signSeen, c :: rest =>
    if Text.isBlank c then peekFree signSeen rest
    else if !signSeen && c = '#' then peekFree true rest
    else some c

/-- The character that decides whether a hyphen before the text stands for itself.  Free white space
is looked through, and so is the sign of a comment, but not the comment. -/
def peek (f : Flags) (t : Text) : Option Char :=
  if f.spaced then peekFree false t <|> t.head? else t.head?

/-! ## Sets and places -/

/-- A set closed under case variants if the flags say so. -/
def close (f : Flags) (s : CharSet) : CharSet :=
  if !f.ignoreCase then s else if f.asciiOnly then s.foldedAscii else s.folded

/-- The characters that `\b` and its relatives take for a word. -/
def wordSet (f : Flags) : CharSet := if f.asciiOnly then .asciiWord else .word

/-- The character set of a dot. -/
def dot (f : Flags) : CharSet :=
  if f.dotAll then .anything
  else if f.crlf then (CharSet.ofChars ['\n', '\r']).complement
  else (CharSet.single '\n').complement

/-- The place of `^`. -/
def caret (f : Flags) : Place :=
  if !f.multiLine then .textStart else if f.crlf then .lineStartCR else .lineStart

/-- The place of `$`. -/
def dollar (f : Flags) : Place :=
  if !f.multiLine then .textEnd else if f.crlf then .lineEndCR else .lineEnd

end Flags

end Excerpt.Regex
