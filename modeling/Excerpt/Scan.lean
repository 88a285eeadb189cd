import Excerpt.Grammar

/-!
# Scanning

All matches of a grammar in a text, from left to right and without overlap.  A scan is a grammar and
a cursor; `Scan.next` finds the next match and moves behind it.

Attempts are made only where a match can begin.  If every match begins with a known text,
`Scan.candidate` jumps to the next place where it stands, or to the white space before it where that
belongs to the match; otherwise it passes over the characters that no match begins with.  Empty
matches are passed over.
-/

namespace Excerpt

/-- A scan of a text, as far as it has come. -/
structure Scan where
  grammar : Grammar
  cursor : Cursor

/-- Starts a scan. -/
def Grammar.scan (g : Grammar) (text : Text) : Scan := ⟨g, .start text⟩

namespace Scan

/-- The next place where a match can begin, or the end of the text. -/
def candidate (m : Matcher) (c : Cursor) : Cursor :=
  match m.requiredFront? with
  | some (first :: front) =>
    let (skipped, found) := c.skipTo (first :: front)
    if found.exhausted || !m.skipsLeadingBlanks then found
    else
      match c.consume (Text.trimEnd skipped) with
      | .ok atBlanks => atBlanks
      | .error _ => found
  | _ => (c.skipWhile (fun ahead => ahead.all fun ch => !m.canStartWith ch) 1).2

/-- What a scan does at a place. -/
inductive Advance where
  /-- The text is at its end. -/
  | finished
  /-- A match, and the place behind it. -/
  | found (m : Match) (next : Cursor)
  /-- No match, and the place of the next attempt. -/
  | missed (next : Cursor)

/-- One attempt at the next candidate; no answer where it has no outcome. -/
def advance (g : Grammar) (c : Cursor) : Option Advance :=
  let place := candidate g.matcher c
  if place.exhausted then some .finished
  else
    (g.attempt place).map fun
      | .success m =>
        if m.matched.isEmpty then .missed place.advance
        else
          match place.consume m.matched with
          | .ok next => .found m next
          | .error _ => .found m place.advance
      | _ => .missed place.advance

/-- The first match from a cursor on, with the place behind it; or the place where the scan ends
without one.  `fuel` is above the number of characters left: every attempt passes at least one.
There is no answer if it runs out. -/
def search (g : Grammar) : Nat → Cursor → Option (Option Match × Cursor)
  | 0, _ => none
  | fuel + 1, c =>
    match advance g c with
    | none => none
    | some .finished => some (none, candidate g.matcher c)
    | some (.found m next) => some (some m, next)
    | some (.missed next) => search g fuel next

/-- The next match and the scan behind it; without a match, the scan at the end of the text. -/
def next (s : Scan) : Option (Option Extracted × Scan) :=
  (search s.grammar (s.cursor.rest.length + 1) s.cursor).map fun (found, cursor) =>
    (found.map Extracted.ofMatch, { s with cursor := cursor })

/-- What is done with a match. -/
inductive Decision where
  | emit
  | skip
  /-- Keep the match, and end the scan. -/
  | emitAndStop
  | stop
  deriving DecidableEq, Repr

/-- The matches that `decide` keeps, up to the place where it ends the scan.  `fuel` is above the
number of characters left: every match covers at least one.  There is no answer if it runs out. -/
def collect (decide : Extracted → Decision) : Nat → Scan → Option (List Extracted)
  | 0, _ => none
  | fuel + 1, s =>
    match s.next with
    | none => none
    | some (none, _) => some []
    | some (some e, s) =>
      match decide e with
      | .emit => (collect decide fuel s).map (e :: ·)
      | .skip => collect decide fuel s
      | .emitAndStop => some [e]
      | .stop => some []

/-- The matches that `decide` keeps. -/
def filtered (s : Scan) (decide : Extracted → Decision) : Option (List Extracted) :=
  collect decide (s.cursor.rest.length + 1) s

/-- All matches. -/
def toList (s : Scan) : Option (List Extracted) := s.filtered fun _ => .emit

end Scan

namespace Grammar

/-- All matches in a text; no answer where an attempt has no outcome. -/
def findMatches (g : Grammar) (text : Text) : Option (List Extracted) := (g.scan text).toList

/-- The first match in a text. -/
def firstMatch (g : Grammar) (text : Text) : Option (Option Extracted) :=
  (g.scan text).next.map Prod.fst

end Grammar

end Excerpt
