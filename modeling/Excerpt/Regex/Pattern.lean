import Excerpt.Cursor
import Excerpt.Match
import Excerpt.Regex.Parser
import Excerpt.Regex.Search
import Excerpt.Regex.Size

/-!
# Patterns

A regular expression in use: its text, its meaning, and the capture group whose text is its value.
A pattern matches at the cursor or not at all, and it sees only the text from there on.
-/

namespace Excerpt

/-- A regular expression that matches at a cursor. -/
structure Pattern where
  /-- The expression as its author wrote it. -/
  source : String
  program : Regex.Program
  /-- The highest number of a capture group. -/
  groupCount : Nat
  /-- The capture group that gives the value; the whole match if there is none. -/
  group : Option Nat

namespace Pattern

/-- The error of a text that is no regular expression. -/
def fault (source : String) (f : Regex.Fault) : GrammarError :=
  .ofKind (.invalidRegex source ("regex parse error:\n    " ++ source ++ "\nerror: " ++ f.message))

/-- The error of an expression that is too large. -/
def sizeFault (source : String) : GrammarError :=
  .ofKind
    (.invalidRegex source s!"Compiled regex exceeds size limit of {Regex.Room.limit} bytes.")

/-- The pattern of an expression that has been read. -/
def ofExpr (source : String) (expr : Regex.Expr) : Except GrammarError Pattern :=
  if expr.isTooLarge then .error (sizeFault source)
  else .ok ⟨source, expr.program, expr.groupCount, none⟩

/-- The text of a pattern with the anchor around it. -/
def anchored (source : Text) : Text := ['^', '(', '?', ':'] ++ source ++ [')']

/-- A pattern from its text.  The text is read with an anchor written around it. -/
def compile (source : String) : Except GrammarError Pattern :=
  match Regex.parse .none (anchored source.toList) with
  | .ok expr => ofExpr source expr
  | .error f => .error (fault source f)

/-- A pattern from an expression that is read as it stands, under the given flags. -/
def compileBare (flags : Regex.Flags) (source : String) : Except GrammarError Pattern :=
  match Regex.parse flags source.toList with
  | .ok expr => ofExpr source expr
  | .error f => .error (fault source f)

/-- The pattern with the value of a capture group, which it must have; group 0 is the whole
match. -/
def withGroup (p : Pattern) (number : Nat) : Except GrammarError Pattern :=
  if number ≤ p.groupCount then .ok { p with group := some number }
  else .error (.ofKind (.invalidRegex p.source s!"no capture group {number}"))

/-- Who matches. -/
def id (p : Pattern) : String := "/" ++ p.source ++ "/"

/-- The text that the pattern covers at the front of a text, and its value. -/
def front? (p : Pattern) (text : Text) : Option (Text × Text) :=
  (p.program.matchFront? text).map fun found =>
    let matched := text.take found.length
    match p.group with
    | none | some 0 => (matched, matched)
    | some number => (matched, found.group text number)

/-- The outcome at a cursor. -/
def attempt (p : Pattern) (c : Cursor) : Outcome :=
  match p.front? c.rest with
  | some (matched, value) => .success (.leaf p.id matched c.offset (.string (String.ofList value)))
  | none => .fail p.id c.offset .unstated

end Pattern

end Excerpt
