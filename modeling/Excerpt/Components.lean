import Excerpt.Matcher.Build

/-!
# Components

The named matchers that a template can refer to, sorted by name, and the ones that are always at
hand: identifiers, words, numbers, string literals, bracketed text and lines.
-/

namespace Excerpt

/-- Matchers by name, in the order of their names. -/
structure Components where
  entries : List (String × Matcher)

namespace Components

/-- No components. -/
def empty : Components := ⟨[]⟩

/-- The entries with a name bound, in the place that its spelling gives it. -/
def insertEntry (name : String) (m : Matcher) :
    List (String × Matcher) → List (String × Matcher)
  | [] => [(name, m)]
  | (other, old) :: rest =>
    if name = other then (name, m) :: rest
    else if name < other then (name, m) :: (other, old) :: rest
    else (other, old) :: insertEntry name m rest

/-- Adds a component, or replaces the one of that name. -/
def insert (c : Components) (name : String) (m : Matcher) : Components :=
  ⟨insertEntry name m c.entries⟩

/-- Adds components one after another. -/
def insertAll (c : Components) (pairs : List (String × Matcher)) : Components :=
  pairs.foldl (fun c pair => c.insert pair.1 pair.2) c

/-- The components of a list of pairs. -/
def ofList (pairs : List (String × Matcher)) : Components := empty.insertAll pairs

/-- The components of both, those of `other` where both have the name. -/
def merge (c other : Components) : Components := c.insertAll other.entries

/-- The component of a name. -/
def get? (c : Components) (name : String) : Option Matcher :=
  (c.entries.find? fun entry => entry.1 == name).map Prod.snd

/-- Whether there is a component of a name. -/
def contains (c : Components) (name : String) : Bool := (c.get? name).isSome

/-- The names, sorted. -/
def names (c : Components) : List String := c.entries.map Prod.fst

end Components

/-! ## Ready-made matchers -/

namespace Matcher

/-- The matcher of a pattern that is known to be one. -/
def ofSource (source : String) : Matcher :=
  match Pattern.compile source with
  | .ok p => .pattern p
  | .error _ => .choice []

/-- The matcher of a capture group of a pattern that is known to have it. -/
def ofGroup (source : String) (number : Nat) : Matcher :=
  match (Pattern.compile source).bind fun p => p.withGroup number with
  | .ok p => .pattern p
  | .error _ => .choice []

/-- A name such as `foo`, `_bar` or `$baz`. -/
def identifier : Matcher := ofSource "[a-zA-Z_$][a-zA-Z0-9_$]*"

/-- A run of ASCII letters and digits. -/
def asciiWord : Matcher := ofSource "[a-zA-Z0-9]+"

/-- A whole or decimal number, which may be negative. -/
def decimalNumber : Matcher := ofSource "-?[0-9]+(?:\\.[0-9]+)?"

/-- A string literal in double quotes.  The value is what stands between them, escapes and all. -/
def stringLiteral : Matcher := ofGroup "\"((?:[^\"\\\\\\n]|\\\\.)*)\"" 1

/-- An opening parenthesis up to the one that closes it. -/
def parenthesized : Matcher := .balanced .parens .cFamily

/-- An opening curly bracket up to the one that closes it. -/
def block : Matcher := .balanced .block .cFamily

/-- Everything before the end of the line. -/
def restOfLine : Matcher := ofSource "[^\n]*"

end Matcher

/-- The components that are always at hand. -/
def Components.builtin : Components :=
  .ofList
    [("identifier", Matcher.identifier), ("word", Matcher.asciiWord),
      ("number", Matcher.decimalNumber), ("string", Matcher.stringLiteral),
      ("parens", Matcher.parenthesized), ("block", Matcher.block),
      ("rest_of_line", Matcher.restOfLine)]

end Excerpt
