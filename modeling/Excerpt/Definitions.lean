import Excerpt.Matcher.Build

/-!
# Definitions

The written form of a sequence: an ordered list of named terms, conditions and derived fields.  A
term is a matcher or definitions of its own, which become a sequence inside the sequence.
Definitions that carry no configuration take the one that is in force around them.

* `Definitions.extend` splices the entries of other definitions in at the same level.
* `Definitions.compile?` makes a sequence, the nested ones first.
-/

namespace Excerpt

/-- One line of definitions `δ`. -/
inductive Entry (δ : Type) where
  /-- Matches, and binds the value to a name. -/
  | matcher (name : String) (m : Matcher)
  /-- Matches the sequence of nested definitions, and binds its fields to a name. -/
  | nested (name : String) (definitions : δ)
  /-- Ends the match unless the fields bound so far are accepted. -/
  | veto (name : String) (accepts : Fields → Bool)
  /-- Binds a value computed from the fields bound so far. -/
  | alter (name : String) (value : Fields → Value)

/-- The name that an entry defines. -/
def Entry.name {δ : Type} : Entry δ → String
  | matcher name _ => name
  | nested name _ => name
  | veto name _ => name
  | alter name _ => name

/-- Definitions of a sequence. -/
structure Definitions where
  /-- The name of the sequence; otherwise it is named after its steps. -/
  id : Option String
  entries : List (Entry Definitions)
  /-- The configuration of the sequence; otherwise it is inherited. -/
  config : Option Config

namespace Definitions

/-- No definitions. -/
def empty : Definitions := ⟨none, [], none⟩

/-- The names defined, in order. -/
def names (d : Definitions) : List String := d.entries.map Entry.name

/-- Adds an entry at the end. -/
def add (d : Definitions) (entry : Entry Definitions) : Definitions :=
  { d with entries := d.entries ++ [entry] }

/-- Adds the entries of other definitions, so that their fields appear at this level.  Their name
and configuration are left behind. -/
def extend (d other : Definitions) : Definitions :=
  { d with entries := d.entries ++ other.entries }

end Definitions

mutual

/-- The sequence that definitions describe, inside the configuration `inherited`. -/
def Definitions.compile? : Definitions → Config → Except ErrorKind Matcher
  | ⟨id, entries, config⟩, inherited =>
    let config := config.getD inherited
    match compileEntries? entries config with
    | .error error => .error error
    | .ok steps => Matcher.sequence? id steps config

/-- The steps that entries describe; the first nested definitions that do not compile are
reported. -/
def compileEntries? : List (Entry Definitions) → Config → Except ErrorKind (List (Step Matcher))
  | [], _ => .ok []
  | .matcher name m :: rest, config =>
    (compileEntries? rest config).map (Step.take name m :: ·)
  | .nested name definitions :: rest, config =>
    match definitions.compile? config with
    | .error error => .error error
    | .ok m => (compileEntries? rest config).map (Step.take name m :: ·)
  | .veto name accepts :: rest, config =>
    (compileEntries? rest config).map (Step.veto name accepts :: ·)
  | .alter name value :: rest, config =>
    (compileEntries? rest config).map (Step.alter name value :: ·)

end

end Excerpt
