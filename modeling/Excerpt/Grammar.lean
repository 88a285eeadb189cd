import Excerpt.Extracted
import Excerpt.Rules
import Excerpt.Template

/-!
# Grammars

A matcher ready for use, with its rules, its configuration and the definitions it was made from.
-/

namespace Excerpt

/-- A grammar. -/
structure Grammar where
  matcher : Matcher
  config : Config
  /-- The definitions that the matcher was made from, if any. -/
  definitions : Option Definitions
  rules : Rules

namespace Grammar

/-- The grammar of a matcher. -/
def ofMatcher (m : Matcher) : Grammar := ⟨m, .default, none, []⟩

/-- The grammar of definitions. -/
def ofDefinitions (d : Definitions) (config : Config) : Except GrammarError Grammar :=
  match d.compile? config with
  | .ok m => .ok ⟨m, config, some d, []⟩
  | .error error => .error (.ofKind error)

/-- The grammar of a template, with running names from `next` on; also answers the next running
number. -/
def ofTemplateFrom (next : Nat) (template : String) (components : Components) (config : Config) :
    Except GrammarError Grammar × Nat :=
  let (definitions, next) := Template.define components next template
  (definitions.bind fun d => ofDefinitions d config, next)

/-- The grammar of a template. -/
def ofTemplate (template : String) (components : Components) (config : Config) :
    Except GrammarError Grammar :=
  (ofTemplateFrom 0 template components config).1

/-- The grammar under other rules. -/
def withRules (g : Grammar) (rules : Rules) : Grammar := { g with rules := rules }

/-- The grammar as a part of another one: its references keep their rules. -/
def toMatcher (g : Grammar) : Matcher :=
  if g.rules.isEmpty then g.matcher else .closed g.matcher g.rules

/-- The outcome at a cursor, if there is one. -/
def attempt (g : Grammar) (c : Cursor) : Option Outcome := g.matcher.matchIn g.rules c

/-- Why a match is not the match of a whole text, if it is not. -/
def incomplete? (c : Cursor) (m : Match) : Option Failure :=
  if m.matched.isEmpty then some (.mk m.id 0 [] .matchedNothing)
  else
    let rest := c.rest.drop m.matched.length
    if rest.isEmpty then none
    else some (.mk m.id m.endOffset (m.context.getD []) (.trailingText rest))

/-- The match of a whole text, or why there is none; no answer where an attempt has no outcome. -/
def exactMatch (g : Grammar) (text : Text) : Option (Except Failure Extracted) :=
  let c := Cursor.start text
  (g.attempt c).map fun
    | .success m =>
      match incomplete? c m with
      | none => .ok (.ofMatch m)
      | some f => .error f
    | .failure f => .error f
    | .absent id offset => .error (.mk id offset [] .nothingMatched)

end Grammar

end Excerpt
