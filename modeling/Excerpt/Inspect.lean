import Excerpt.Grammar

/-!
# Inspection

One-line forms of grammars and their parts for the people who write them: a record is its name with
its fields in braces, a string is quoted, and a matcher shows what it is called.
-/

namespace Excerpt.Inspect

/-- A record: its name, and its fields in braces. -/
def record (name : String) (fields : List (String × String)) : String :=
  name ++ " \x7b " ++ ", ".intercalate (fields.map fun f => f.1 ++ ": " ++ f.2) ++ " \x7d"

/-- A list in brackets. -/
def list (items : List String) : String := "[" ++ ", ".intercalate items ++ "]"

/-- An optional part. -/
def option (part : Option String) : String :=
  match part with
  | some s => "Some(" ++ s ++ ")"
  | none => "None"

/-- A matcher. -/
def matcher (m : Matcher) : String := "Matcher(" ++ m.id ++ ")"

/-- A configuration. -/
def config (c : Config) : String :=
  record "Config"
    [("consume_white_space_between_tokens", if c.skipsBlanks then "true" else "false")]

/-- A step: its name, and what it matches or does. -/
def step : Step Matcher → String
  | .take name m => name ++ ": " ++ m.id
  | .veto name _ => name ++ ": <veto>"
  | .alter name _ => name ++ ": <alter>"

/-- A sequence. -/
def sequence (id : String) (steps : List (Step Matcher)) (c : Config) : String :=
  record "Concat"
    [("id", Text.quote id), ("steps", list (steps.map step)), ("config", config c)]

/-- Definitions: their names, without what they stand for. -/
def definitions (d : Definitions) : String :=
  record "Definitions"
    [("id", option (d.id.map Text.quote)), ("names", list (d.names.map Text.quote)),
      ("config", option (d.config.map config))]

/-- Rules by name, each with what its definition is called. -/
def rules (rs : Rules) : String :=
  "\x7b" ++
    ", ".intercalate (rs.map fun r => Text.quote r.1 ++ ": " ++ Text.quote r.2.id) ++ "\x7d"

/-- Rules that are being written. -/
def ruleBook (book : RuleBook) : String :=
  record "RulesBuilder"
    [("names", list (book.entries.map fun e => Text.quote e.1)),
      ("matchers", list (book.entries.map fun e => option (e.2.map matcher)))]

/-- A grammar. -/
def grammar (g : Grammar) : String :=
  record "Grammar"
    [("matcher", matcher g.matcher), ("config", config g.config), ("rules", rules g.rules)]

end Excerpt.Inspect
