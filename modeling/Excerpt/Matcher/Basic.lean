import Excerpt.Config.Basic
import Excerpt.Nesting
import Excerpt.Regex.Pattern

/-!
# Matchers

A grammar is a tree of matchers.  This file holds the tree, the names that its nodes go by in
messages (`Matcher.id`), and what can be said of a matcher without running it:

* `Matcher.canStartWith` : no match begins with a character that it rejects.
* `Matcher.requiredFront?` : a text that every match begins with, but for white space.
* `Matcher.skipsLeadingBlanks` : that text may have white space before it.
-/

namespace Excerpt

/-- A step of a sequence. -/
inductive Step (μ : Type) where
  /-- Matches, and binds the value to a name. -/
  | take (name : String) (matcher : μ)
  /-- Ends the match unless the fields bound so far are accepted. -/
  | veto (name : String) (accepts : Fields → Bool)
  /-- Binds a value computed from the fields bound so far. -/
  | alter (name : String) (value : Fields → Value)

/-- The name of a step. -/
def Step.name {μ : Type} : Step μ → String
  | take name _ => name
  | veto name _ => name
  | alter name _ => name

/-- A node of a grammar. -/
inductive Matcher where
  /-- Exactly a text. -/
  | literal (text : String)
  | pattern (p : Pattern)
  /-- Steps one after another; there is no going back. -/
  | sequence (id : String) (steps : List (Step Matcher)) (config : Config)
  /-- The first alternative that matches. -/
  | choice (alternatives : List Matcher)
  /-- Absent rather than failed where `inner` does not match; the value may be that of one field. -/
  | optional (inner : Matcher) (pulledUp : Option String)
  /-- As many elements as there are, at least `least`, with separators between them if there is a
  separator. -/
  | repetition (element : Matcher) (separator : Option Matcher) (least : Nat) (skipsBlanks : Bool)
  /-- Gives the match a field name. -/
  | named (name : String) (inner : Matcher)
  /-- Only matches that pass the test. -/
  | guarded (inner : Matcher) (test : Match → Bool)
  /-- Everything before the first place where the terminator matches. -/
  | upTo (terminator : Matcher)
  /-- Everything that is left. -/
  | remainder
  /-- An opening delimiter up to the closing one that balances it. -/
  | balanced (delimiters : Delimiters) (content : Content)
  /-- A rule, found by its place and its name among the rules in force. -/
  | reference (index : Nat) (name : String)
  /-- A matcher with rules of its own. -/
  | closed (inner : Matcher) (rules : List (String × Matcher))

/-- Rules by place, each with its name. -/
abbrev Rules := List (String × Matcher)

namespace Matcher

/-! ## Names -/

/-- The name of balanced delimiters: the delimiters, and the content rules unless they are the usual
ones. -/
def balancedId (d : Delimiters) (content : Content) : String :=
  let pair := String.ofList [d.opener, d.closer]
  match content with
  | .cFamily => "Balanced[" ++ pair ++ "]"
  | .plain => "Balanced[" ++ pair ++ ";plain]"
  | .custom name _ => "Balanced[" ++ pair ++ ";" ++ name ++ "]"

/-- The name of a repetition of named elements. -/
def repetitionId (element : String) (separator : Option String) (least : Nat) : String :=
  let count := if least = 0 then "" else toString least
  match separator with
  | none => "Rep" ++ count ++ "[" ++ element ++ "]"
  | some separator => "Rep" ++ count ++ "Sep[" ++ element ++ ";" ++ separator ++ "]"

mutual

/-- What a matcher is called in messages. -/
def id : Matcher → String
  | literal text => Text.quote text
  | pattern p => p.id
  | sequence id _ _ => id
  | choice alternatives => "Alt(" ++ ",".intercalate (ids alternatives) ++ ")"
  | optional inner _ => "Opt[" ++ inner.id ++ "]"
  | repetition element none least _ => repetitionId element.id none least
  | repetition element (some separator) least _ =>
    repetitionId element.id (some separator.id) least
  | named name _ => name
  | guarded inner _ => "When[" ++ inner.id ++ "]"
  | upTo terminator => "Break[" ++ terminator.id ++ "]"
  | remainder => "RestOfInput"
  | balanced delimiters content => balancedId delimiters content
  | reference _ name => name
  | closed inner _ => inner.id

/-- What matchers are called, in order. -/
def ids : List Matcher → List String
  | [] => []
  | m :: rest => m.id :: ids rest

end

/-! ## First characters -/

/-- The first character of a text, which no other character can replace. -/
def textStartsWith (text : Text) (ch : Char) : Bool :=
  match text with
  | [] => true
  | first :: _ => first == ch

mutual

/-- Whether a match can begin with a character. -/
def canStartWith : Matcher → Char → Bool
  | literal text, ch => textStartsWith text.toList ch
  | sequence _ steps config, ch =>
    (config.skipsBlanks && Text.isBlank ch) || firstCanStartWith steps ch
  | choice alternatives, ch => anyCanStartWith alternatives ch
  | repetition element _ least _, ch => least == 0 || element.canStartWith ch
  | named _ inner, ch => inner.canStartWith ch
  | guarded inner _, ch => inner.canStartWith ch
  | balanced delimiters _, ch => ch == delimiters.opener
  | closed inner _, ch => inner.canStartWith ch
  | _, _ => true

/-- Whether a match of the first matching step can begin with a character. -/
def firstCanStartWith : List (Step Matcher) → Char → Bool
  | [], _ => true
  | .take _ m :: _, ch => m.canStartWith ch
  | .veto .. :: rest, ch => firstCanStartWith rest ch
  | .alter .. :: rest, ch => firstCanStartWith rest ch

/-- Whether a match of one of some matchers can begin with a character. -/
def anyCanStartWith : List Matcher → Char → Bool
  | [], _ => false
  | m :: rest, ch => m.canStartWith ch || anyCanStartWith rest ch

end

/-! ## Required fronts -/

mutual

/-- A text that every match begins with, if there is one; white space may come before it. -/
def requiredFront? : Matcher → Option Text
  | literal text => some text.toList
  | sequence _ steps _ => firstRequiredFront? steps
  | repetition element _ least _ => if least = 0 then none else element.requiredFront?
  | named _ inner => inner.requiredFront?
  | guarded inner _ => inner.requiredFront?
  | balanced delimiters _ => some [delimiters.opener]
  | closed inner _ => inner.requiredFront?
  | _ => none

/-- The required front of the first matching step. -/
def firstRequiredFront? : List (Step Matcher) → Option Text
  | [] => none
  | .take _ m :: _ => m.requiredFront?
  | .veto .. :: rest => firstRequiredFront? rest
  | .alter .. :: rest => firstRequiredFront? rest

end

/-- Whether white space may come before the required front. -/
def skipsLeadingBlanks : Matcher → Bool
  | sequence _ _ config => config.skipsBlanks
  | repetition element _ least _ => least != 0 && element.skipsLeadingBlanks
  | named _ inner => inner.skipsLeadingBlanks
  | guarded inner _ => inner.skipsLeadingBlanks
  | closed inner _ => inner.skipsLeadingBlanks
  | _ => false

/-! ## Sequences -/

/-- The sequence behind names and closures: what it is called, its steps and its configuration. -/
def asSequence? : Matcher → Option (String × List (Step Matcher) × Config)
  | sequence id steps config => some (id, steps, config)
  | named _ inner => inner.asSequence?
  | closed inner _ => inner.asSequence?
  | _ => none

/-- The steps of the sequence behind names and closures. -/
def steps? (m : Matcher) : Option (List (Step Matcher)) :=
  m.asSequence?.map fun s => s.2.1

end Matcher

/-- Whether one of the steps binds a name; a veto binds nothing. -/
def Step.binds {μ : Type} (steps : List (Step μ)) (name : String) : Bool :=
  steps.any fun
    | .take n _ => n == name
    | .alter n _ => n == name
    | .veto .. => false

end Excerpt
