import Excerpt.Matcher.Attempt

/-!
# Building matchers

The constructions that can go wrong: a sequence, whose step names must be usable as field names and
differ from one another, and an optional matcher that answers one field of the sequence inside it.
The short forms at the end cannot go wrong.
-/

namespace Excerpt

/-! ## Step names -/

/-- A character of a step name. -/
def isStepChar (c : Char) : Bool := c.isAlphanum || c == '_'

/-- A step name must be usable as a field name and as a part of a path. -/
def validateStepName (name : String) : Except ErrorKind Unit :=
  if name.isEmpty then .error (.invalidStep name "step name is empty")
  else if name.toList.all isStepChar then .ok ()
  else
    .error (.invalidStep name "step names may only contain ASCII letters, digits and '_'")

/-- Step names must be valid and differ; the first offender in order is reported.  `seen` holds the
names before. -/
def validateStepNames (owner : String) (seen : List String) : List String → Except ErrorKind Unit
  | [] => .ok ()
  | name :: rest =>
    match validateStepName name with
    | .error error => .error error
    | .ok () =>
      if seen.contains name then .error (.duplicateStep name owner)
      else validateStepNames owner (name :: seen) rest

namespace Matcher

/-- The name of a sequence that is given none: the names of its steps. -/
def defaultSequenceId (names : List String) : String :=
  "Concat\x7b" ++ ",".intercalate names ++ "\x7d"

/-- A sequence of steps with valid and different names. -/
def sequence? (id : Option String) (steps : List (Step Matcher)) (config : Config) :
    Except ErrorKind Matcher :=
  let names := steps.map Step.name
  match validateStepNames (id.getD "sequence") [] names with
  | .error error => .error error
  | .ok () => .ok (.sequence (id.getD (defaultSequenceId names)) steps config)

/-- Whether a field can be pulled up from a matcher: it is a sequence that binds the field.  Rules
are not known yet, so a reference passes. -/
def canPullUp (inner : Matcher) (field : String) : Bool :=
  match inner with
  | reference _ _ => true
  | _ => inner.steps?.any fun steps => Step.binds steps field

/-- An optional matcher whose value is a field of the sequence inside it. -/
def optionalField? (inner : Matcher) (field : String) : Except ErrorKind Matcher :=
  if inner.canPullUp field then .ok (.optional inner (some field))
  else .error (.invalidPullUp field inner.id)

/-! ## Short forms -/

/-- Any number of elements. -/
def many (element : Matcher) : Matcher := .repetition element none 0 true

/-- The same repetition, with or without white space between its parts. -/
def skippingBlanks (m : Matcher) (skipsBlanks : Bool) : Matcher :=
  match m with
  | repetition element separator least _ => .repetition element separator least skipsBlanks
  | m => m

end Matcher

end Excerpt
