/-!
# Errors

Everything that can be wrong with a grammar, with the words in which it is reported.  `ErrorKind`
lists the causes; `ErrorKind.message`, `ErrorKind.help` and `ErrorKind.label` word them;
`GrammarError` adds the place in a source text, where there is one to point at.
-/

namespace Excerpt

/-- What went wrong. -/
inductive ErrorKind where
  /-- A step name that cannot be a field name. -/
  | invalidStep (step reason : String)
  /-- Two steps of one sequence with the same name. -/
  | duplicateStep (step matcher : String)
  /-- A pattern that is no regular expression, or a capture group that it does not have. -/
  | invalidRegex (pattern reason : String)
  /-- A template placeholder for which no component was supplied. -/
  | unresolvedPlaceholder (name : String)
  /-- A template with an opening that is no placeholder. -/
  | malformedTemplate (template : String)
  /-- A field to pull up that the wrapped matcher does not bind. -/
  | invalidPullUp (field matcher : String)
  /-- A rule that was named but has no definition. -/
  | undefinedRule (name : String)
  /-- A second definition of a rule. -/
  | duplicateRule (name : String)
  /-- Text taken at a place where it does not stand. -/
  | cursorPrecondition (expected : String) (offset : Nat)
  /-- A file that cannot be read, or output that cannot be written. -/
  | io (path reason : String)
  deriving DecidableEq, Repr

/-- Who has to act on an error: the author of a grammar, the author of this library, or the owner
of the files. -/
inductive ErrorCategory where
  | construction
  | internal
  | io
  deriving DecidableEq, Repr

namespace ErrorKind

/-- The category of a cause. -/
def category : ErrorKind → ErrorCategory
  | cursorPrecondition .. => .internal
  | io .. => .io
  | _ => .construction

/-- The short name of a cause. -/
def suffix : ErrorKind → String
  | invalidStep .. => "invalid_step"
  | duplicateStep .. => "duplicate_step"
  | invalidRegex .. => "invalid_regex"
  | unresolvedPlaceholder .. => "unresolved_placeholder"
  | malformedTemplate .. => "malformed_template"
  | invalidPullUp .. => "invalid_pull_up"
  | undefinedRule .. => "undefined_rule"
  | duplicateRule .. => "duplicate_rule"
  | cursorPrecondition .. => "cursor_precondition"
  | io .. => "io"

/-- The cause in one sentence. -/
def message : ErrorKind → String
  | invalidStep step reason => s!"invalid step '{step}': {reason}"
  | duplicateStep step matcher => s!"duplicate step '{step}' in {matcher}"
  | invalidRegex pattern reason => s!"invalid regular expression /{pattern}/: {reason}"
  | unresolvedPlaceholder name => s!"no definition found for placeholder '{name}'"
  | malformedTemplate template => s!"unable to parse microgrammar template: {template}"
  | invalidPullUp field matcher => s!"cannot pull up field '{field}' from {matcher}"
  | undefinedRule name => s!"rule '{name}' was declared but never defined"
  | duplicateRule name => s!"rule '{name}' is defined more than once"
  | cursorPrecondition expected offset =>
    s!"internal error: expected '{expected}' at offset {offset}"
  | io path reason => s!"cannot read '{path}': {reason}"

/-- The note beside the place that an error points at. -/
def label : ErrorKind → String
  | unresolvedPlaceholder .. => "no component with this name"
  | malformedTemplate .. => "cannot parse from here"
  | cursorPrecondition .. => "cursor was here"
  | _ => "here"

/-- Advice, for the causes where there is some to give. -/
def help : ErrorKind → Option String
  | unresolvedPlaceholder name =>
    some s!"supply a matcher for '{name}' in the components passed with the template"
  | malformedTemplate .. =>
    some "placeholders take the form $\x7bname\x7d with name made of [a-zA-Z0-9_]"
  | invalidPullUp .. => some "the pulled-up field must be a step of the wrapped grammar"
  | cursorPrecondition .. =>
    some "This is an internal engine error. Please report this as a bug."
  | _ => none

end ErrorKind

/-- The name of a category inside an error code. -/
def ErrorCategory.phase : ErrorCategory → String
  | .construction => "construction"
  | .internal => "internal"
  | .io => "io"

/-- A stretch of a source text, in bytes. -/
structure SourceSpan where
  /-- What the text is called: a file name, or `template`. -/
  name : String
  content : String
  offset : Nat
  length : Nat
  deriving DecidableEq, Repr

/-- A cause, and the place it points at if there is one. -/
structure GrammarError where
  kind : ErrorKind
  span : Option SourceSpan
  deriving DecidableEq, Repr

namespace GrammarError

/-- An error that points at no text. -/
def ofKind (kind : ErrorKind) : GrammarError := ⟨kind, none⟩

/-- An error in a template, at a stretch of bytes. -/
def inTemplate (kind : ErrorKind) (template : String) (offset length : Nat) : GrammarError :=
  ⟨kind, some ⟨"template", template, offset, length⟩⟩

/-- The diagnostic code: the program, the category and the cause. -/
def code (e : GrammarError) : String :=
  s!"microgrammar::{e.kind.category.phase}::{e.kind.suffix}"

end GrammarError

end Excerpt
