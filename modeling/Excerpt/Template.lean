import Excerpt.Components
import Excerpt.Definitions

/-!
# Templates

A template mixes literal text with placeholders, a name in curly brackets after a dollar sign.  The
words of its literal text become literal steps with running names `_0`, `_1`, …; a placeholder
becomes a step of its name that matches the component of that name.

A template is itself read with a small grammar, `Template.grammar`: pieces of literal text with a
placeholder after them, and whatever is left.  `Template.define` turns the match into definitions.
The running number goes on from template to template, also past one that has an error.
-/

namespace Excerpt.Template

/-- What opens a placeholder. -/
def opening : String := "$\x7b"

/-- A step that matches. -/
private def step (name : String) (m : Matcher) : Step Matcher := .take name m

/-- A placeholder. -/
def placeholder : Matcher :=
  .sequence "component"
    [step "_open" (.literal opening), step "name" (.ofSource "[a-zA-Z0-9_]+"),
      step "_close" (.literal "\x7d")]
    .strict

/-- Literal text, and the placeholder after it. -/
def piece : Matcher :=
  .sequence "literal, then component"
    [step "literal" (.upTo placeholder), step "component" placeholder] .strict

/-- A whole template. -/
def grammar : Matcher :=
  .sequence "template"
    [step "these" (.repetition piece none 0 false), step "trailing" .remainder] .strict

/-! ## Reading -/

/-- The definitions so far, and the next running number. -/
structure Draft where
  definitions : Definitions
  next : Nat

/-- Adds the words of literal text as steps. -/
def Draft.addWords (d : Draft) (text : Text) : Draft :=
  (Text.words text).foldl
    (fun d word =>
      ⟨d.definitions.add (.matcher s!"_{d.next}" (.literal (String.ofList word))), d.next + 1⟩)
    d

/-- The error of a template that has an opening at `offset` which opens no placeholder. -/
def malformed (template : String) (offset : Nat) : GrammarError :=
  .inTemplate (.malformedTemplate template) template offset
    (min (template.utf8ByteSize - offset) opening.utf8ByteSize)

/-- Adds the step of a placeholder, whose name was read at `name`. -/
def Draft.addPlaceholder (template : String) (components : Components) (d : Draft)
    (name : Match) : Except GrammarError Draft :=
  let key := String.ofList name.matched
  let report (kind : ErrorKind) : Except GrammarError Draft :=
    .error (.inTemplate kind template name.offset (Text.byteLength name.matched))
  match components.get? key with
  | none => report (.unresolvedPlaceholder key)
  | some m =>
    if d.definitions.names.contains key then report (.duplicateStep key template)
    else .ok { d with definitions := d.definitions.add (.matcher key m) }

/-- Adds the pieces of a template, and then its trailing text.  An error comes with the running
number reached. -/
def Draft.addPieces (template : String) (components : Components) (trailing : Option Match)
    (d : Draft) : List Match → Except GrammarError Definitions × Nat
  | [] =>
    match trailing with
    | none => (.ok d.definitions, d.next)
    | some text =>
      if Text.occursIn opening.toList text.matched then
        let skipped := Text.before opening.toList text.matched
        (.error (malformed template (text.offset + Text.byteLength skipped)), d.next)
      else
        let d := d.addWords text.matched
        (.ok d.definitions, d.next)
  | piece :: rest =>
    let d :=
      match piece.child? "literal" with
      | some text => d.addWords text.matched
      | none => d
    match piece.partAt? ["component", "name"] with
    | none => d.addPieces template components trailing rest
    | some name =>
      match d.addPlaceholder template components name with
      | .error error => (.error error, d.next)
      | .ok d => d.addPieces template components trailing rest

/-- The definitions that a template describes, with running names from `next` on; also answers the
next running number. -/
def define (components : Components) (next : Nat) (template : String) :
    Except GrammarError Definitions × Nat :=
  match grammar.matchFront (.ofString template) with
  | some (.success m) =>
    let pieces := ((m.child? "these").map Match.children).getD []
    Draft.addPieces template components (m.child? "trailing")
      ⟨{ Definitions.empty with id := some template }, next⟩ pieces
  | _ => (.error (malformed template 0), next)

end Excerpt.Template
