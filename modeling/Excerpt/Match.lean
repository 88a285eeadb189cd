import Excerpt.Error
import Excerpt.Text.Quoted
import Excerpt.Value.Display

/-!
# Matches and outcomes

What an attempt to match answers.  A success is a tree: a `Match` has the text it covers, its place,
its value, and the matches it is made of.  A failure says who gave up, where, what was bound by then
and why; `Reason` lists the reasons and `Reason.message` words them.  An optional matcher that finds
nothing is `absent`, which is neither.
-/

namespace Excerpt

/-- A successful match. -/
structure Match where
  /-- Who matched. -/
  id : String
  /-- The text covered, with the white space skipped between steps. -/
  matched : Text
  /-- Where the text begins, in bytes. -/
  offset : Nat
  value : Value
  /-- The field that the enclosing sequence binds it to. -/
  name : Option String
  children : List Match
  /-- The fields bound by a sequence; only the match of a sequence has them. -/
  context : Option Fields

namespace Match

/-- A match without parts. -/
def leaf (id : String) (matched : Text) (offset : Nat) (value : Value) : Match where
  id := id
  matched := matched
  offset := offset
  value := value
  name := none
  children := []
  context := none

/-- The match of a sequence: its value is the fields it bound. -/
def ofSequence (id : String) (matched : Text) (offset : Nat) (children : List Match)
    (context : Fields) : Match where
  id := id
  matched := matched
  offset := offset
  value := .map context
  name := none
  children := children
  context := some context

/-- The match of a repetition: its value is the list of its elements' values. -/
def ofElements (id : String) (matched : Text) (offset : Nat) (children : List Match) : Match where
  id := id
  matched := matched
  offset := offset
  value := .list (children.map Match.value)
  name := none
  children := children
  context := none

/-- Where the covered text ends, in bytes. -/
def endOffset (m : Match) : Nat := m.offset + Text.byteLength m.matched

/-- Whether it is the match of a sequence. -/
def isTree (m : Match) : Bool := m.context.isSome

/-- The part bound to a name. -/
def child? (m : Match) (name : String) : Option Match :=
  m.children.find? fun c => c.name == some name

/-- The part at a path of names. -/
def partAt? (m : Match) : List String → Option Match
  | [] => some m
  | name :: rest => (m.child? name).bind fun c => c.partAt? rest

/-- The part at a path of names with dots between them. -/
def descendant? (m : Match) (path : String) : Option Match :=
  m.partAt? (path.splitOn ".")

/-- The same match under a field name. -/
def withName (m : Match) (name : String) : Match := { m with name := some name }

/-- The same text with another value; it is then no longer the match of a sequence. -/
def withValue (m : Match) (value : Value) : Match := { m with value := value, context := none }

/-- A match in one line: who, where, what text and what value. -/
def display (m : Match) : String :=
  s!"{m.id}@{m.offset} {Text.quoteText m.matched} = {m.value.display}"

end Match

/-! ## Failures -/

mutual

/-- Why an attempt was given up. -/
inductive Reason where
  /-- A pattern that does not match says no more. -/
  | unstated
  /-- A literal, and the text that stood there instead. -/
  | expectedText (expected found : Text)
  /-- A choice has nothing left to read. -/
  | inputExhausted
  | noAlternative
  | rejectedByTest
  | nothingToTest
  /-- Too few elements of a repetition. -/
  | tooFewElements (minimum found : Nat)
  | expectedOpener (opener : Char)
  | unbalanced
  /-- A step of a sequence failed. -/
  | atStep (step : String) (cause : Failure)
  | vetoedBy (step : String)
  | ruleNotInScope (name : String)
  /-- Text was reported that does not stand there.  No matcher does this. -/
  | misreported (error : ErrorKind)
  /-- A whole text was to be matched, and the match is empty. -/
  | matchedNothing
  /-- A whole text was to be matched, and some of it is left. -/
  | trailingText (rest : Text)
  /-- A whole text was to be matched, and the matcher is absent. -/
  | nothingMatched

/-- Who gave up an attempt, where, with what bound, and why. -/
inductive Failure where
  | mk (id : String) (offset : Nat) (context : Fields) (reason : Reason)

end

namespace Failure

def id : Failure → String
  | mk id _ _ _ => id

/-- Where the attempt was given up, in bytes. -/
def offset : Failure → Nat
  | mk _ offset _ _ => offset

/-- What was bound by then. -/
def context : Failure → Fields
  | mk _ _ context _ => context

def reason : Failure → Reason
  | mk _ _ _ reason => reason

end Failure

mutual

/-- A reason in words; empty if there is none. -/
def Reason.message : Reason → String
  | .unstated => ""
  | .expectedText expected found =>
    "expected " ++ Text.quoteText expected ++ ", found " ++ Text.quoteText found
  | .inputExhausted => "input exhausted"
  | .noAlternative => "no alternative matched"
  | .rejectedByTest => "match rejected by condition"
  | .nothingToTest => "nothing to test"
  | .tooFewElements minimum found =>
    s!"expected at least {minimum} element(s), found {found}"
  | .expectedOpener opener => "expected " ++ Text.quoteText [opener]
  | .unbalanced => "unbalanced delimiters"
  | .atStep step cause => s!"failed at step '{step}' due to " ++ cause.description
  | .vetoedBy step => s!"match vetoed by {step}"
  | .ruleNotInScope name => s!"rule '{name}' is not in scope"
  | .misreported error => "internal: " ++ error.message
  | .matchedNothing => "matched nothing"
  | .trailingText rest => "unmatched trailing input " ++ Text.quoteText rest
  | .nothingMatched => "nothing matched"

/-- A failure in one line. -/
def Failure.description : Failure → String
  | .mk id offset _ reason =>
    let message := reason.message
    let place := s!"{id} did not match at offset {offset}"
    if message = "" then place else place ++ ": " ++ message

end

/-! ## Outcomes -/

/-- The outcome of one attempt. -/
inductive Outcome where
  | success (m : Match)
  | failure (f : Failure)
  /-- An optional matcher found nothing at this offset. -/
  | absent (id : String) (offset : Nat)

namespace Outcome

/-- A failure with nothing bound. -/
def fail (id : String) (offset : Nat) (reason : Reason) : Outcome :=
  .failure (.mk id offset [] reason)

/-- Whether the attempt succeeded. -/
def isMatch : Outcome → Bool
  | success _ => true
  | _ => false

/-- Where the attempt began or was given up. -/
def offset : Outcome → Nat
  | success m => m.offset
  | failure f => f.offset
  | absent _ offset => offset

/-- The outcome in one line. -/
def description : Outcome → String
  | success m => "matched " ++ m.display
  | failure f => f.description
  | absent id offset => s!"{id} absent at offset {offset}"

end Outcome

end Excerpt
