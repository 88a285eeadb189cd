import Excerpt.Json.Writer
import Excerpt.Match

/-!
# Extracted matches

What a caller gets of a match: its flattened value, with the whole tree behind it.  Its members lead
with the text and the place and go on with the fields; a value without fields stands under `$value`.
-/

namespace Excerpt

/-- A match with its value flattened. -/
structure Extracted where
  tree : Match
  /-- The value without structural fields. -/
  value : Value

namespace Extracted

/-- The caller's view of a match. -/
def ofMatch (m : Match) : Extracted := ⟨m, m.value.flattened⟩

def matched (e : Extracted) : Text := e.tree.matched

def offset (e : Extracted) : Nat := e.tree.offset

/-- The named fields; none if the grammar is no sequence. -/
def fields (e : Extracted) : Fields := e.value.asFields?.getD []

/-- A named field. -/
def get? (e : Extracted) (name : String) : Option Value := e.value.get? name

/-- A named field that is a string. -/
def getString? (e : Extracted) (name : String) : Option String :=
  (e.get? name).bind Value.asString?

/-- The match behind a field, by its path. -/
def partAt? (e : Extracted) (path : String) : Option Match := e.tree.descendant? path

/-- What follows the text and the place in every written form. -/
def body (e : Extracted) : Fields :=
  match e.value with
  | .map entries => entries
  | v => [("$value", v)]

/-- The members of the JSON form. -/
def jsonMembers (e : Extracted) : List String :=
  Json.member "$matched" (Json.string (String.ofList e.matched)) ::
    Json.member "$offset" (toString e.offset) :: Json.members e.body

/-- The JSON form. -/
def toJson (e : Extracted) : String := Json.object e.jsonMembers

end Extracted

end Excerpt
