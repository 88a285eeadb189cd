import Excerpt.Decimal.Layout
import Excerpt.Text.Quoted
import Excerpt.Value.Basic

/-!
# Values in words

The one-line form of a value for people: quoted strings, numbers in full, lists in brackets and
fields in braces.
-/

namespace Excerpt

/-- Numbers are written in full with the fewest digits, and a whole number shows no point. -/
def displayLayout : Decimal.Layout where
  tie := .up
  positional := none
  wholeMark := false
  plusSign := false
  nan := "NaN"
  infinity := "inf"
  negativeInfinity := "-inf"

mutual

/-- A value in one line. -/
def Value.display : Value → String
  | .nil => "nil"
  | .number x => displayLayout.render x
  | .string s => Text.quote s
  | .bool b => if b then "true" else "false"
  | .list items => "[" ++ ", ".intercalate (Value.displayList items) ++ "]"
  | .map entries => "\x7b" ++ ", ".intercalate (Value.displayFields entries) ++ "\x7d"

/-- The elements of a list, each in one line. -/
def Value.displayList : List Value → List String
  | [] => []
  | v :: rest => v.display :: Value.displayList rest

/-- Fields as `name: value`. -/
def Value.displayFields : List (String × Value) → List String
  | [] => []
  | (key, v) :: rest => (key ++ ": " ++ v.display) :: Value.displayFields rest

end

/-- Fields in one line. -/
def Fields.display (fields : Fields) : String := (Value.map fields).display

end Excerpt
