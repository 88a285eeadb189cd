import Excerpt.Decimal.Layout
import Excerpt.Text.Quoted
import Excerpt.Value.Basic

/-!
# Values as JSON

The compact JSON form of values and fields: no spaces, fields in their order, and only quotes,
backslashes and control characters escaped.
-/

namespace Excerpt.Json

/-- Numbers always show a point or an exponent; what is not finite has no JSON form. -/
def numberLayout : Decimal.Layout where
  tie := .toEven
  positional := some (-5, 16)
  wholeMark := true
  plusSign := true
  nan := "null"
  infinity := "null"
  negativeInfinity := "null"

/-- One character inside a JSON string. -/
def escapeChar (c : Char) : Text :=
  if c = '"' then ['\\', '"']
  else if c = '\\' then ['\\', '\\']
  else if c.toNat = 0x8 then ['\\', 'b']
  else if c.toNat = 0x9 then ['\\', 't']
  else if c.toNat = 0xa then ['\\', 'n']
  else if c.toNat = 0xc then ['\\', 'f']
  else if c.toNat = 0xd then ['\\', 'r']
  else if c.toNat < 0x20 then ['\\', 'u'] ++ Text.hexPadded 4 c.toNat
  else [c]

/-- A JSON string. -/
def string (s : String) : String :=
  String.ofList ('"' :: s.toList.flatMap escapeChar ++ ['"'])

/-- A member of a JSON object. -/
def member (name value : String) : String := string name ++ ":" ++ value

/-- A JSON object of members that are already written. -/
def object (members : List String) : String :=
  "\x7b" ++ ",".intercalate members ++ "\x7d"

/-- A JSON array of elements that are already written. -/
def array (elements : List String) : String :=
  "[" ++ ",".intercalate elements ++ "]"

mutual

/-- A value as JSON. -/
def ofValue : Value → String
  | .nil => "null"
  | .number x => numberLayout.render x
  | .string s => string s
  | .bool b => if b then "true" else "false"
  | .list items => array (ofValues items)
  | .map entries => object (members entries)

/-- The elements of a list as JSON. -/
def ofValues : List Value → List String
  | [] => []
  | v :: rest => ofValue v :: ofValues rest

/-- Fields as the members of a JSON object. -/
def members : List (String × Value) → List String
  | [] => []
  | (key, v) :: rest => member key (ofValue v) :: members rest

end

/-- Fields as a JSON object. -/
def ofFields (fields : Fields) : String := object (members fields)

end Excerpt.Json
