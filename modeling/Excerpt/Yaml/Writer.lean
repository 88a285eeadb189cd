import Excerpt.Decimal.Layout
import Excerpt.Value.Basic
import Excerpt.Yaml.Scalar

/-!
# Values as YAML

The block form of values: a field on each line, a list under its key without further indentation,
and a list or fields inside a list on the line of their hyphen.
-/

namespace Excerpt.Yaml

/-- Numbers always show a point or an exponent. -/
def numberLayout : Decimal.Layout where
  tie := .toEven
  positional := some (-5, 16)
  wholeMark := true
  plusSign := false
  nan := ".nan"
  infinity := ".inf"
  negativeInfinity := "-.inf"

/-- What stands before a value on its line. -/
inductive Position where
  /-- A key and its colon. -/
  | afterKey
  /-- A hyphen, or a mark of a key on lines of its own: what follows may go on beside it. -/
  | besideMark
  deriving DecidableEq

/-- The front of a line, `indent` spaces in. -/
def lineFront (indent : Nat) : Text := '\n' :: List.replicate indent ' '

/-- A text with the next line's front and what stands behind it.  A text that ends in a line break
has ended its line already. -/
def thenLine (t : Text) (indent : Nat) (next : Text) : Text :=
  if t.getLast?.any isBreak then t ++ List.replicate indent ' ' ++ next
  else t ++ lineFront indent ++ next

/-- Parts on lines of their own. -/
def lines (indent : Nat) : List Text → Text
  | [] => []
  | [t] => t
  | t :: rest => thenLine t indent (lines indent rest)

/-- Parts below or beside what stands before them. -/
def block (position : Position) (indent : Nat) (parts : List Text) : Text :=
  match position with
  | .afterKey => lineFront indent ++ lines indent parts
  | .besideMark => ' ' :: lines indent parts

/-- A key fits on the line of its value. -/
def isSimpleKey (key : String) : Bool :=
  !key.toList.any isBreak && key.utf8ByteSize ≤ 128

/-- A key with its written value, which was written for the position `keyPosition key`. -/
def entry (indent : Nat) (key : String) (value : Text) : Text :=
  if isSimpleKey key then scalar true (indent + 2) key ++ ':' :: value
  else thenLine (['?', ' '] ++ scalar false (indent + 2) key) indent (':' :: value)

/-- Where the value of a key stands. -/
def keyPosition (key : String) : Position :=
  if isSimpleKey key then .afterKey else .besideMark

mutual

/-- A value behind what stands before it on its line, inside a block `indent` spaces in. -/
def value (position : Position) (indent : Nat) : Value → Text
  | .nil => ' ' :: "null".toList
  | .number x => ' ' :: (numberLayout.render x).toList
  | .string s => ' ' :: scalar false (indent + 2) s
  | .bool b => ' ' :: (if b then "true" else "false").toList
  | .list [] => " []".toList
  | .list (v :: rest) =>
    let indent := if position = .afterKey then indent else indent + 2
    block position indent (items indent (v :: rest))
  | .map [] => " \x7b\x7d".toList
  | .map (pair :: rest) => block position (indent + 2) (entries (indent + 2) (pair :: rest))

/-- The elements of a list, each behind its hyphen. -/
def items (indent : Nat) : List Value → List Text
  | [] => []
  | v :: rest => ('-' :: value .besideMark indent v) :: items indent rest

/-- Fields, each a key and a value. -/
def entries (indent : Nat) : List (String × Value) → List Text
  | [] => []
  | (key, v) :: rest =>
    entry indent key (value (keyPosition key) indent v) :: entries indent rest

end

/-- A document of written entries. -/
def document (parts : List Text) : String :=
  String.ofList (thenLine (lines 0 parts) 0 [])

end Excerpt.Yaml
