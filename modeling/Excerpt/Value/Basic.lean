/-!
# Values and fields

A matcher binds names to values.  A value is a scalar, a list, or fields of its own; `Fields` keeps
its entries in the order in which they were first bound.

* `Fields.insert` replaces an earlier binding where it stands.
* `Value.flattened` drops every field whose name begins with an underscore, at every depth: such
  structural names only place a match.
-/

namespace Excerpt

/-- A value bound to a name. -/
inductive Value where
  | nil
  | number (x : Float)
  | string (s : String)
  | bool (b : Bool)
  | list (items : List Value)
  | map (entries : List (String × Value))
  deriving Repr, Inhabited

/-- Values by name, in the order in which the names were first bound. -/
abbrev Fields := List (String × Value)

namespace Fields

/-- No fields. -/
def empty : Fields := []

/-- The value bound to a name. -/
def get? : Fields → String → Option Value
  | [], _ => none
  | (key, value) :: rest, name => if key = name then some value else get? rest name

/-- Whether a name is bound. -/
def contains (fields : Fields) (name : String) : Bool := (get? fields name).isSome

/-- Binds a name, in the place of an earlier binding if there is one. -/
def insert : Fields → String → Value → Fields
  | [], name, value => [(name, value)]
  | (key, old) :: rest, name, value =>
    if key = name then (key, value) :: rest else (key, old) :: insert rest name value

/-- Binds pairs one after another. -/
def ofList (pairs : List (String × Value)) : Fields :=
  pairs.foldl (fun fields pair => insert fields pair.1 pair.2) empty

/-- The bound names, in order. -/
def keys (fields : Fields) : List String := fields.map Prod.fst

end Fields

namespace Value

/-- The name of the kind of a value. -/
def typeName : Value → String
  | nil => "Nil"
  | number _ => "Number"
  | string _ => "String"
  | bool _ => "Bool"
  | list _ => "List"
  | map _ => "Map"

/-- Whether the value is the absent one. -/
def isNil : Value → Bool
  | nil => true
  | _ => false

def asString? : Value → Option String
  | string s => some s
  | _ => none

def asNumber? : Value → Option Float
  | number x => some x
  | _ => none

def asBool? : Value → Option Bool
  | bool b => some b
  | _ => none

def asList? : Value → Option (List Value)
  | list items => some items
  | _ => none

def asFields? : Value → Option Fields
  | map entries => some entries
  | _ => none

/-- A field of a value that has fields. -/
def get? (v : Value) (name : String) : Option Value :=
  v.asFields?.bind fun fields => Fields.get? fields name

/-- The strings in a list; other elements are passed over. -/
def strings (v : Value) : List String :=
  (v.asList?.getD []).filterMap asString?

end Value

/-- The string bound to a name. -/
def Fields.getString? (fields : Fields) (name : String) : Option String :=
  (Fields.get? fields name).bind Value.asString?

/-! ## Equality

Numbers are compared as numbers: zero equals minus zero, and what is not a number differs from
itself.  The order of fields counts. -/

mutual

/-- Whether two values are equal. -/
def Value.equal : Value → Value → Bool
  | .nil, .nil => true
  | .number x, .number y => x == y
  | .string s, .string t => s == t
  | .bool a, .bool b => a == b
  | .list xs, .list ys => Value.equalLists xs ys
  | .map xs, .map ys => Value.equalFields xs ys
  | _, _ => false

/-- Whether two lists are equal element by element. -/
def Value.equalLists : List Value → List Value → Bool
  | [], [] => true
  | x :: xs, y :: ys => Value.equal x y && Value.equalLists xs ys
  | _, _ => false

/-- Whether two sequences of fields are equal entry by entry. -/
def Value.equalFields : List (String × Value) → List (String × Value) → Bool
  | [], [] => true
  | (j, x) :: xs, (k, y) :: ys => j == k && Value.equal x y && Value.equalFields xs ys
  | _, _ => false

end

instance : BEq Value := ⟨Value.equal⟩

/-! ## Flattening -/

/-- A field name that only places a match and is left out of extracted values. -/
def isStructural (name : String) : Bool := name.toList.head? == some '_'

mutual

/-- The value without structural fields at any depth. -/
def Value.flattened : Value → Value
  | .list items => .list (Value.flattenedList items)
  | .map entries => .map (Value.flattenedFields entries)
  | v => v

/-- A list whose elements are flattened. -/
def Value.flattenedList : List Value → List Value
  | [] => []
  | v :: rest => v.flattened :: Value.flattenedList rest

/-- Fields without the structural ones, their values flattened. -/
def Value.flattenedFields : List (String × Value) → List (String × Value)
  | [] => []
  | (key, v) :: rest =>
    if isStructural key then Value.flattenedFields rest
    else (key, v.flattened) :: Value.flattenedFields rest

end

/-- Fields without the structural ones, at any depth. -/
def Fields.flattened (fields : Fields) : Fields := Value.flattenedFields fields

end Excerpt
