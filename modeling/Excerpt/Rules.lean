import Excerpt.Matcher.Attempt

/-!
# Rules

Matchers that refer to one another by name.  A rule is declared before it is defined, so that a
reference to it can stand anywhere, its own definition included.  `RuleBook` collects declarations
and definitions; `RuleBook.build?` freezes them once every declared rule is defined.
-/

namespace Excerpt

namespace Rules

/-- The names of the rules, in order of declaration. -/
def names (rules : Rules) : List String := rules.map Prod.fst

/-- The definition of a rule. -/
def lookup? (rules : Rules) (name : String) : Option Matcher :=
  (rules.find? fun rule => rule.1 == name).map Prod.snd

end Rules

/-- Rules that are being written: in order of declaration, each with its definition if it has one
yet. -/
structure RuleBook where
  entries : List (String × Option Matcher)

namespace RuleBook

/-- No rules. -/
def empty : RuleBook := ⟨[]⟩

/-- The place of a rule, which is declared if it is new. -/
def place (book : RuleBook) (name : String) : Nat × RuleBook :=
  let index := book.entries.findIdx fun entry => entry.1 == name
  if index < book.entries.length then (index, book)
  else (book.entries.length, ⟨book.entries ++ [(name, none)]⟩)

/-- A reference to a rule, which is declared if it is new. -/
def declare (book : RuleBook) (name : String) : Matcher × RuleBook :=
  let (index, book) := book.place name
  (.reference index name, book)

/-- Defines a rule, which is declared if it is new.  A rule is defined only once, and another
definition is refused.  Also answers the book afterwards, be the definition taken or refused. -/
def define (book : RuleBook) (name : String) (m : Matcher) : Except ErrorKind Unit × RuleBook :=
  let (index, book) := book.place name
  match book.entries[index]? with
  | some (_, some _) => (.error (.duplicateRule name), book)
  | _ => (.ok (), ⟨book.entries.set index (name, some m)⟩)

/-- The book after a definition, if that is taken. -/
def define? (book : RuleBook) (name : String) (m : Matcher) : Except ErrorKind RuleBook :=
  let (result, book) := book.define name m
  result.map fun _ => book

/-- The rules, all of them defined; the first one without a definition is reported. -/
def build? (book : RuleBook) : Except ErrorKind Rules :=
  collect book.entries
where
  /-- The definitions of some entries. -/
  collect : List (String × Option Matcher) → Except ErrorKind Rules
    | [] => .ok []
    | (name, none) :: _ => .error (.undefinedRule name)
    | (name, some m) :: rest =>
      match collect rest with
      | .error error => .error error
      | .ok rules => .ok ((name, m) :: rules)

end RuleBook

end Excerpt
