import Excerpt.Regex.Depth
import Excerpt.Regex.Escape

/-!
# Classes in brackets

From the text of a bracketed class to its set of characters (`bracketClass`).  Classes may stand
inside one another; those that are open are kept on a stack, so the reader goes through the text
once.
-/

namespace Excerpt.Regex

/-- How the parts of a class on either side of an operator are combined. -/
inductive SetOperator where
  | intersection
  | difference
  | symmetricDifference
  deriving DecidableEq, Repr

/-- The set that an operator makes of two sets. -/
def SetOperator.apply : SetOperator → CharSet → CharSet → CharSet
  | intersection => .intersection
  | difference => .difference
  | symmetricDifference => .symmetricDifference

/-- What stands before an operator in a class. -/
structure Operand where
  operator : SetOperator
  set : CharSet
  depth : Nat

/-- A class whose closing bracket is not read yet. -/
structure OpenClass where
  negated : Bool
  /-- What stands before the last operator. -/
  left : Option Operand
  /-- The members read since. -/
  members : CharSet
  /-- How deep each of the members read since is. -/
  depths : List Nat

namespace OpenClass

/-- A class without members. -/
def start (negated : Bool) : OpenClass := ⟨negated, none, .nothing, []⟩

/-- The members of a class with the last operator applied. -/
def value (f : Flags) (c : OpenClass) : CharSet :=
  match c.left with
  | none => c.members
  | some left => left.operator.apply (f.close left.set) (f.close c.members)

/-- How deep the members of a class are. -/
def depth (c : OpenClass) : Nat :=
  let right := depthOfParts c.depths
  match c.left with
  | none => right
  | some left => max left.depth right + 1

/-- The set of a class that is read to its end. -/
def finish (f : Flags) (c : OpenClass) : Except Fault CharSet :=
  let s := f.close (c.value f)
  if !c.negated then .ok s
  else if f.asciiOnly then .error .notText
  else .ok s.complement

/-- Adds members to a class. -/
def add (c : OpenClass) (s : CharSet) (depth : Nat) : OpenClass :=
  { c with members := c.members.union s, depths := depth :: c.depths }

/-- Begins the part of a class after an operator. -/
def operate (f : Flags) (c : OpenClass) (op : SetOperator) : OpenClass :=
  { OpenClass.start c.negated with left := some ⟨op, c.value f, c.depth⟩ }

end OpenClass

/-! ## Members -/

/-- Hyphens at the front of a class stand for themselves.  `fuel` is the length of the text. -/
def leadingHyphens (f : Flags) : Nat → OpenClass → Text → OpenClass × Text
  | fuel + 1, c, '-' :: rest => leadingHyphens f fuel (c.add (.single '-') 0) (f.skip rest)
  | _, c, t => (c, t)

/-- The front of a class, after its opening bracket: the negation, and the hyphens or the closing
bracket that stand for themselves there. -/
def openClass (f : Flags) (t : Text) : OpenClass × Text :=
  let t := f.skip t
  let (negated, t) :=
    match t with
    | '^' :: rest => (true, f.skip rest)
    | _ => (false, t)
  let (c, t) := leadingHyphens f t.length (.start negated) t
  match c.depths, t with
  | [], ']' :: rest => (c.add (.single ']') 0, f.skip rest)
  | _, t => (c, t)

/-- One side of a range, or a single member of a class. -/
def classItem (f : Flags) : Text → Except Fault (Atom × Text)
  | [] => .error .unclosedClass
  | '\\' :: rest => escape f rest
  | c :: rest => .ok (.char c, rest)

/-- The characters of a range.  Where the flags know ASCII only, its ends are ASCII. -/
def rangeSet (f : Flags) (first last : Char) : Except Fault CharSet :=
  if last.toNat < first.toNat then .error .reversedRange
  else if f.asciiOnly && 0x80 ≤ last.toNat then .error .beyondAscii
  else .ok (.range first last)

/-- A member of a class, or a range of members. -/
def classRange (f : Flags) (t : Text) : Except Fault (CharSet × Text) := do
  let (first, rest) ← classItem f t
  let rest := f.skip rest
  let isRange :=
    match rest with
    | '-' :: after => f.peek after != some ']' && f.peek after != some '-'
    | _ => false
  if isRange then
    let (last, rest) ← classItem f (f.skip (rest.drop 1))
    match first, last with
    | .char a, .char b => return (← rangeSet f a b, rest)
    | _, _ => throw .notInClass
  else
    match first with
    | .char c => return (← rangeSet f c c, rest)
    | .set s => return (s, rest)
    | .place _ => throw .notInClass

/-- The name of a class between colons, whether it is negated, and the text behind it, without its
opening bracket. -/
def colonName? (t : Text) : Option (Bool × Text × Text) :=
  match t with
  | ':' :: rest =>
    let (negated, rest) :=
      match rest with
      | '^' :: rest => (true, rest)
      | _ => (false, rest)
    let name := rest.takeWhile (· != ':')
    match rest.drop name.length with
    | ':' :: ']' :: after => some (negated, name, after)
    | _ => none
  | _ => none

/-- A class named between colons, without its opening bracket. -/
def namedClass? (f : Flags) (t : Text) : Option (Except Fault CharSet × Text) := do
  let (negated, name, after) ← colonName? t
  let s ← CharSet.named? (String.ofList name)
  let s := f.close s
  if !negated then return (.ok s, after)
  else if f.asciiOnly then return (.error .notText, after)
  else return (.ok s.complement, after)

/-! ## Whole classes -/

/-- The rest of a class and how deep it is, given the classes that are open around it, the innermost
first.  Every round reads at least one character; `fuel` is above the length of the text. -/
def classRest (f : Flags) :
    Nat → OpenClass → List OpenClass → Text → Except Fault (CharSet × Nat × Text)
  | 0, _, _, _ => .error .unclosedClass
  | fuel + 1, c, outer, t =>
    match f.skip t with
    | [] => .error .unclosedClass
    | '[' :: rest =>
      match namedClass? f rest with
      | some (s, rest) => do classRest f fuel (c.add (← s) 0) outer rest
      | none =>
        let (inner, rest) := openClass f rest
        classRest f fuel inner (c :: outer) rest
    | ']' :: rest => do
      let s ← c.finish f
      let depth := c.depth + 1
      match outer with
      | [] => return (s, depth, rest)
      | around :: outer => classRest f fuel (around.add s depth) outer rest
    | '&' :: '&' :: rest => classRest f fuel (c.operate f .intersection) outer rest
    | '-' :: '-' :: rest => classRest f fuel (c.operate f .difference) outer rest
    | '~' :: '~' :: rest => classRest f fuel (c.operate f .symmetricDifference) outer rest
    | t => do
      let (s, rest) ← classRange f t
      classRest f fuel (c.add s 0) outer rest

/-- A class after its opening bracket, and how deep it is. -/
def bracketClass (f : Flags) (t : Text) : Except Fault (CharSet × Nat × Text) :=
  let (c, rest) := openClass f t
  classRest f (rest.length + 1) c [] rest

end Excerpt.Regex
