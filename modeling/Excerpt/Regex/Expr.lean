import Excerpt.Regex.Place

/-!
# Regular expressions

The meaning of a regular expression, once its flags are resolved: texts, sets of characters, places,
sequences, choices, repetitions and capture groups.

Expressions are built in a simplest form by the functions of this file.  It decides which states a
match can stand in, and so where a repetition of something that may be empty comes to rest.

* `Expr.sequence` : neighbouring texts are one text, and nothing is left of an empty part.
* `Expr.choices` : single characters are one set, and parts that all branches begin with stand
  before the choice.
* `Expr.repeated` : what is always empty is repeated at most once.
-/

namespace Excerpt.Regex

/-- A regular expression. -/
inductive Expr where
  | empty
  /-- Exactly a text that is not empty. -/
  | literal (text : Text)
  /-- One character of a set. -/
  | one (set : CharSet)
  | place (p : Place)
  | seq (a b : Expr)
  /-- The first choice is preferred. -/
  | choice (a b : Expr)
  /-- From `least` to `most` times, without bound if there is no `most`; as often as possible if
  `greedy`, as seldom as possible if not. -/
  | «repeat» (a : Expr) (least : Nat) (most : Option Nat) (greedy : Bool)
  /-- What `a` covers is remembered under a number. -/
  | group (number : Nat) (a : Expr)
  deriving DecidableEq, Repr

namespace Expr

/-! ## Measures -/

/-- The length of the shortest matches.  There is none if a set without members is in the way. -/
def leastLength? : Expr → Option Nat
  | empty | place _ => some 0
  | literal text => some text.length
  | one set => if set.ranges.isEmpty then none else some 1
  | seq a b => do return (← a.leastLength?) + (← b.leastLength?)
  | choice a b => do return min (← a.leastLength?) (← b.leastLength?)
  | «repeat» a least _ _ => do return least * (← a.leastLength?)
  | group _ a => a.leastLength?

/-- The length of the longest matches, if it has a bound. -/
def mostLength? : Expr → Option Nat
  | empty | place _ => some 0
  | literal text => some text.length
  | one set => if set.ranges.isEmpty then none else some 1
  | seq a b => do return (← a.mostLength?) + (← b.mostLength?)
  | choice a b => do return max (← a.mostLength?) (← b.mostLength?)
  | «repeat» a _ most _ => do return (← most) * (← a.mostLength?)
  | group _ a => a.mostLength?

/-- Whether every match is empty. -/
def isAlwaysEmpty (a : Expr) : Bool := a.mostLength? == some 0

/-- Whether every match reads a character, and there is no set without members. -/
def neverEmpty (a : Expr) : Bool := a.leastLength?.any (0 < ·)

/-- The highest number of a capture group.  A group that is repeated no times is gone, but the
groups behind it keep their numbers. -/
def groupCount : Expr → Nat
  | empty | literal _ | one _ | place _ => 0
  | seq a b | choice a b => max a.groupCount b.groupCount
  | «repeat» a _ _ _ => a.groupCount
  | group number a => max number a.groupCount

/-! ## Parts and branches -/

/-- The parts of a sequence; an expression of another kind is the only part of itself. -/
def parts : Expr → List Expr
  | empty => []
  | seq a b => a :: b.parts
  | e => [e]

/-- The branches of a choice; an expression of another kind is the only branch of itself. -/
def branches : Expr → List Expr
  | choice a b => a :: b.branches
  | e => [e]

/-! ## Building -/

/-- The expression of one character of a set. -/
def ofSet (set : CharSet) : Expr :=
  match set.only? with
  | some c => literal [c]
  | none => one set

/-- An expression with a part in front that is no sequence. -/
def after (part : Expr) : Expr → Expr
  | empty => part
  | literal t =>
    match part with
    | literal s => literal (s ++ t)
    | _ => seq part (literal t)
  | seq (literal t) rest =>
    match part with
    | literal s => seq (literal (s ++ t)) rest
    | _ => seq part (seq (literal t) rest)
  | e => seq part e

/-- A sequence of expressions. -/
def sequence (es : List Expr) : Expr := (es.flatMap parts).foldr after empty

/-- The character of an expression that matches one character only. -/
def character? : Expr → Option Char
  | literal [c] => some c
  | _ => none

/-- The set of an expression that matches one character of several. -/
def set? : Expr → Option CharSet
  | one set => some set
  | _ => none

/-- A choice between branches as they stand. -/
def choiceOf : List Expr → Expr
  | [] => one .nothing
  | [a] => a
  | a :: rest => choice a (choiceOf rest)

/-- A choice between branches, which is one set if each branch is one character or if each is one
set. -/
def merged (branches : List Expr) : Expr :=
  match branches with
  | [a] => a
  | _ =>
    match branches.mapM character? with
    | some chars => ofSet (.ofChars chars)
    | none =>
      match branches.mapM set? with
      | some sets => ofSet (sets.foldl .union .nothing)
      | none => choiceOf branches

/-- The longest list that both lists begin with. -/
def commonFront : List Expr → List Expr → List Expr
  | a :: as, b :: bs => if a = b then a :: commonFront as bs else []
  | _, _ => []

/-- The parts that all branches begin with, if each branch is a sequence. -/
def commonParts : List Expr → List Expr
  | [] => []
  | first :: rest =>
    if (first :: rest).all fun e => 1 < e.parts.length then
      rest.foldl (fun front e => commonFront front e.parts) first.parts
    else []

/-- A choice between expressions, the first one preferred. -/
def choices (es : List Expr) : Expr :=
  let branches := es.flatMap branches
  match branches with
  | [a] => a
  | _ =>
    match commonParts branches with
    | [] => merged branches
    | front =>
      let backs := branches.map fun e => sequence (e.parts.drop front.length)
      sequence (front ++ [merged (backs.flatMap Expr.branches)])

/-- A repetition.  What is always empty is repeated at most once; never is the empty expression, and
once is the expression itself. -/
def repeated (a : Expr) (least : Nat) (most : Option Nat) (greedy : Bool) : Expr :=
  let (least, most) :=
    if a.isAlwaysEmpty then (min least 1, some (min (most.getD 1) 1)) else (least, most)
  if least = 0 ∧ most = some 0 then empty
  else if least = 1 ∧ most = some 1 then a
  else «repeat» a least most greedy

end Expr

end Excerpt.Regex
