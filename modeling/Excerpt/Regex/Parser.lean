import Excerpt.Regex.BracketClass
import Excerpt.Regex.Expr
import Excerpt.Text.Alphabet

/-!
# Reading regular expressions

From the text of a pattern to its meaning, or the fault that makes it no pattern (`parse`).

The reader keeps the groups that are open on a stack (`Frame`) and reads one element in each round
(`State.element`), so a closing bracket that no group of its own opened closes the nearest group
around it.  Flags are resolved while reading: they hold to the end of the group they are set in.
-/

namespace Excerpt.Regex

/-! ## Repetition counts -/

/-- Digits of a number, the first one being read after `value`; the flags say what may stand between
them.  `fuel` is at least the length of the text. -/
def digitsFrom (f : Flags) : Nat → Option Nat → Text → Option Nat × Text
  | fuel + 1, value, c :: rest =>
    if c.isDigit then
      digitsFrom f fuel (some (10 * value.getD 0 + (c.toNat - '0'.toNat))) (f.skip rest)
    else (value, c :: rest)
  | _, value, t => (value, t)

/-- Digits of a count, with white space around them.  A count has a value only if it has digits and
fits into 32 bits. -/
def count (f : Flags) (t : Text) : Option Nat × Text :=
  let t := t.dropWhile Text.isBlank
  let (value, rest) := digitsFrom f t.length none t
  (value.filter (· < Nat.pow 2 32), f.skip (rest.dropWhile Text.isBlank))

/-- The bounds of a repetition, after the opening brace. -/
def bounds (f : Flags) (t : Text) : Except Fault ((Nat × Option Nat) × Text) :=
  match count f (f.skip t) with
  | (some least, '\x7d' :: rest) => .ok ((least, some least), rest)
  | (some least, ',' :: rest) =>
    match f.skip rest with
    | '\x7d' :: rest => .ok ((least, none), rest)
    | rest =>
      match count f rest with
      | (some most, '\x7d' :: rest) =>
        if least ≤ most then .ok ((least, some most), rest) else .error .reversedCount
      | _ => .error .badCount
  | _ => .error .badCount

/-! ## The reader -/

/-- An element that is read. -/
structure Item where
  /-- Its expression; flags that are set on their own have none and cannot be repeated. -/
  expr : Option Expr
  /-- The number of levels in it. -/
  depth : Nat

/-- A branch that is read. -/
structure Branch where
  expr : Expr
  depth : Nat

/-- A group whose closing bracket is not read yet, with what stands before it. -/
structure Frame where
  /-- The number of the capture group, if it is one. -/
  number : Option Nat
  flags : Flags
  branches : List Branch
  items : List Item

/-- What was read so far. -/
structure State where
  flags : Flags
  /-- The elements of the current branch, the last one first. -/
  items : List Item
  /-- The finished branches of the current group, the last one first. -/
  branches : List Branch
  frames : List Frame
  /-- The number of capture groups opened. -/
  groups : Nat
  names : List Text

namespace State

/-- Before the first element. -/
def start (flags : Flags) : State := ⟨flags, [], [], [], 0, []⟩

/-- The current branch. -/
def branch (s : State) : Branch :=
  ⟨.sequence (s.items.reverse.filterMap Item.expr), depthOfParts (s.items.map Item.depth)⟩

/-- The current group as a branch of its own. -/
def body (s : State) : Branch :=
  let branches := (s.branch :: s.branches).reverse
  ⟨.choices (branches.map Branch.expr), depthOfParts (branches.map Branch.depth)⟩

/-- Adds an element. -/
def push (s : State) (e : Expr) (depth : Nat) : State :=
  { s with items := ⟨some e, depth⟩ :: s.items }

/-- The element of a literal character. -/
def char (s : State) (c : Char) : State := s.push (.ofSet (s.flags.close (.single c))) 0

/-- Opens a group. -/
def openGroup (s : State) (number : Option Nat) (flags : Flags) : State :=
  { s with
    flags := flags
    items := []
    branches := []
    frames := ⟨number, s.flags, s.branches, s.items⟩ :: s.frames }

/-- Opens the next capture group. -/
def openCapture (s : State) : State :=
  { s.openGroup (some (s.groups + 1)) s.flags with groups := s.groups + 1 }

/-- Closes the innermost group. -/
def closeGroup (s : State) : Except Fault State :=
  match s.frames with
  | [] => .error .unopenedGroup
  | frame :: frames =>
    let body := s.body
    let e :=
      match frame.number with
      | some n => Expr.group n body.expr
      | none => body.expr
    .ok
      { s with
        flags := frame.flags
        items := ⟨some e, body.depth + 1⟩ :: frame.items
        branches := frame.branches
        frames := frames }

/-- Repeats the last element. -/
def «repeat» (s : State) (least : Nat) (most : Option Nat) (t : Text) :
    Except Fault (State × Text) :=
  match s.items with
  | ⟨some e, depth⟩ :: items =>
    let (often, rest) :=
      match t with
      | '?' :: rest => (s.flags.swapGreed, rest)
      | _ => (!s.flags.swapGreed, t)
    .ok ({ s with items := ⟨some (e.repeated least most often), depth + 1⟩ :: items }, rest)
  | _ => .error .nothingToRepeat

/-- A name character; the first one is a letter or an underscore. -/
def isNameChar (isFirst : Bool) (c : Char) : Bool :=
  c == '_' || Text.isLetter c ||
    (!isFirst && (Text.isNumeral c || c == '.' || c == '[' || c == ']'))

/-- The name of a capture group, after its opening angle bracket. -/
def groupName (s : State) (t : Text) : Except Fault (State × Text) :=
  let name := t.takeWhile (· != '>')
  let valid := isNameChar true (name.headD ' ') && (name.drop 1).all (isNameChar false)
  match t.drop name.length with
  | [] => .error .badGroupName
  | _ :: rest =>
    if name.isEmpty || !valid then .error .badGroupName
    else if s.names.contains name then .error .repeatedGroupName
    else .ok ({ s.openCapture with names := name :: s.names }, rest)

/-- Flag letters up to a colon or a closing bracket, which is answered too. -/
def flagLetters (seen : Text) (negated dangling : Bool) (f : Flags) :
    Text → Except Fault (Flags × Bool × Char × Text)
  | [] => .error .unclosedGroup
  | c :: rest =>
    if c = ':' ∨ c = ')' then
      if dangling then .error .danglingNegation else .ok (f, seen.isEmpty, c, rest)
    else if c = '-' then
      if negated then .error .repeatedFlag else flagLetters seen true true f rest
    else
      match f.set? (!negated) c with
      | none => .error .unknownFlag
      | some f =>
        if seen.contains c then .error .repeatedFlag
        else flagLetters (c :: seen) negated false f rest

/-- The front of a group, after its opening bracket. -/
def group (s : State) (t : Text) : Except Fault (State × Text) :=
  match s.flags.skip t with
  | '?' :: '=' :: _ => .error .lookAround
  | '?' :: '!' :: _ => .error .lookAround
  | '?' :: '<' :: '=' :: _ => .error .lookAround
  | '?' :: '<' :: '!' :: _ => .error .lookAround
  | '?' :: 'P' :: '<' :: rest => s.groupName rest
  | '?' :: '<' :: rest => s.groupName rest
  | '?' :: rest => do
    let (flags, noLetters, terminator, rest) ← flagLetters [] false false s.flags rest
    if terminator = ':' then return (s.openGroup none flags, rest)
    else if noLetters then throw .nothingToRepeat
    else return ({ s with flags := flags, items := ⟨none, 0⟩ :: s.items }, rest)
  | t => .ok (s.openCapture, t)

/-- One element that begins with the character `c`. -/
def element (s : State) (c : Char) (rest : Text) : Except Fault (State × Text) :=
  match c with
  | '(' => s.group rest
  | ')' => do return (← s.closeGroup, rest)
  | '|' => .ok ({ s with items := [], branches := s.branch :: s.branches }, rest)
  | '[' => do
    let (set, depth, rest) ← bracketClass s.flags rest
    return (s.push (.ofSet set) depth, rest)
  | '?' => s.repeat 0 (some 1) rest
  | '*' => s.repeat 0 none rest
  | '+' => s.repeat 1 none rest
  | '\x7b' => do
    let ((least, most), rest) ← bounds s.flags rest
    s.repeat least most (s.flags.skip rest)
  | '\\' => do
    let (atom, rest) ← escape s.flags rest
    match atom with
    | .char c => return (s.char c, rest)
    | .set set => return (s.push (.ofSet set) 0, rest)
    | .place p => return (s.push (.place p) 0, rest)
  | '.' =>
    if s.flags.asciiOnly then .error .notText else .ok (s.push (.ofSet s.flags.dot) 0, rest)
  | '^' => .ok (s.push (.place s.flags.caret) 0, rest)
  | '$' => .ok (s.push (.place s.flags.dollar) 0, rest)
  | c => .ok (s.char c, rest)

/-- The expression, once everything is read. -/
def finish (s : State) : Except Fault Expr :=
  if !s.frames.isEmpty then .error .unclosedGroup
  else if depthLimit < s.body.depth then .error .tooDeep
  else .ok s.body.expr

/-- Reads the rest of a pattern.  Every round reads at least one character; `fuel` is above the
length of the text. -/
def readAll : Nat → State → Text → Except Fault Expr
  | 0, s, _ => s.finish
  | fuel + 1, s, t =>
    match s.flags.skip t with
    | [] => s.finish
    | c :: rest => do
      let (s, rest) ← s.element c rest
      readAll fuel s rest

end State

/-- The expression that a text writes under given flags. -/
def parse (flags : Flags) (pattern : Text) : Except Fault Expr :=
  State.readAll (pattern.length + 1) (.start flags) pattern

end Excerpt.Regex
