import Excerpt.Regex.Bytes
import Excerpt.Regex.Expr

/-!
# The size of a regular expression

A regular expression may be short and still stand for a very large automaton, so its size has a
limit (`Expr.isTooLarge`).  What counts is the room of two automata over bytes, one that reads
forwards and one that reads backwards.

* `Room` : the states so far and the bytes beyond those that each state takes.  A state is known by
  the number of states before it.
* `Room.addSet` : the states of a set of characters.  States with the same way on are shared as far
  as a table of bounded size remembers them.
* `Room.addTexts` : the states of a choice between texts, which share their fronts.
* `Expr.room` : the states of an expression.
-/

namespace Excerpt.Regex

/-- The states of an automaton and the room that they take. -/
structure Room where
  states : Nat
  /-- Bytes for the ways out of states that have several. -/
  extra : Nat
  deriving DecidableEq, Repr

namespace Room

/-- The room in bytes. -/
def bytes (r : Room) : Nat := 32 * r.states + r.extra

/-- The largest room in bytes that an automaton may take. -/
def limit : Nat := 10 * Nat.pow 2 20

/-- Whether the room is above the limit. -/
def isFull (r : Room) : Bool := limit < r.bytes

/-- More states and more ways out. -/
def add (r : Room) (states extra : Nat) : Room := ⟨r.states + states, r.extra + extra⟩

/-- Adds the same states `count` times, or until the room is full. -/
def times (body : Room → Room) : Nat → Room → Room
  | 0, r => r
  | count + 1, r => if r.isFull then r else times body count (body r)

/-! ## Tables that forget -/

/-- A number that spreads small numbers evenly. -/
def spread (numbers : List Nat) : Nat :=
  (numbers.foldl (fun h n => (h ^^^ n.toUInt64) * 1099511628211)
    (14695981039346656037 : UInt64)).toNat

/-- States by what they do.  There is one entry in each slot, and a later one takes the place of an
earlier one. -/
abbrev Table := Array (Option (List Nat × Nat))

/-- A table without entries. -/
def Table.empty (slots : Nat) : Table := Array.replicate slots none

/-- The state with a key, if the table remembers it. -/
def Table.find? (t : Table) (key : List Nat) : Option Nat :=
  match t[spread key % t.size]? with
  | some (some (known, state)) => if known = key then some state else none
  | _ => none

/-- Remembers a state. -/
def Table.insert (t : Table) (key : List Nat) (state : Nat) : Table :=
  t.setIfInBounds (spread key % t.size) (some (key, state))

/-! ## Sets of characters, forwards -/

/-- A state whose last way out does not lead anywhere yet.  `done` has three numbers for each other
way out: the first and the last byte, and the state it leads to. -/
structure Branching where
  done : List Nat
  pending : Option ByteRange

/-- The ways out of a state when the last one leads to `target`. -/
def Branching.close (b : Branching) (target : Nat) : Branching :=
  match b.pending with
  | some r => ⟨b.done ++ [r.first, r.last, target], none⟩
  | none => b

/-- A set of characters being laid out. -/
structure Layout where
  room : Room
  table : Table
  /-- The state after a character of the set. -/
  target : Nat
  /-- The states on the way of the last sequence, the last one first. -/
  path : List Branching

/-- The state with the given ways out, a known one if possible. -/
def Layout.share (l : Layout) (ways : List Nat) : Nat × Layout :=
  match l.table.find? ways with
  | some state => (state, l)
  | none =>
    let state := l.room.states
    let room := l.room.add 1 (8 * (ways.length / 3))
    (state, { l with room := room, table := l.table.insert ways state })

/-- Finishes the last `count` states of the path; the last way out of the one before leads there. -/
def Layout.finish (next : Nat) : Nat → Layout → Layout
  | count + 1, l =>
    match l.path with
    | [] => l
    | b :: path =>
      let (next, l) := { l with path := path }.share (b.close next).done
      finish next count l
  | 0, l =>
    match l.path with
    | [] => l
    | b :: path => { l with path := b.close next :: path }

/-- How many byte ranges a sequence has in common with the path, which is given from its start. -/
def sharedFront : List ByteRange → List Branching → Nat
  | r :: ranges, b :: path => if b.pending = some r then sharedFront ranges path + 1 else 0
  | _, _ => 0

/-- Adds the sequence of a character's bytes. -/
def Layout.add (l : Layout) (ranges : List ByteRange) : Layout :=
  let shared := sharedFront ranges l.path.reverse
  let l := l.finish l.target (l.path.length - (shared + 1))
  match l.path, ranges.drop shared with
  | b :: path, r :: rest =>
    let path := { b with pending := some r } :: path
    { l with path := rest.foldl (fun path r => ⟨[], some r⟩ :: path) path }
  | _, _ => l

/-- Adds the states of a set, reading forwards. -/
def addSetForwards (r : Room) (set : CharSet) : Room :=
  let start : Layout := ⟨r.add 1 0, .empty 10000, r.states, [⟨[], none⟩]⟩
  let l := (bytesOfRanges set.ranges).foldl Layout.add start
  let l := l.finish l.target (l.path.length - 1)
  match l.path with
  | [root] => (l.share root.done).2.room
  | _ => l.room

/-! ## Sets of characters, backwards -/

/-- Adds the states of a sequence of bytes, of which the first one is read last. -/
def sequenceBackwards (target : Nat) (start : Room × Table) (ranges : List ByteRange) :
    Room × Table :=
  let (room, table, _) :=
    ranges.foldl
      (fun (room, table, state) r =>
        let key := [state, r.first, r.last]
        match table.find? key with
        | some known => (room, table, known)
        | none => (room.add 1 0, table.insert key room.states, room.states))
      (start.1, start.2, target)
  (room.add 0 4, table)

/-- Adds the states of a set, reading backwards. -/
def addSetBackwards (r : Room) (set : CharSet) : Room :=
  ((bytesOfRanges set.ranges).foldl (sequenceBackwards (r.states + 1))
    (r.add 2 0, .empty 1000)).1

/-- Adds the states of a set.  A set of ASCII characters needs only one state with a way out for
each range, and a state behind it. -/
def addSet (r : Room) (backwards : Bool) (set : CharSet) : Room :=
  if set.isAscii then r.add 2 (8 * set.ranges.length)
  else if backwards then r.addSetBackwards set
  else r.addSetForwards set

/-! ## Choices between texts -/

/-- The texts between ends of texts: a text that ends here divides those before it from those behind
it.  Of ends before all other texts only one counts. -/
def segments (texts : List (List Nat)) : List (List (List Nat)) :=
  let rest := texts.dropWhile List.isEmpty
  let marked := if rest.length < texts.length then [] :: rest else rest
  marked.foldr
    (fun text segments =>
      match text, segments with
      | [], _ => [] :: segments
      | _, [] => [[text]]
      | _, segment :: others => (text :: segment) :: others)
    [[]]

/-- Texts by their first bytes, without them. -/
def byFirst (texts : List (List Nat)) : List (Nat × List (List Nat)) :=
  texts.foldl
    (fun groups text =>
      match text with
      | [] => groups
      | b :: rest =>
        if groups.any fun g => g.1 == b then
          groups.map fun g => if g.1 = b then (b, g.2 ++ [rest]) else g
        else groups ++ [(b, [rest])])
    []

/-- Adds the states of texts that begin here, given as bytes.  `fuel` is above the length of each
text. -/
def addTextsFrom : Nat → List (List Nat) → Room → Room
  | 0, _, r => r
  | fuel + 1, texts, r =>
    let parts := segments texts
    let reading := parts.filter fun part => !part.isEmpty
    reading.foldl
      (fun r part =>
        let groups := byFirst part
        let r := r.add 1 (if groups.length < 2 then 0 else 8 * groups.length)
        groups.foldl
          (fun r g => if g.2.all List.isEmpty then r else addTextsFrom fuel g.2 r) r)
      (r.add 1 (4 * (reading.length + (parts.length - 1))))

/-- Adds the states of a choice between texts, and one behind it. -/
def addTexts (r : Room) (backwards : Bool) (texts : List Text) : Room :=
  let texts := texts.map fun t => if backwards then (textBytes t).reverse else textBytes t
  let longest := texts.foldl (fun n t => max n t.length) 0
  addTextsFrom (longest + 1) texts (r.add 1 0)

end Room

/-! ## Expressions -/

/-- Where a branch stands in a choice. -/
inductive Turn where
  /-- It is no branch behind another one. -/
  | first
  | second
  | later

/-- Adds the ways to a branch and from it; the two states around a choice come after its first two
branches. -/
def Turn.close : Turn → Room → Room
  | first, r => r
  | second, r => r.add 2 4
  | later, r => r.add 0 4

namespace Expr

/-- The text of an expression that is only a text. -/
def text? : Expr → Option Text
  | literal t => some t
  | _ => none

/-- Adds the states of an expression. -/
def room (backwards : Bool) : Expr → Turn → Room → Room
  | empty, turn, r => turn.close (r.add 1 0)
  | literal t, turn, r => turn.close (r.add (Text.byteLength t) 0)
  | one set, turn, r => turn.close (r.addSet backwards set)
  | place _, turn, r => turn.close (r.add 1 0)
  | seq a b, turn, r =>
    turn.close
      (if backwards then a.room backwards .first (b.room backwards .first r)
      else b.room backwards .first (a.room backwards .first r))
  | choice a b, .first, r =>
    match (a :: b.branches).mapM text? with
    | some texts => r.addTexts backwards texts
    | none => b.room backwards .second ((a.room backwards .first r).add 0 4)
  | choice a b, turn, r => b.room backwards .later (turn.close (a.room backwards .first r))
  | «repeat» a 0 (some 1) _, turn, r =>
    turn.close ((a.room backwards .first (r.add 1 0)).add 1 8)
  | «repeat» a least (some most) _, turn, r =>
    let r := if least = 0 then r.add 1 0 else r.times (a.room backwards .first) least
    let option := fun r => (a.room backwards .first (Room.add r 1 0)).add 0 8
    turn.close (if most ≤ least then r else (r.add 1 0).times option (most - least))
  | «repeat» a 0 none _, turn, r =>
    turn.close
      (if a.neverEmpty then (a.room backwards .first (r.add 1 0)).add 0 8
      else (a.room backwards .first r).add 3 16)
  | «repeat» a least none _, turn, r =>
    turn.close ((r.times (a.room backwards .first) least).add 1 8)
  | group _ a, turn, r =>
    turn.close
      (if backwards then a.room backwards .first r
      else (a.room backwards .first (r.add 1 0)).add 1 0)

/-- Whether every match begins at the start of the text. -/
def beginsAtStart : Expr → Bool
  | place p => p == .textStart
  | seq a b => a.beginsAtStart || (a.isAlwaysEmpty && b.beginsAtStart)
  | choice a b => a.beginsAtStart && b.beginsAtStart
  | «repeat» a least _ _ => least != 0 && a.beginsAtStart
  | group _ a => a.beginsAtStart
  | empty | literal _ | one _ => false

/-- Whether every match ends at the end of the text. -/
def endsAtEnd : Expr → Bool
  | place p => p == .textEnd
  | seq a b => b.endsAtEnd || (b.isAlwaysEmpty && a.endsAtEnd)
  | choice a b => a.endsAtEnd && b.endsAtEnd
  | «repeat» a least _ _ => least != 0 && a.endsAtEnd
  | group _ a => a.endsAtEnd
  | empty | literal _ | one _ => false

/-- The automaton that reads forwards.  It may skip what is before a match, and it remembers where
the match begins and ends. -/
def forwards (e : Expr) : Room :=
  let start : Room := if e.beginsAtStart then ⟨1, 0⟩ else ⟨3, 16⟩
  (e.room false .first (start.add 1 0)).add 2 0

/-- The automaton that reads backwards. -/
def backwards (e : Expr) : Room :=
  let start : Room := if e.endsAtEnd then ⟨1, 0⟩ else ⟨3, 16⟩
  (e.room true .first start).add 1 0

/-- Whether one of the two automata takes more room than is allowed. -/
def isTooLarge (e : Expr) : Bool := e.forwards.isFull || e.backwards.isFull

end Expr

end Excerpt.Regex
