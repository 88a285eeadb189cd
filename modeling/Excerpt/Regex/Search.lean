import Excerpt.Regex.Program

/-!
# Matching a regular expression at the front of a text

The search follows all ways through a program at once, character by character.  A `Thread` is one of
them, and the threads at a place are listed with the preferred ones first.

* `follow` leads a thread on to the instructions that read a character.  It stands at an instruction
  only once in each place: a later way there is less preferred and has the same future, so it can
  never be used.  This also ends a repetition of something empty.
* `advance` lets the threads read one character.
* `run` goes on as long as there are threads.  A thread that accepts is the match unless a preferred
  one accepts later, so the threads behind it are given up.
-/

namespace Excerpt.Regex

/-- A way through a program: the next instruction, and the marks on the way, the last one first. -/
structure Thread where
  index : Nat
  marks : List (Mark × Nat)

/-- A thread at another instruction. -/
def Thread.go (t : Thread) (index : Nat) : Thread := { t with index := index }

/-- A thread behind its instruction. -/
def Thread.next (t : Thread) : Thread := t.go (t.index + 1)

/-- A match at the front of a text. -/
structure Found where
  /-- The number of characters. -/
  length : Nat
  /-- Where groups began and ended, the last one first. -/
  marks : List (Mark × Nat)

/-- Where a group began or ended last. -/
def Found.place? (f : Found) (m : Mark) : Option Nat :=
  (f.marks.find? fun entry => entry.1 == m).map Prod.snd

/-- What a group covers in the text; the empty text if it took no part. -/
def Found.group (f : Found) (text : Text) (number : Nat) : Text :=
  match f.place? (.opened number), f.place? (.closed number) with
  | some first, some last => (text.take last).drop first
  | _, _ => []

namespace Program

/-! ## At one place -/

/-- For each instruction, one more than the last position at which a thread stood there. -/
abbrev Visits := Array Nat

/-- Leads threads on to the instructions that read or accept.  `waiting` are the threads there
already, the last one first, and `fuel` is at least the number of steps. -/
def follow (program : Program) (spot : Spot) :
    Nat → List Thread → List Thread → Visits → List Thread × Visits
  | 0, _, waiting, visits => (waiting, visits)
  | _ + 1, [], waiting, visits => (waiting, visits)
  | fuel + 1, t :: rest, waiting, visits =>
    if visits[t.index]? == some (spot.position + 1) then
      follow program spot fuel rest waiting visits
    else
      let visits := visits.setIfInBounds t.index (spot.position + 1)
      match program[t.index]? with
      | some (.check p) =>
        let rest := if p.holds spot then t.next :: rest else rest
        follow program spot fuel rest waiting visits
      | some (.mark m) =>
        let t := { t.next with marks := (m, spot.position) :: t.marks }
        follow program spot fuel (t :: rest) waiting visits
      | some (.jump target) => follow program spot fuel (t.go target :: rest) waiting visits
      | some (.split first second) =>
        follow program spot fuel (t.go first :: t.go second :: rest) waiting visits
      | some (.read _) | some .accept => follow program spot fuel rest (t :: waiting) visits
      | none => follow program spot fuel rest waiting visits

/-- Leads one thread on.  Each instruction adds at most two threads. -/
def enter (program : Program) (spot : Spot) (t : Thread) (waiting : List Thread)
    (visits : Visits) : List Thread × Visits :=
  program.follow spot (2 * program.size + 2) [t] waiting visits

/-! ## From place to place -/

/-- Whether a thread stands where the expression has matched. -/
def accepts (program : Program) (t : Thread) : Bool :=
  match program[t.index]? with
  | some .accept => true
  | _ => false

/-- Whether a thread can read a character. -/
def reads (program : Program) (c : Char) (t : Thread) : Bool :=
  match program[t.index]? with
  | some (.read set) => set.holds c
  | _ => false

/-- Lets threads that can read `c` go on behind it, to the place `spot`. -/
def advance (program : Program) (c : Char) (spot : Spot) (threads : List Thread)
    (visits : Visits) : List Thread × Visits :=
  let (waiting, visits) :=
    threads.foldl
      (fun (waiting, visits) t =>
        if program.reads c t then program.enter spot t.next waiting visits else (waiting, visits))
      ([], visits)
  (waiting.reverse, visits)

/-- The match among the threads at a place, or the one found before. -/
def better (program : Program) (position : Nat) (threads : List Thread) (found : Option Found) :
    Option Found :=
  match threads.find? program.accepts with
  | some t => some ⟨position, t.marks⟩
  | none => found

/-- The preferred match of threads at a place, given the best one found before. -/
def run (program : Program) (position : Nat) (threads : List Thread) (visits : Visits)
    (found : Option Found) : Text → Option Found
  | [] => program.better position threads found
  | c :: rest =>
    let found := program.better position threads found
    match threads.takeWhile fun t => !program.accepts t with
    | [] => found
    | threads =>
      let (threads, visits) := program.advance c ⟨position + 1, some c, rest⟩ threads visits
      program.run (position + 1) threads visits found rest

/-- The preferred match at the front of a text. -/
def matchFront? (program : Program) (text : Text) : Option Found :=
  let (waiting, visits) :=
    program.enter (.start text) ⟨0, []⟩ [] (Array.replicate program.size 0)
  program.run 0 waiting.reverse visits none text

end Program

end Excerpt.Regex
