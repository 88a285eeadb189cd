import Excerpt.Regex.Expr

/-!
# Programs

A regular expression as a list of instructions for a search that follows several ways through them
at once.  An instruction that does not say otherwise is followed by the next one, so the
instructions of an expression end where those behind it begin.

* `Expr.emit` : appends the instructions of an expression to a program.
* `size_emit` : it appends `Expr.width` of them.
-/

namespace Excerpt.Regex

/-- What is remembered of a capture group. -/
inductive Mark where
  /-- The place where the group with this number begins. -/
  | opened (number : Nat)
  /-- The place where it ends. -/
  | closed (number : Nat)
  deriving DecidableEq, Repr

/-- One step of a search. -/
inductive Instruction where
  /-- Reads one character of a set. -/
  | read (set : CharSet)
  /-- Goes on if a condition holds of the place. -/
  | check (p : Place)
  /-- Remembers the place. -/
  | mark (m : Mark)
  | jump (target : Nat)
  /-- Goes on in two ways, the first one preferred. -/
  | split (first second : Nat)
  /-- The expression has matched. -/
  | accept
  deriving DecidableEq, Repr

/-- Instructions, each known by its place in the list. -/
abbrev Program := Array Instruction

/-- Goes on with one more round of a repetition, or stops; `greedy` prefers the round. -/
def Instruction.fork (greedy : Bool) (more stop : Nat) : Instruction :=
  if greedy then .split more stop else .split stop more

namespace Program

/-- Appends instructions several times. -/
def emitTimes (body : Program → Program) : Nat → Program → Program
  | 0, p => p
  | count + 1, p => emitTimes body count (body p)

/-- Appends instructions up to `count` times, each time behind a way to the place `stop`. -/
def emitUpTo (body : Program → Program) (greedy : Bool) (stop : Nat) : Nat → Program → Program
  | 0, p => p
  | count + 1, p =>
    emitUpTo body greedy stop count (body (p.push (.fork greedy (p.size + 1) stop)))

/-- Appends instructions with a way back to their start. -/
def emitLoop (body : Program → Program) (greedy : Bool) (p : Program) : Program :=
  let q := body p
  q.push (.fork greedy p.size (q.size + 1))

theorem size_emitTimes {body : Program → Program} {width : Nat}
    (grows : ∀ p, (body p).size = p.size + width) (count : Nat) (p : Program) :
    (emitTimes body count p).size = p.size + count * width := by
  induction count generalizing p with
  | zero => simp [emitTimes]
  | succ count ih => rw [emitTimes, ih, grows, Nat.succ_mul]; omega

theorem size_emitUpTo {body : Program → Program} {width : Nat}
    (grows : ∀ p, (body p).size = p.size + width) (greedy : Bool) (stop count : Nat)
    (p : Program) :
    (emitUpTo body greedy stop count p).size = p.size + count * (width + 1) := by
  induction count generalizing p with
  | zero => simp [emitUpTo]
  | succ count ih => rw [emitUpTo, ih, grows, Array.size_push, Nat.succ_mul]; omega

theorem size_emitLoop {body : Program → Program} {width : Nat}
    (grows : ∀ p, (body p).size = p.size + width) (greedy : Bool) (p : Program) :
    (emitLoop body greedy p).size = p.size + width + 1 := by
  simp [emitLoop, grows]

end Program

namespace Expr

open Program

/-- The number of instructions of an expression. -/
def width : Expr → Nat
  | empty => 0
  | literal text => text.length
  | one _ | place _ => 1
  | seq a b => a.width + b.width
  | choice a b => a.width + b.width + 2
  | «repeat» a least (some most) _ => least * a.width + (most - least) * (a.width + 1)
  | «repeat» a 0 none _ => a.width + 2
  | «repeat» a (least + 1) none _ => least * a.width + a.width + 1
  | group _ a => a.width + 2

/-- Appends the instructions of an expression to a program.  A repetition without bounds comes back
to its first instruction if each round reads something, and to an instruction of its own behind the
round if a round may be empty. -/
def emit : Expr → Program → Program
  | empty, p => p
  | literal text, p => text.foldl (fun p c => p.push (.read (.single c))) p
  | one set, p => p.push (.read set)
  | place condition, p => p.push (.check condition)
  | seq a b, p => b.emit (a.emit p)
  | choice a b, p =>
    let second := p.size + a.width + 2
    let p := a.emit (p.push (.split (p.size + 1) second))
    b.emit (p.push (.jump (second + b.width)))
  | «repeat» a least (some most) greedy, p =>
    let p := emitTimes a.emit least p
    emitUpTo a.emit greedy (p.size + (most - least) * (a.width + 1)) (most - least) p
  | «repeat» a 0 none greedy, p =>
    let entered := p.push (.fork greedy (p.size + 1) (p.size + a.width + 2))
    if a.neverEmpty then (a.emit entered).push (.jump p.size) else emitLoop a.emit greedy entered
  | «repeat» a (least + 1) none greedy, p => emitLoop a.emit greedy (emitTimes a.emit least p)
  | group number a, p => (a.emit (p.push (.mark (.opened number)))).push (.mark (.closed number))

theorem size_emit (e : Expr) (p : Program) : (e.emit p).size = p.size + e.width := by
  fun_induction width e generalizing p with
  | case1 => simp [emit]
  | case2 text => simp [emit]
  | case3 => simp [emit]
  | case4 => simp [emit]
  | case5 a b iha ihb => simp [emit, iha, ihb]; omega
  | case6 a b iha ihb => simp [emit, iha, ihb]; omega
  | case7 a least most greedy ih =>
    rw [emit, size_emitUpTo ih, size_emitTimes ih]; omega
  | case8 a greedy ih =>
    simp only [emit]
    split
    · simp [ih]; omega
    · rw [size_emitLoop ih, Array.size_push]; omega
  | case9 a least greedy ih => rw [emit, size_emitLoop ih, size_emitTimes ih]; omega
  | case10 number a ih => simp [emit, ih]; omega

/-- The program of an expression. -/
def program (e : Expr) : Program := (e.emit #[]).push .accept

end Expr

end Excerpt.Regex
