import Excerpt.Regex.Size
import Mathlib.Algebra.Ring.Nat
import Mathlib.Tactic.SplitIfs

/-!
# How large a regular expression can be

The states of a set are laid out with a table that shares states with the same ways on, so the room
depends on which of them the table still knows.  Without the table it could only be larger, and the
bytes of the set's sequences bound it even then (`bytes_addSet_le`).

`Expr.AtMost` bounds an expression by its parts, so that an expression need not be laid out to see
that it is not too large (`Expr.isTooLarge_eq_false`).

Reading forwards, a state takes room when it leaves the path, but it gets its ways out before.
`Layout.load` counts the states of the path as if they had left it, so that a step raises it by what
the step adds to the path.
-/

namespace Excerpt.Regex

namespace Room

@[simp] theorem bytes_add (r : Room) (states extra : Nat) :
    (r.add states extra).bytes = r.bytes + (32 * states + extra) := by
  simp only [bytes, add]
  omega

/-- The most bytes that the states of a sequence take, and those that it adds to other states. -/
def sequenceLoad (ranges : List ByteRange) : Nat := 40 * ranges.length + 8

/-- The most bytes that the states of a set take. -/
def setLoad (set : CharSet) : Nat :=
  ((bytesOfRanges set.ranges).map sequenceLoad).sum + 80

/-! ## Forwards -/

/-- The most bytes that a state takes once its last way out leads somewhere. -/
def Branching.load (b : Branching) : Nat := 8 * ((b.done.length + 3) / 3) + 32

theorem Branching.load_close_le (b : Branching) (target : Nat) :
    (b.close target).load ≤ b.load + 8 := by
  rw [close]
  split
  · simp only [load, List.length_append, List.length_cons, List.length_nil]
    omega
  · exact Nat.le_add_right _ _

theorem Branching.room_close_le (b : Branching) (target : Nat) :
    8 * ((b.close target).done.length / 3) + 32 ≤ b.load := by
  rw [close, load]
  split
  · simp only [List.length_append, List.length_cons, List.length_nil]
    omega
  · omega

namespace Layout

/-- The bytes so far and those of the states on the path. -/
def load (l : Layout) : Nat := l.room.bytes + (l.path.map Branching.load).sum

theorem share_path (l : Layout) (ways : List Nat) : (l.share ways).2.path = l.path := by
  rw [share]
  split <;> rfl

theorem bytes_share_le (l : Layout) (ways : List Nat) :
    (l.share ways).2.room.bytes ≤ l.room.bytes + (8 * (ways.length / 3) + 32) := by
  rw [share]
  split
  · exact Nat.le_add_right _ _
  · rw [bytes_add]
    omega

theorem load_finish_le (next count : Nat) (l : Layout) :
    (l.finish next count).load ≤ l.load + 8 := by
  induction count generalizing next l with
  | zero =>
    rw [finish]
    split
    · exact Nat.le_add_right _ _
    · next b path hpath =>
      have hclose := b.load_close_le next
      simp only [load, hpath, List.map_cons, List.sum_cons]
      omega
  | succ count ih =>
    rw [finish]
    split
    · exact Nat.le_add_right _ _
    · next b path hpath =>
      have hroom := b.room_close_le next
      have hbytes : _ ≤ l.room.bytes + _ :=
        bytes_share_le { l with path := path } (b.close next).done
      have hload : (share { l with path := path } (b.close next).done).2.load ≤ l.load := by
        simp only [load, share_path, hpath, List.map_cons, List.sum_cons]
        omega
      exact Nat.le_trans (ih _ _) (Nat.add_le_add_right hload 8)

theorem load_add_le (l : Layout) (ranges : List ByteRange) :
    (l.add ranges).load ≤ l.load + sequenceLoad ranges := by
  have hpush : ∀ (rest : List ByteRange) (path : List Branching),
      ((rest.foldl (fun path r => ⟨[], some r⟩ :: path) path).map Branching.load).sum =
        40 * rest.length + (path.map Branching.load).sum := by
    intro rest
    induction rest with
    | nil => simp
    | cons r rest ih =>
      intro path
      rw [List.foldl_cons, ih]
      simp only [List.map_cons, List.sum_cons, List.length_cons, Branching.load, List.length_nil]
      omega
  rw [add]
  generalize sharedFront ranges l.path.reverse = shared
  have hfinish := l.load_finish_le l.target (l.path.length - (shared + 1))
  have hdrop : (ranges.drop shared).length = ranges.length - shared := List.length_drop
  dsimp only
  generalize l.finish l.target (l.path.length - (shared + 1)) = l' at hfinish ⊢
  split
  · next b path r rest hpath hrest =>
    rw [hrest, List.length_cons] at hdrop
    simp only [load, hpath, hpush, sequenceLoad, List.map_cons, List.sum_cons,
      Branching.load] at hfinish ⊢
    omega
  · rw [sequenceLoad]
    omega

theorem load_foldl_add_le (sequences : List (List ByteRange)) (l : Layout) :
    (sequences.foldl add l).load ≤ l.load + (sequences.map sequenceLoad).sum := by
  induction sequences generalizing l with
  | nil => exact Nat.le_refl _
  | cons ranges sequences ih =>
    have hadd := l.load_add_le ranges
    have hrest := ih (l.add ranges)
    rw [List.foldl_cons, List.map_cons, List.sum_cons]
    omega

end Layout

theorem bytes_addSetForwards_le (r : Room) (set : CharSet) :
    (r.addSetForwards set).bytes ≤ r.bytes + setLoad set := by
  have hstart : Layout.load ⟨r.add 1 0, .empty 10000, r.states, [⟨[], none⟩]⟩ = r.bytes + 72 := by
    simp [Layout.load, Branching.load, Nat.add_assoc]
  have hfold := Layout.load_foldl_add_le (bytesOfRanges set.ranges)
    ⟨r.add 1 0, .empty 10000, r.states, [⟨[], none⟩]⟩
  rw [addSetForwards, setLoad]
  generalize (bytesOfRanges set.ranges).foldl Layout.add _ = l at hfold ⊢
  have hfinish := l.load_finish_le l.target (l.path.length - 1)
  generalize l.finish l.target (l.path.length - 1) = l' at hfinish ⊢
  split
  · next root hpath =>
    have hshare := l'.bytes_share_le root.done
    simp only [Layout.load, Branching.load, hpath, List.map_cons, List.map_nil, List.sum_cons,
      List.sum_nil] at hstart hfold hfinish
    omega
  · rw [Layout.load] at hfinish
    omega

/-! ## Backwards -/

theorem bytes_sequenceBackwards_le (target : Nat) (start : Room × Table)
    (ranges : List ByteRange) :
    (sequenceBackwards target start ranges).1.bytes ≤ start.1.bytes + sequenceLoad ranges := by
  unfold sequenceBackwards
  -- Any function will do, and one that is not known is not computed.
  obtain ⟨find, hfind⟩ : ∃ find, find = Table.find? := ⟨_, rfl⟩
  rw [← hfind, bytes_add]
  generalize hstep : (fun (x : Room × Table × Nat) (r : ByteRange) => _) = step
  have hread : ∀ x r, (step x r).1.bytes ≤ x.1.bytes + 32 := by
    rintro ⟨room, table, state⟩ r
    rw [← hstep]
    dsimp only
    split
    · exact Nat.le_add_right _ _
    · simp
  have hfold : ∀ x, (ranges.foldl step x).1.bytes ≤ x.1.bytes + 32 * ranges.length := by
    induction ranges with
    | nil => exact fun x => Nat.le_add_right _ _
    | cons r ranges ih =>
      intro x
      have hfirst := hread x r
      have hrest := ih (step x r)
      rw [List.foldl_cons, List.length_cons]
      omega
  have hall : _ ≤ start.1.bytes + _ := hfold (start.1, start.2, target)
  rw [sequenceLoad]
  omega

theorem bytes_addSetBackwards_le (r : Room) (set : CharSet) :
    (r.addSetBackwards set).bytes ≤ r.bytes + setLoad set := by
  have hfold : ∀ (sequences : List (List ByteRange)) (start : Room × Table),
      (sequences.foldl (sequenceBackwards (r.states + 1)) start).1.bytes ≤
        start.1.bytes + (sequences.map sequenceLoad).sum := by
    intro sequences
    induction sequences with
    | nil => exact fun start => Nat.le_refl _
    | cons ranges sequences ih =>
      intro start
      have hsequence := bytes_sequenceBackwards_le (r.states + 1) start ranges
      have hrest := ih (sequenceBackwards (r.states + 1) start ranges)
      rw [List.foldl_cons, List.map_cons, List.sum_cons]
      omega
  have hset := hfold (bytesOfRanges set.ranges) (r.add 2 0, .empty 1000)
  rw [bytes_add] at hset
  rw [addSetBackwards, setLoad]
  omega

/-- A set takes room for its sequences, or for its ranges if they are bytes. -/
theorem bytes_addSet_le (r : Room) (backwards : Bool) (set : CharSet) :
    (r.addSet backwards set).bytes ≤ r.bytes + (setLoad set + 8 * set.ranges.length) := by
  have hforwards := bytes_addSetForwards_le r set
  have hbackwards := bytes_addSetBackwards_le r set
  rw [addSet]
  split_ifs
  · rw [bytes_add, setLoad]
    omega
  · omega
  · omega

end Room

/-! ## Expressions -/

theorem Turn.bytes_close_le (turn : Turn) (r : Room) : (turn.close r).bytes ≤ r.bytes + 68 := by
  cases turn <;> simp [close]

namespace Expr

/-- The expression adds at most so many bytes, wherever it stands. -/
def AtMost (e : Expr) (bytes : Nat) : Prop :=
  ∀ backwards turn r, (e.room backwards turn r).bytes ≤ r.bytes + bytes

variable {a b : Expr} {m n : Nat}

theorem atMost_literal (t : Text) : (literal t).AtMost (32 * Text.byteLength t + 68) := by
  intro backwards turn r
  have hclose := turn.bytes_close_le (r.add (Text.byteLength t) 0)
  rw [Room.bytes_add] at hclose
  rw [room]
  omega

theorem atMost_one (set : CharSet) :
    (one set).AtMost (Room.setLoad set + 8 * set.ranges.length + 68) := by
  intro backwards turn r
  have hclose := turn.bytes_close_le (r.addSet backwards set)
  have hset := r.bytes_addSet_le backwards set
  rw [room]
  omega

theorem atMost_place (p : Place) : (place p).AtMost 100 := by
  intro backwards turn r
  have hclose := turn.bytes_close_le (r.add 1 0)
  rw [Room.bytes_add] at hclose
  rw [room]
  omega

theorem AtMost.seq (ha : a.AtMost m) (hb : b.AtMost n) : (seq a b).AtMost (m + n + 68) := by
  intro backwards turn r
  rw [room]
  split_ifs
  · have hclose := turn.bytes_close_le (a.room backwards .first (b.room backwards .first r))
    have hfirst := hb backwards .first r
    have hsecond := ha backwards .first (b.room backwards .first r)
    omega
  · have hclose := turn.bytes_close_le (b.room backwards .first (a.room backwards .first r))
    have hfirst := ha backwards .first r
    have hsecond := hb backwards .first (a.room backwards .first r)
    omega

/-- A choice that is not one between texts. -/
theorem AtMost.choice (htexts : (a :: b.branches).mapM text? = none) (ha : a.AtMost m)
    (hb : b.AtMost n) : (Expr.choice a b).AtMost (m + n + 68) := by
  intro backwards turn r
  have hfirst := ha backwards .first r
  have hlater : ∀ turn : Turn,
      (b.room backwards .later (turn.close (a.room backwards .first r))).bytes ≤
        r.bytes + (m + n + 68) := by
    intro turn
    have hclose := turn.bytes_close_le (a.room backwards .first r)
    have hsecond := hb backwards .later (turn.close (a.room backwards .first r))
    omega
  cases turn with
  | first =>
    have hsecond := hb backwards .second ((a.room backwards .first r).add 0 4)
    rw [Room.bytes_add] at hsecond
    rw [room, htexts]
    dsimp only
    omega
  | second =>
    rw [room]
    · exact hlater .second
    · exact nofun
  | later =>
    rw [room]
    · exact hlater .later
    · exact nofun

theorem AtMost.group (number : Nat) (ha : a.AtMost m) : (group number a).AtMost (m + 132) := by
  intro backwards turn r
  rw [room]
  split_ifs
  · have hclose := turn.bytes_close_le (a.room backwards .first r)
    have hfirst := ha backwards .first r
    omega
  · have hclose := turn.bytes_close_le ((a.room backwards .first (r.add 1 0)).add 1 0)
    have hfirst := ha backwards .first (r.add 1 0)
    simp only [Room.bytes_add] at hclose hfirst
    omega

/-- An expression as often as it matches. -/
theorem AtMost.star (greedy : Bool) (ha : a.AtMost m) :
    («repeat» a 0 none greedy).AtMost (m + 180) := by
  intro backwards turn r
  rw [room]
  split_ifs
  · have hclose := turn.bytes_close_le ((a.room backwards .first (r.add 1 0)).add 0 8)
    have hfirst := ha backwards .first (r.add 1 0)
    simp only [Room.bytes_add] at hclose hfirst
    omega
  · have hclose := turn.bytes_close_le ((a.room backwards .first r).add 3 16)
    have hfirst := ha backwards .first r
    simp only [Room.bytes_add] at hclose hfirst
    omega

theorem isTooLarge_eq_false (ha : a.AtMost m) (hm : m + 208 ≤ Room.limit) :
    a.isTooLarge = false := by
  have hle : ∀ begins : Bool, (if begins then ⟨1, 0⟩ else ⟨3, 16⟩ : Room).bytes ≤ 112 := by
    decide
  have hforwards : a.forwards.isFull = false := by
    rw [Room.isFull, decide_eq_false_iff_not, forwards, Room.bytes_add]
    generalize hbegin : (if a.beginsAtStart then ⟨1, 0⟩ else ⟨3, 16⟩ : Room) = start
    have hroom := ha false .first (start.add 1 0)
    have hstart := hbegin ▸ hle a.beginsAtStart
    rw [Room.bytes_add] at hroom
    omega
  have hbackwards : a.backwards.isFull = false := by
    rw [Room.isFull, decide_eq_false_iff_not, backwards, Room.bytes_add]
    generalize hbegin : (if a.endsAtEnd then ⟨1, 0⟩ else ⟨3, 16⟩ : Room) = start
    have hroom := ha true .first start
    have hstart := hbegin ▸ hle a.endsAtEnd
    omega
  rw [isTooLarge, hforwards, hbackwards]
  rfl

end Expr

end Excerpt.Regex
