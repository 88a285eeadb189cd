import Excerpt.Regex.Search
import Mathlib.Data.List.TakeWhile

/-!
# Visits at one place

How a search leads its threads on at one place (`Program.follow`) depends on the visits only as far
as they were made at this very place.

* `follow_step` : one step from an instruction that was not visited here; `leads` says what it does.
* `follow_alike` : visits that agree on this place lead to the same threads.
* `follow_before` : no visit is dated later than the place, so at the next place none has been made
  (`enter_eq`).
* `advance_of_reads`, `run_cons` and `run_of_accepts` : how the search goes on from one place to
  the next.
-/

namespace Excerpt.Regex.Program

variable {program : Program} {spot : Spot} {t : Thread} {stack waiting : List Thread}

/-! ## One step -/

/-- Where a thread goes from its instruction: the threads to be led on, and those that wait. -/
def leads (program : Program) (spot : Spot) (t : Thread) : List Thread × List Thread :=
  match program[t.index]? with
  | some (.check p) => (if p.holds spot then [t.next] else [], [])
  | some (.mark m) => ([{ t.next with marks := (m, spot.position) :: t.marks }], [])
  | some (.jump target) => ([t.go target], [])
  | some (.split first second) => ([t.go first, t.go second], [])
  | some (.read _) | some .accept => ([], [t])
  | none => ([], [])

theorem follow_visited {visits : Visits} (fuel : Nat)
    (h : visits[t.index]? = some (spot.position + 1)) :
    follow program spot (fuel + 1) (t :: stack) waiting visits =
      follow program spot fuel stack waiting visits := by
  rw [follow, if_pos (beq_iff_eq.2 h)]

theorem follow_step {visits : Visits} (fuel : Nat)
    (h : visits[t.index]? ≠ some (spot.position + 1)) :
    follow program spot (fuel + 1) (t :: stack) waiting visits =
      follow program spot fuel ((leads program spot t).1 ++ stack)
        ((leads program spot t).2 ++ waiting)
        (visits.setIfInBounds t.index (spot.position + 1)) := by
  rw [follow, if_neg fun hvisited => h (beq_iff_eq.1 hvisited), leads]
  cases program[t.index]? with
  | none => rfl
  | some instruction =>
    cases instruction with
    | check p =>
      dsimp only
      cases p.holds spot <;> rfl
    | read _ | mark _ | jump _ | split _ _ | accept => rfl

/-! ## Visits that agree -/

/-- The same instructions were visited at a position. -/
structure Visits.Alike (position : Nat) (a b : Visits) : Prop where
  size_eq : a.size = b.size
  visited_iff : ∀ i : Nat, a[i]? = some (position + 1) ↔ b[i]? = some (position + 1)

theorem Visits.Alike.visit {position : Nat} {a b : Visits} (h : Alike position a b) (i : Nat) :
    Alike position (a.setIfInBounds i (position + 1)) (b.setIfInBounds i (position + 1)) where
  size_eq := by rw [Array.size_setIfInBounds, Array.size_setIfInBounds, h.size_eq]
  visited_iff j := by
    rw [Array.getElem?_setIfInBounds, Array.getElem?_setIfInBounds, h.size_eq]
    split
    · rfl
    · exact h.visited_iff j

theorem follow_alike (fuel : Nat) {a b : Visits} (h : Visits.Alike spot.position a b) :
    (follow program spot fuel stack waiting a).1 =
      (follow program spot fuel stack waiting b).1 := by
  induction fuel generalizing stack waiting a b with
  | zero => rfl
  | succ fuel ih =>
    cases stack with
    | nil => rfl
    | cons t stack =>
      by_cases hvisited : a[t.index]? = some (spot.position + 1)
      · rw [follow_visited fuel hvisited, follow_visited fuel ((h.visited_iff _).1 hvisited), ih h]
      · have hother := fun hb => hvisited ((h.visited_iff t.index).2 hb)
        rw [follow_step fuel hvisited, follow_step fuel hother, ih (h.visit t.index)]

/-! ## Visits before a place -/

/-- There is an entry for each instruction, and each visit was made before the place with a
position. -/
structure Visits.Before (program : Program) (position : Nat) (visits : Visits) : Prop where
  size_eq : visits.size = program.size
  le : ∀ (i v : Nat), visits[i]? = some v → v ≤ position

theorem Visits.Before.mono {first last : Nat} {visits : Visits}
    (h : Visits.Before program first visits) (hle : first ≤ last) :
    Visits.Before program last visits :=
  ⟨h.size_eq, fun i v hv => Nat.le_trans (h.le i v hv) hle⟩

theorem Visits.before_replicate (program : Program) (position : Nat) :
    Visits.Before program position (Array.replicate program.size 0) where
  size_eq := Array.size_replicate
  le i v hv := by
    rw [Array.getElem?_replicate] at hv
    split at hv
    · cases hv
      exact Nat.zero_le position
    · cases hv

theorem follow_before (fuel : Nat) {visits : Visits}
    (h : Visits.Before program (spot.position + 1) visits) :
    Visits.Before program (spot.position + 1)
      (follow program spot fuel stack waiting visits).2 := by
  induction fuel generalizing stack waiting visits with
  | zero => exact h
  | succ fuel ih =>
    cases stack with
    | nil => exact h
    | cons t stack =>
      by_cases hvisited : visits[t.index]? = some (spot.position + 1)
      · rw [follow_visited fuel hvisited]
        exact ih h
      · rw [follow_step fuel hvisited]
        refine ih ⟨by rw [Array.size_setIfInBounds, h.size_eq], fun i v hv => ?_⟩
        rw [Array.getElem?_setIfInBounds] at hv
        split at hv
        · split at hv
          · cases hv
            exact Nat.le_refl _
          · cases hv
        · exact h.le i v hv

/-- Before a place that is entered for the first time it does not matter which visits were made. -/
theorem enter_eq {visits : Visits} (t : Thread)
    (h : Visits.Before program spot.position visits) :
    (program.enter spot t [] visits).1 =
      (program.enter spot t [] (Array.replicate program.size 0)).1 := by
  have hnone : ∀ {v : Visits}, Visits.Before program spot.position v →
      ∀ i : Nat, v[i]? ≠ some (spot.position + 1) :=
    fun hv i hvisited => Nat.not_succ_le_self _ (hv.le i _ hvisited)
  have hreplicate := Visits.before_replicate program spot.position
  exact follow_alike _
    ⟨h.size_eq.trans hreplicate.size_eq.symm,
      fun i => iff_of_false (hnone h i) (hnone hreplicate i)⟩

theorem enter_before {visits : Visits} (t : Thread)
    (h : Visits.Before program spot.position visits) :
    Visits.Before program (spot.position + 1) (program.enter spot t [] visits).2 :=
  follow_before _ (h.mono (Nat.le_succ _))

/-! ## To the next place -/

section Advance

variable {c : Char} {threads before behind : List Thread} {visits : Visits}

/-- Lets one more thread go on if it can read the character; those gathered so far are in front. -/
def gather (program : Program) (c : Char) (spot : Spot) (gathered : List Thread × Visits)
    (t : Thread) : List Thread × Visits :=
  if program.reads c t then program.enter spot t.next gathered.1 gathered.2 else gathered

theorem advance_eq_foldl (program : Program) (c : Char) (spot : Spot) (threads : List Thread)
    (visits : Visits) :
    program.advance c spot threads visits =
      ((threads.foldl (program.gather c spot) ([], visits)).1.reverse,
        (threads.foldl (program.gather c spot) ([], visits)).2) :=
  rfl

theorem foldl_gather_of_not_reads (h : ∀ t ∈ threads, program.reads c t = false)
    (gathered : List Thread × Visits) :
    threads.foldl (program.gather c spot) gathered = gathered := by
  induction threads with
  | nil => rfl
  | cons t threads ih =>
    have ht : program.gather c spot gathered t = gathered := by
      rw [gather, h t List.mem_cons_self]
      rfl
    rw [List.foldl_cons, ht]
    exact ih fun t' ht' => h t' (List.mem_cons_of_mem t ht')

/-- Threads that cannot read the character are given up. -/
theorem advance_of_not_reads (h : ∀ t ∈ threads, program.reads c t = false) :
    program.advance c spot threads visits = ([], visits) := by
  rw [advance_eq_foldl, foldl_gather_of_not_reads h]
  rfl

/-- If one thread only can read the character, it goes on alone. -/
theorem advance_of_reads (ht : program.reads c t = true)
    (hbefore : ∀ t ∈ before, program.reads c t = false)
    (hbehind : ∀ t ∈ behind, program.reads c t = false) :
    program.advance c spot (before ++ t :: behind) visits =
      ((program.enter spot t.next [] visits).1.reverse,
        (program.enter spot t.next [] visits).2) := by
  rw [advance_eq_foldl, List.foldl_append, foldl_gather_of_not_reads hbefore, List.foldl_cons,
    foldl_gather_of_not_reads hbehind, gather, if_pos ht]

end Advance

section Run

variable {position : Nat} {threads : List Thread} {visits : Visits} {found : Option Found}

theorem run_nil (program : Program) (position : Nat) (visits : Visits) (found : Option Found)
    (text : Text) : program.run position [] visits found text = found := by
  cases text <;> rfl

theorem better_of_not_accepts (h : ∀ t ∈ threads, program.accepts t = false) :
    program.better position threads found = found := by
  have hnone : threads.find? program.accepts = none := by
    rw [List.find?_eq_none]
    intro t ht
    simp [h t ht]
  rw [better, hnone]

/-- Behind a character those threads go on that stand before the first one that accepts. -/
theorem run_cons (c : Char) (rest : Text) :
    program.run position threads visits found (c :: rest) =
      program.run (position + 1)
        (program.advance c ⟨position + 1, some c, rest⟩
          (threads.takeWhile fun t => !program.accepts t) visits).1
        (program.advance c ⟨position + 1, some c, rest⟩
          (threads.takeWhile fun t => !program.accepts t) visits).2
        (program.better position threads found) rest := by
  rw [run]
  cases threads.takeWhile fun t => !program.accepts t with
  | nil => exact (run_nil _ _ _ _ _).symm
  | cons t kept => rfl

/-- As long as no thread accepts, all that can read the character go on. -/
theorem run_cons_of_not_accepts (h : ∀ t ∈ threads, program.accepts t = false) (c : Char)
    (rest : Text) :
    program.run position threads visits found (c :: rest) =
      program.run (position + 1)
        (program.advance c ⟨position + 1, some c, rest⟩ threads visits).1
        (program.advance c ⟨position + 1, some c, rest⟩ threads visits).2 found rest := by
  have hkept : (threads.takeWhile fun t => !program.accepts t) = threads := by
    rw [List.takeWhile_eq_self_iff]
    intro t ht
    simp [h t ht]
  rw [run_cons, better_of_not_accepts h, hkept]

/-- If the preferred thread accepts, the match is found. -/
theorem run_of_accepts (ht : program.accepts t = true) (text : Text) :
    program.run position (t :: threads) visits found text = some ⟨position, t.marks⟩ := by
  have hbetter : program.better position (t :: threads) found = some ⟨position, t.marks⟩ := by
    rw [better, List.find?_cons_of_pos ht]
  cases text with
  | nil => exact hbetter
  | cons c rest =>
    have hkept : (t :: threads).takeWhile (fun t => !program.accepts t) = [] :=
      List.takeWhile_cons_of_neg (by simp [ht])
    rw [run, hbetter, hkept]

end Run

end Excerpt.Regex.Program
