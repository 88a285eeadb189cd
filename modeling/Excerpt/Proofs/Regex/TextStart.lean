import Excerpt.Proofs.Regex.Visits

/-!
# A check of the start in front of a program

A program may ask first whether a match begins at the start of the text, and go on as another
program then (`Program.behindStart`).

* `Expr.program_anchored` : this is what the start of the text before an expression does to its
  program.
* `matchFront?_behindStart` : at the start of the text, both programs match alike.
* `searchFront?_eq_matchFront?` : a search for the leftmost match that counts only if it begins at
  the start of the text (`searchFront?`) comes to the same.
* `search?_behindStart` : behind the check the search finds no match that begins elsewhere.

The instructions of the program behind the check are one place further (`Instruction.moved`), and
so are the threads; both searches go on in step (`run_behindStart`).  The longer program has more
fuel at a place, which changes nothing as each search has enough (`follow_fuel`).
-/

namespace Excerpt.Regex

/-- An instruction that leads one place further. -/
def Instruction.moved : Instruction → Instruction
  | .jump target => .jump (target + 1)
  | .split first second => .split (first + 1) (second + 1)
  | i => i

theorem Instruction.moved_fork (greedy : Bool) (more stop : Nat) :
    (Instruction.fork greedy more stop).moved = .fork greedy (more + 1) (stop + 1) := by
  cases greedy <;> rfl

/-- A program behind a check of the start of the text. -/
def Program.behindStart (program : Program) : Program :=
  #[.check .textStart] ++ program.map Instruction.moved

namespace Program

variable {program : Program}

@[simp]
theorem size_behindStart (program : Program) : program.behindStart.size = program.size + 1 := by
  rw [behindStart, Array.size_append, Array.size_map, Nat.add_comm]
  rfl

theorem getElem?_behindStart_zero : program.behindStart[0]? = some (.check .textStart) := by
  rw [behindStart, Array.getElem?_append_left (Nat.zero_lt_one)]
  rfl

theorem getElem?_behindStart_succ (i : Nat) :
    program.behindStart[i + 1]? = program[i]?.map Instruction.moved := by
  rw [behindStart, Array.getElem?_append_right (Nat.le_add_left 1 i), Array.getElem?_map]
  rfl

theorem behindStart_push (program : Program) (i : Instruction) :
    behindStart (program.push i) = program.behindStart.push i.moved := by
  rw [behindStart, Array.map_push, Array.append_push, behindStart]

/-! ## The program of an expression behind the check -/

section Emit

variable {body : Program → Program}

theorem emitTimes_behindStart (h : ∀ p, body p.behindStart = (body p).behindStart) (count : Nat)
    (p : Program) : emitTimes body count p.behindStart = (emitTimes body count p).behindStart := by
  induction count generalizing p with
  | zero => rfl
  | succ count ih => rw [emitTimes, h, ih, emitTimes]

theorem emitUpTo_behindStart (h : ∀ p, body p.behindStart = (body p).behindStart) (greedy : Bool)
    (stop count : Nat) (p : Program) :
    emitUpTo body greedy (stop + 1) count p.behindStart =
      (emitUpTo body greedy stop count p).behindStart := by
  induction count generalizing p with
  | zero => rfl
  | succ count ih =>
    rw [emitUpTo, emitUpTo, ← ih, ← h, behindStart_push, Instruction.moved_fork, size_behindStart]

theorem emitLoop_behindStart (h : ∀ p, body p.behindStart = (body p).behindStart) (greedy : Bool)
    (p : Program) : emitLoop body greedy p.behindStart = (emitLoop body greedy p).behindStart := by
  rw [emitLoop, emitLoop, behindStart_push, Instruction.moved_fork, h, size_behindStart,
    size_behindStart]

end Emit

end Program

namespace Expr

open Program

theorem emit_behindStart (e : Expr) (p : Program) :
    e.emit p.behindStart = (e.emit p).behindStart := by
  fun_induction width e generalizing p with
  | case1 => rfl
  | case2 text =>
    rw [emit, emit]
    induction text generalizing p with
    | nil => rfl
    | cons c text ih => rw [List.foldl_cons, List.foldl_cons, ← ih, behindStart_push]; rfl
  | case3 set => rw [emit, emit, behindStart_push]; rfl
  | case4 condition => rw [emit, emit, behindStart_push]; rfl
  | case5 a b iha ihb => rw [emit, emit, iha, ihb]
  | case6 a b iha ihb =>
    simp only [emit, ← ihb, behindStart_push, ← iha, size_behindStart]
    simp only [Instruction.moved, Nat.add_right_comm _ 1]
  | case7 a least most greedy ih =>
    rw [emit, emit, emitTimes_behindStart ih, size_behindStart, Nat.add_right_comm _ 1,
      emitUpTo_behindStart ih]
  | case8 a greedy ih =>
    have hentered : behindStart (p.push (.fork greedy (p.size + 1) (p.size + a.width + 2))) =
        p.behindStart.push
          (.fork greedy (p.behindStart.size + 1) (p.behindStart.size + a.width + 2)) := by
      rw [behindStart_push, Instruction.moved_fork, size_behindStart]
      simp only [Nat.add_right_comm _ 1]
    simp only [emit, ← hentered]
    split
    · rw [ih, behindStart_push, size_behindStart]
      rfl
    · exact emitLoop_behindStart ih greedy _
  | case9 a least greedy ih =>
    rw [emit, emit, emitTimes_behindStart ih, emitLoop_behindStart ih]
  | case10 number a ih => simp only [emit, behindStart_push, ← ih, Instruction.moved]

/-! ## Sequences -/

theorem emit_after (part e : Expr) (p : Program) :
    (after part e).emit p = e.emit (part.emit p) := by
  unfold after
  split
  · rfl
  · split
    · simp only [emit, List.foldl_append]
    · rfl
  · split
    · simp only [emit, List.foldl_append]
    · rfl
  · rfl

theorem emit_parts (e : Expr) (p : Program) :
    e.parts.foldl (fun p part => part.emit p) p = e.emit p := by
  induction e generalizing p with
  | seq a b _ ihb => rw [parts, List.foldl_cons, ihb, emit]
  | empty | literal _ | one _ | place _ | choice _ _ | «repeat» _ _ _ _ | group _ _ => rfl

theorem emit_foldr_after (es : List Expr) (p : Program) :
    (es.foldr after empty).emit p = es.foldl (fun p part => part.emit p) p := by
  induction es generalizing p with
  | nil => rfl
  | cons part es ih => rw [List.foldr_cons, emit_after, ih, List.foldl_cons]

/-- The instructions of a sequence are those of its members. -/
theorem emit_sequence (es : List Expr) (p : Program) :
    (sequence es).emit p = es.foldl (fun p e => e.emit p) p := by
  rw [sequence, emit_foldr_after]
  induction es generalizing p with
  | nil => rfl
  | cons e es ih => rw [List.flatMap_cons, List.foldl_append, emit_parts, ih, List.foldl_cons]

theorem groupCount_after (part e : Expr) :
    (after part e).groupCount = max part.groupCount e.groupCount := by
  unfold after
  split
  · rw [groupCount, Nat.max_zero]
  · split
    · rfl
    · rfl
  · split
    · simp only [groupCount, Nat.zero_max]
    · simp only [groupCount]
  · rfl

theorem groupCount_parts (e : Expr) : (e.parts.foldr after empty).groupCount = e.groupCount := by
  induction e with
  | seq a b _ ihb => rw [parts, List.foldr_cons, groupCount_after, ihb, groupCount]
  | empty => rfl
  | literal _ | one _ | place _ | choice _ _ | «repeat» _ _ _ _ | group _ _ => rfl

/-- An expression behind the start of the text. -/
def anchored (e : Expr) : Expr := sequence [.place .textStart, e]

theorem program_anchored (e : Expr) : e.anchored.program = e.program.behindStart := by
  have hstart : (place .textStart).emit #[] = behindStart #[] := by
    rw [behindStart, Array.map_empty, Array.append_empty]
    rfl
  rw [program, program, behindStart_push, ← emit_behindStart, anchored, emit_sequence]
  simp only [List.foldl_cons, List.foldl_nil, hstart, Instruction.moved]

theorem groupCount_anchored (e : Expr) : e.anchored.groupCount = e.groupCount := by
  have hparts : ([place .textStart, e].flatMap parts).foldr after empty =
      after (place .textStart) (e.parts.foldr after empty) := by
    simp [parts]
  rw [anchored, sequence, hparts, groupCount_after, groupCount_parts, groupCount, Nat.zero_max]

end Expr

/-! ## Searches in step -/

namespace Program

variable {program : Program} {spot : Spot} {stack waiting : List Thread} {visits : Visits}

/-! ### Enough fuel -/

/-- The number of instructions at which no thread has stood at a position yet. -/
def Visits.unvisited (position : Nat) (visits : Visits) : Nat :=
  visits.countP fun v => v != position + 1

theorem leads_length_le (program : Program) (spot : Spot) (t : Thread) :
    (leads program spot t).1.length ≤ 2 := by
  rw [leads]
  split <;> try split
  all_goals simp

/-- A visit pays for the threads that it leads to. -/
theorem leads_length_add_unvisited_le {t : Thread} (hsize : visits.size = program.size)
    (h : visits[t.index]? ≠ some (spot.position + 1)) :
    (leads program spot t).1.length +
        2 * Visits.unvisited spot.position
          (visits.setIfInBounds t.index (spot.position + 1)) ≤
      2 * Visits.unvisited spot.position visits := by
  by_cases hin : t.index < visits.size
  · have hlength := leads_length_le program spot t
    have hnew : (visits[t.index] != spot.position + 1) = true := by
      rw [bne_iff_ne]
      exact fun heq => h (Array.getElem?_eq_some_iff.2 ⟨hin, heq⟩)
    have hpositive : 0 < Visits.unvisited spot.position visits :=
      Array.countP_pos_iff.2 ⟨_, Array.getElem_mem hin, hnew⟩
    have hvisit : Visits.unvisited spot.position
        (visits.setIfInBounds t.index (spot.position + 1)) =
          Visits.unvisited spot.position visits - 1 := by
      rw [Visits.unvisited, Array.setIfInBounds, dif_pos hin, Array.countP_set, if_pos hnew,
        if_neg (by simp), Visits.unvisited, Nat.add_zero]
    omega
  · have hnone : program[t.index]? = none := Array.getElem?_eq_none (by omega)
    rw [leads, hnone, Array.setIfInBounds_eq_of_size_le (by omega)]
    simp

theorem follow_fuel {fuel fuel' : Nat} (hsize : visits.size = program.size)
    (hfuel : stack.length + 2 * Visits.unvisited spot.position visits ≤ fuel)
    (hfuel' : stack.length + 2 * Visits.unvisited spot.position visits ≤ fuel') :
    follow program spot fuel stack waiting visits =
      follow program spot fuel' stack waiting visits := by
  induction fuel generalizing fuel' stack waiting visits with
  | zero =>
    have hnil : stack = [] := List.eq_nil_of_length_eq_zero (by omega)
    rw [hnil]
    cases fuel' <;> rfl
  | succ fuel ih =>
    cases stack with
    | nil => cases fuel' <;> rfl
    | cons t stack =>
      obtain ⟨fuel', rfl⟩ : ∃ n, fuel' = n + 1 := ⟨fuel' - 1, by simp at hfuel'; omega⟩
      by_cases hvisited : visits[t.index]? = some (spot.position + 1)
      · rw [List.length_cons] at hfuel hfuel'
        rw [follow_visited fuel hvisited, follow_visited fuel' hvisited]
        exact ih hsize (by omega) (by omega)
      · have hpaid := leads_length_add_unvisited_le hsize hvisited
        rw [List.length_cons] at hfuel hfuel'
        rw [follow_step fuel hvisited, follow_step fuel' hvisited]
        refine ih (by rw [Array.size_setIfInBounds, hsize]) ?_ ?_ <;>
          (rw [List.length_append]; omega)

/-- What is entered at a place has enough fuel. -/
theorem follow_eq_enter {t : Thread} {fuel : Nat} (hsize : visits.size = program.size)
    (hfuel : 2 * program.size + 2 ≤ fuel) :
    follow program spot fuel [t] waiting visits = program.enter spot t waiting visits := by
  have hunvisited : Visits.unvisited spot.position visits ≤ program.size :=
    hsize ▸ Array.countP_le_size
  rw [enter]
  refine follow_fuel hsize ?_ ?_ <;> (rw [List.length_singleton]; omega)

theorem size_follow (fuel : Nat) :
    (follow program spot fuel stack waiting visits).2.size = visits.size := by
  induction fuel generalizing stack waiting visits with
  | zero => rfl
  | succ fuel ih =>
    cases stack with
    | nil => rfl
    | cons t stack =>
      by_cases hvisited : visits[t.index]? = some (spot.position + 1)
      · rw [follow_visited fuel hvisited, ih]
      · rw [follow_step fuel hvisited, ih, Array.size_setIfInBounds]

/-! ### One place further -/

theorem getElem?_append_one (v : Nat) (i : Nat) : (#[v] ++ visits)[i + 1]? = visits[i]? := by
  rw [Array.getElem?_append_right (Nat.le_add_left 1 i)]
  rfl

theorem setIfInBounds_append_one (v i n : Nat) :
    (#[v] ++ visits).setIfInBounds (i + 1) n = #[v] ++ visits.setIfInBounds i n := by
  apply Array.ext_getElem?
  intro j
  cases j with
  | zero => simp
  | succ j =>
    rw [getElem?_append_one, Array.getElem?_setIfInBounds, Array.getElem?_setIfInBounds,
      getElem?_append_one]
    simp [Nat.add_comm]

theorem leads_behindStart (program : Program) (spot : Spot) (t : Thread) :
    leads program.behindStart spot t.next =
      ((leads program spot t).1.map Thread.next, (leads program spot t).2.map Thread.next) := by
  have hthere : program.behindStart[t.next.index]? = program[t.index]?.map Instruction.moved :=
    getElem?_behindStart_succ t.index
  rw [leads, leads, hthere]
  cases program[t.index]? with
  | none => rfl
  | some instruction =>
    cases instruction with
    | check p =>
      dsimp only [Option.map_some, Instruction.moved]
      cases p.holds spot <;> rfl
    | read _ | mark _ | jump _ | split _ _ | accept => rfl

theorem follow_behindStart (v fuel : Nat) :
    follow program.behindStart spot fuel (stack.map Thread.next) (waiting.map Thread.next)
        (#[v] ++ visits) =
      ((follow program spot fuel stack waiting visits).1.map Thread.next,
        #[v] ++ (follow program spot fuel stack waiting visits).2) := by
  induction fuel generalizing stack waiting visits with
  | zero => rfl
  | succ fuel ih =>
    cases stack with
    | nil => rfl
    | cons t stack =>
      have hthere : (#[v] ++ visits)[t.next.index]? = visits[t.index]? :=
        getElem?_append_one v t.index
      rw [List.map_cons]
      by_cases hvisited : visits[t.index]? = some (spot.position + 1)
      · rw [follow_visited fuel hvisited, follow_visited fuel (hthere.trans hvisited), ih]
      · have hset := @setIfInBounds_append_one visits v t.index (spot.position + 1)
        rw [follow_step fuel hvisited, follow_step fuel (hthere ▸ hvisited), leads_behindStart,
          ← List.map_append, ← List.map_append]
        exact hset ▸ ih

theorem enter_behindStart {t : Thread} (v : Nat) (hsize : visits.size = program.size) :
    program.behindStart.enter spot t.next (waiting.map Thread.next) (#[v] ++ visits) =
      ((program.enter spot t waiting visits).1.map Thread.next,
        #[v] ++ (program.enter spot t waiting visits).2) := by
  have hone : [t.next] = [t].map Thread.next := rfl
  rw [enter, size_behindStart, hone, follow_behindStart, follow_eq_enter hsize (by omega)]

theorem reads_behindStart (c : Char) (t : Thread) :
    program.behindStart.reads c t.next = program.reads c t := by
  have hthere : program.behindStart[t.next.index]? = program[t.index]?.map Instruction.moved :=
    getElem?_behindStart_succ t.index
  rw [reads, reads, hthere]
  rcases program[t.index]? with _ | _ | _ | _ | _ | _ | _ <;> rfl

theorem accepts_behindStart (t : Thread) :
    program.behindStart.accepts t.next = program.accepts t := by
  have hthere : program.behindStart[t.next.index]? = program[t.index]?.map Instruction.moved :=
    getElem?_behindStart_succ t.index
  rw [accepts, accepts, hthere]
  rcases program[t.index]? with _ | _ | _ | _ | _ | _ | _ <;> rfl

section Run

variable {threads : List Thread} {c : Char}

theorem size_gather {gathered : List Thread × Visits} {t : Thread} :
    (program.gather c spot gathered t).2.size = gathered.2.size := by
  rw [gather]
  split
  · exact size_follow _
  · rfl

theorem foldl_gather_behindStart (v : Nat) {gathered : List Thread × Visits}
    (hsize : gathered.2.size = program.size) :
    (threads.map Thread.next).foldl (program.behindStart.gather c spot)
        (gathered.1.map Thread.next, #[v] ++ gathered.2) =
      ((threads.foldl (program.gather c spot) gathered).1.map Thread.next,
        #[v] ++ (threads.foldl (program.gather c spot) gathered).2) := by
  induction threads generalizing gathered with
  | nil => rfl
  | cons t threads ih =>
    have hone : program.behindStart.gather c spot
        (gathered.1.map Thread.next, #[v] ++ gathered.2) t.next =
          ((program.gather c spot gathered t).1.map Thread.next,
            #[v] ++ (program.gather c spot gathered t).2) := by
      rw [gather, gather, reads_behindStart]
      split
      · exact enter_behindStart v hsize
      · rfl
    rw [List.map_cons, List.foldl_cons, List.foldl_cons, hone, ih (size_gather.trans hsize)]

theorem advance_behindStart (v : Nat) (hsize : visits.size = program.size) :
    program.behindStart.advance c spot (threads.map Thread.next) (#[v] ++ visits) =
      ((program.advance c spot threads visits).1.map Thread.next,
        #[v] ++ (program.advance c spot threads visits).2) := by
  have hgathered := @foldl_gather_behindStart program spot threads c v ([], visits) hsize
  rw [List.map_nil] at hgathered
  rw [advance_eq_foldl, advance_eq_foldl, hgathered, List.map_reverse]

theorem size_advance : (program.advance c spot threads visits).2.size = visits.size := by
  have hfold : ∀ gathered : List Thread × Visits,
      (threads.foldl (program.gather c spot) gathered).2.size = gathered.2.size := by
    intro gathered
    induction threads generalizing gathered with
    | nil => rfl
    | cons t threads ih => exact (ih _).trans size_gather
  exact hfold ([], visits)

theorem better_behindStart {position : Nat} {found : Option Found} :
    program.behindStart.better position (threads.map Thread.next) found =
      program.better position threads found := by
  have haccepts : program.behindStart.accepts ∘ Thread.next = program.accepts :=
    funext accepts_behindStart
  rw [better, better, List.find?_map, haccepts]
  cases threads.find? program.accepts <;> rfl

theorem run_behindStart (v : Nat) {position : Nat} {found : Option Found} {text : Text}
    (hsize : visits.size = program.size) :
    program.behindStart.run position (threads.map Thread.next) (#[v] ++ visits) found text =
      program.run position threads visits found text := by
  induction text generalizing position threads visits found with
  | nil => exact better_behindStart
  | cons c rest ih =>
    have hkept : (threads.map Thread.next).takeWhile (fun t => !program.behindStart.accepts t) =
        (threads.takeWhile fun t => !program.accepts t).map Thread.next := by
      rw [List.takeWhile_map]
      simp only [Function.comp_def, accepts_behindStart]
    rw [run_cons, run_cons, better_behindStart, hkept, advance_behindStart v hsize,
      ih (size_advance.trans hsize)]

end Run

/-! ## Matches that begin at a place -/

/-- The preferred match that begins at a place. -/
def matchAt? (program : Program) (spot : Spot) : Option Found :=
  let (waiting, visits) := program.enter spot ⟨0, []⟩ [] (Array.replicate program.size 0)
  program.run spot.position waiting.reverse visits none spot.rest

theorem matchFront?_eq_matchAt? (text : Text) :
    program.matchFront? text = program.matchAt? (.start text) :=
  rfl

/-- The first thread of the longer program stands at the check. -/
theorem enter_behindStart_check (program : Program) (spot : Spot) :
    program.behindStart.enter spot ⟨0, []⟩ [] (Array.replicate program.behindStart.size 0) =
      program.behindStart.follow spot (2 * program.size + 3)
        (if spot.previous.isNone then [⟨1, []⟩] else []) []
        (#[spot.position + 1] ++ Array.replicate program.size 0) := by
  have hfuel : 2 * program.behindStart.size + 2 = 2 * program.size + 3 + 1 := by
    rw [size_behindStart]
    omega
  have hreplicate : Array.replicate program.behindStart.size 0 =
      #[0] ++ Array.replicate program.size 0 := by
    have happend := @Array.replicate_append_replicate 1 _ 0 program.size
    rw [size_behindStart, Nat.add_comm, ← happend]
    rfl
  have hfirst : (#[0] ++ Array.replicate program.size 0)[0]? ≠ some (spot.position + 1) := by
    rw [Array.getElem?_append_left Nat.zero_lt_one]
    exact fun h => nomatch Option.some.inj h
  have hleads : leads program.behindStart spot ⟨0, []⟩ =
      (if spot.previous.isNone then [⟨1, []⟩] else [], []) := by
    rw [leads, getElem?_behindStart_zero]
    rfl
  rw [enter, hfuel, hreplicate, follow_step _ hfirst, hleads, List.append_nil,
    List.nil_append]
  simp

/-- At the start of the text the check changes nothing. -/
theorem matchFront?_behindStart (text : Text) :
    program.behindStart.matchFront? text = program.matchFront? text := by
  have hsize : (Array.replicate program.size 0).size = program.size := Array.size_replicate
  have henter : program.behindStart.enter (.start text) ⟨0, []⟩ []
        (Array.replicate program.behindStart.size 0) =
      ((program.enter (.start text) ⟨0, []⟩ [] (Array.replicate program.size 0)).1.map Thread.next,
        #[1] ++ (program.enter (.start text) ⟨0, []⟩ [] (Array.replicate program.size 0)).2) := by
    have hbehind := @follow_behindStart program (.start text) [⟨0, []⟩] []
      (Array.replicate program.size 0) 1 (2 * program.size + 3)
    rw [follow_eq_enter hsize (Nat.le_succ _)] at hbehind
    exact (enter_behindStart_check program (.start text)).trans hbehind
  rw [matchFront?, matchFront?, henter]
  dsimp only
  rw [← List.map_reverse]
  exact run_behindStart 1 ((size_follow _).trans hsize)

/-- At any other place the check is in the way. -/
theorem matchAt?_behindStart_of_previous {c : Char} (h : spot.previous = some c) :
    program.behindStart.matchAt? spot = none := by
  rw [matchAt?, enter_behindStart_check, h]
  exact run_nil _ _ _ _ _

/-! ## The leftmost match -/

/-- The leftmost match from a place on, with the position at which it begins. -/
def search? (program : Program) (position : Nat) (previous : Option Char) :
    Text → Option (Nat × Found)
  | [] => (program.matchAt? ⟨position, previous, []⟩).map (position, ·)
  | c :: rest =>
    match program.matchAt? ⟨position, previous, c :: rest⟩ with
    | some found => some (position, found)
    | none => program.search? (position + 1) (some c) rest

/-- The leftmost match in a text, if it begins at its front. -/
def searchFront? (program : Program) (text : Text) : Option Found :=
  ((program.search? 0 none text).filter fun found => found.1 == 0).map Prod.snd

theorem le_of_search? {position start : Nat} {previous : Option Char} {text : Text} {found : Found}
    (h : program.search? position previous text = some (start, found)) : position ≤ start := by
  induction text generalizing position previous with
  | nil =>
    obtain ⟨_, -, hstart⟩ := Option.map_eq_some_iff.1 h
    exact Nat.le_of_eq (Prod.mk.inj hstart).1
  | cons c rest ih =>
    rw [search?] at h
    split at h
    · exact Nat.le_of_eq (Prod.mk.inj (Option.some.inj h)).1
    · exact Nat.le_of_succ_le (ih h)

/-- The leftmost match begins at the front of the text whenever any match does. -/
theorem searchFront?_eq_matchFront? (text : Text) :
    program.searchFront? text = program.matchFront? text := by
  rw [searchFront?, matchFront?_eq_matchAt?, Spot.start]
  cases text with
  | nil =>
    rw [search?]
    cases program.matchAt? ⟨0, none, []⟩ <;> rfl
  | cons c rest =>
    rw [search?]
    cases program.matchAt? ⟨0, none, c :: rest⟩ with
    | some found => rfl
    | none =>
      dsimp only
      cases hlater : program.search? (0 + 1) (some c) rest with
      | none => rfl
      | some later =>
        have hpositive : 0 < later.1 := le_of_search? hlater
        rw [Option.filter_some_neg (by simp; omega)]
        rfl

theorem search?_behindStart_of_previous (position : Nat) (c : Char) (text : Text) :
    program.behindStart.search? position (some c) text = none := by
  induction text generalizing position c with
  | nil => rw [search?, matchAt?_behindStart_of_previous rfl, Option.map_none]
  | cons d rest ih => rw [search?, matchAt?_behindStart_of_previous rfl, ih]

/-- Behind the check, a search finds what begins at the front of the text and nothing else. -/
theorem search?_behindStart (text : Text) :
    program.behindStart.search? 0 none text = (program.matchFront? text).map (0, ·) := by
  rw [← matchFront?_behindStart, matchFront?_eq_matchAt?, Spot.start]
  cases text with
  | nil => rw [search?]
  | cons c rest =>
    rw [search?]
    cases program.behindStart.matchAt? ⟨0, none, c :: rest⟩ with
    | some found => rfl
    | none => exact search?_behindStart_of_previous _ c rest

end Program

end Excerpt.Regex
