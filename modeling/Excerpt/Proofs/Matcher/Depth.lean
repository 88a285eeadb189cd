import Excerpt.Proofs.Matcher.Monotone
import Mathlib.Data.List.Basic
import Mathlib.Data.List.ProdSigma

/-!
# The depth at which rules are followed

`Matcher.matchWith` follows rules to a given depth.  `follow_below` says that a greater depth keeps
every outcome; `matchWith_eq_of_sound` adds that pruning never shows.

`Matcher.matchIn` takes a depth from the text and the grammar, and `matchIn_eq_some_iff` says that
it is enough: what has an outcome at any depth has it there.  The argument is about the finitely
many `configurations` that an attempt can call, each a definition at a place ahead.  With every
depth at which one more of them comes to have an outcome there are fewer left, so some depth below
their number adds none; then no greater depth adds any, because the configurations call nothing but
one another.  As there is no depth in the answer, `matchIn` is a solution of its own equation
(`matchIn_eq_attempt`): it may be read as recursion without a bound.
-/

namespace Excerpt

/-- Growing selections of the members of a list come to a stop within as many steps as there are
members. -/
theorem exists_stable_filter {α : Type} (l : List α) (p : Nat → α → Bool)
    (hmono : ∀ n x, p n x = true → p (n + 1) x = true) :
    ∃ n ≤ l.length, ∀ x ∈ l, p (n + 1) x = true → p n x = true := by
  by_contra hnone
  have hmore : ∀ n ≤ l.length, (l.filter (p n)).length < (l.filter (p (n + 1))).length := by
    intro n hn
    have hsublist : List.Sublist (l.filter (p n)) (l.filter (p (n + 1))) :=
      List.monotone_filter_right l (hmono n)
    refine Nat.lt_of_le_of_ne hsublist.length_le fun hsame => hnone ⟨n, hn, ?_⟩
    intro x hx hp
    have hmem : x ∈ l.filter (p (n + 1)) := List.mem_filter.2 ⟨hx, hp⟩
    rw [← hsublist.eq_of_length hsame] at hmem
    exact (List.mem_filter.1 hmem).2
  have hgrows : ∀ n ≤ l.length, n < (l.filter (p (n + 1))).length := by
    intro n
    induction n with
    | zero =>
      intro hn
      exact Nat.lt_of_le_of_lt (Nat.zero_le _) (hmore 0 hn)
    | succ n ih =>
      intro hn
      exact Nat.lt_of_le_of_lt (ih (Nat.le_of_succ_le hn)) (hmore (n + 1) hn)
  have hall := hgrows l.length (Nat.le_refl _)
  have hbound := List.length_filter_le (p (l.length + 1)) l
  omega

namespace Matcher

/-! ## Greater depths -/

/-- How a rule is followed when rules may be followed to a depth of at most `depth`. -/
def follow (admits : Admission) : Nat → Call
  | 0 => fun _ _ _ => none
  | depth + 1 => matchWith admits depth

theorem matchWith_eq_attempt (admits : Admission) (depth : Nat) (rules : Rules) (m : Matcher)
    (c : Cursor) :
    matchWith admits depth rules m c = m.attempt admits (follow admits depth) rules c := by
  cases depth <;> rfl

/-- A greater depth keeps every outcome, and pruning changes none. -/
theorem follow_below {admits admits' : Admission} (hadmits : admits.Sound)
    (hadmits' : admits'.Sound) {depth depth' : Nat} (hle : depth ≤ depth')
    (targets : List (Rules × Matcher)) (c : Cursor) :
    Call.Below targets c (follow admits depth) (follow admits' depth') := by
  induction depth generalizing depth' targets c with
  | zero =>
    intro own definition _ c' o _ h
    cases h
  | succ depth ih =>
    intro own definition _ c' o _ h
    obtain ⟨depth', rfl⟩ : ∃ n, depth' = n + 1 := ⟨depth' - 1, by omega⟩
    rw [follow, matchWith_eq_attempt] at h ⊢
    exact attempt_below hadmits hadmits' definition own c' o (ih (by omega) _ c') h

theorem matchWith_below {admits admits' : Admission} (hadmits : admits.Sound)
    (hadmits' : admits'.Sound) {depth depth' : Nat} (hle : depth ≤ depth') {rules : Rules}
    {m : Matcher} {c : Cursor} {o : Outcome} (h : matchWith admits depth rules m c = some o) :
    matchWith admits' depth' rules m c = some o := by
  rw [matchWith_eq_attempt] at h ⊢
  exact attempt_below hadmits hadmits' m rules c o (follow_below hadmits hadmits' hle _ c) h

/-- What is pruned makes no difference. -/
theorem matchWith_eq_of_sound {admits : Admission} (hadmits : admits.Sound) (depth : Nat)
    (rules : Rules) (m : Matcher) (c : Cursor) :
    matchWith admits depth rules m c = matchWith canStartWith depth rules m c := by
  apply Option.ext
  intro o
  exact ⟨matchWith_below hadmits sound_canStartWith (Nat.le_refl depth),
    matchWith_below sound_canStartWith hadmits (Nat.le_refl depth)⟩

/-! ## Configurations -/

/-- The definitions that an attempt can call, at the places where it can call them. -/
def configurations (rules : Rules) (m : Matcher) (c : Cursor) :
    List ((Rules × Matcher) × Cursor) :=
  m.calleesUnder rules ×ˢ (List.range (c.rest.length + 1)).map fun n => c.advanceBy n

theorem length_configurations (rules : Rules) (m : Matcher) (c : Cursor) :
    (configurations rules m c).length = m.depthBound rules c := by
  rw [configurations, List.length_product, length_calleesUnder, List.length_map, List.length_range,
    depthBound]

theorem mem_configurations {rules own : Rules} {m definition : Matcher} {c c' : Cursor}
    (hmem : (own, definition) ∈ m.calleesUnder rules) (hreach : c.Reaches c') :
    ((own, definition), c') ∈ configurations rules m c := by
  obtain ⟨t, hmoves⟩ := hreach
  have hlength := hmoves.length_rest
  rw [configurations, List.mem_product]
  refine ⟨hmem, List.mem_map.2 ⟨t.length, ?_, hmoves.eq_advanceBy.symm⟩⟩
  rw [List.mem_range]
  omega

/-- The configuration has an outcome when rules are followed to a depth below `depth`. -/
def settled (depth : Nat) (x : (Rules × Matcher) × Cursor) : Bool :=
  (follow canStartWith depth x.1.1 x.1.2 x.2).isSome

theorem settled_mono {depth depth' : Nat} (hle : depth ≤ depth') {x : (Rules × Matcher) × Cursor}
    (h : settled depth x = true) : settled depth' x = true := by
  obtain ⟨o, ho⟩ := Option.isSome_iff_exists.1 h
  have hbelow := follow_below sound_canStartWith sound_canStartWith hle [x.1] x.2
  rw [settled, hbelow x.1.1 x.1.2 List.mem_cons_self x.2 o (.refl x.2) ho]
  rfl

section Bound

variable {rules : Rules} {m : Matcher} {c : Cursor}

/-- A step of depth that settles no further configuration adds no outcome. -/
theorem below_of_settled {depth : Nat}
    (h : ∀ x ∈ configurations rules m c, settled (depth + 1) x = true → settled depth x = true) :
    Call.Below (m.calleesUnder rules) c (follow canStartWith (depth + 1))
      (follow canStartWith depth) := by
  intro own definition hmem c' o hreach ho
  have hsettled : settled depth ((own, definition), c') = true := by
    apply h _ (mem_configurations hmem hreach)
    rw [settled, ho]
    rfl
  obtain ⟨o', ho'⟩ := Option.isSome_iff_exists.1 hsettled
  have hbelow :=
    follow_below sound_canStartWith sound_canStartWith (Nat.le_succ depth) [(own, definition)] c'
  have hsame := hbelow own definition List.mem_cons_self c' o' (.refl c') ho'
  rw [ho] at hsame
  cases hsame
  exact ho'

/-- Once a step of depth adds no outcome, no greater depth adds any. -/
theorem below_of_stable {depth : Nat}
    (h : Call.Below (m.calleesUnder rules) c (follow canStartWith (depth + 1))
      (follow canStartWith depth)) (more : Nat) :
    Call.Below (m.calleesUnder rules) c (follow canStartWith (depth + more))
      (follow canStartWith depth) := by
  induction more with
  | zero => exact fun own definition _ c' o _ ho => ho
  | succ more ih =>
    intro own definition hmem c' o hreach ho
    apply h own definition hmem c' o hreach
    rw [← Nat.add_assoc, follow, matchWith_eq_attempt] at ho
    rw [follow, matchWith_eq_attempt]
    exact attempt_below sound_canStartWith sound_canStartWith definition own c' o
      (ih.mono (calleesUnder_subset hmem) hreach) ho

/-- Some depth within the bound settles all that a greater depth settles. -/
theorem exists_stable_depth : ∃ depth ≤ m.depthBound rules c, ∀ more,
    Call.Below (m.calleesUnder rules) c (follow canStartWith (depth + more))
      (follow canStartWith depth) := by
  obtain ⟨depth, hdepth, hsettled⟩ :=
    exists_stable_filter (configurations rules m c) settled fun depth _ =>
      settled_mono (Nat.le_succ depth)
  rw [length_configurations] at hdepth
  exact ⟨depth, hdepth, below_of_stable (below_of_settled hsettled)⟩

/-- The bound is enough for every call that has an outcome at any depth. -/
theorem follow_depthBound_below (depth : Nat) :
    Call.Below (m.calleesUnder rules) c (follow canStartWith depth)
      (follow canStartWith (m.depthBound rules c)) := by
  obtain ⟨stable, hstable, hbelow⟩ := @exists_stable_depth rules m c
  intro own definition hmem c' o hreach ho
  have hmore := follow_below sound_canStartWith sound_canStartWith (Nat.le_add_left depth stable)
    (m.calleesUnder rules) c own definition hmem c' o hreach ho
  have hless := hbelow depth own definition hmem c' o hreach hmore
  exact follow_below sound_canStartWith sound_canStartWith hstable (m.calleesUnder rules) c own
    definition hmem c' o hreach hless

end Bound

/-! ## The outcome without a depth -/

/-- An attempt has the outcome that it has at any depth at which it has one. -/
theorem matchIn_eq_some_iff {rules : Rules} {m : Matcher} {c : Cursor} {o : Outcome} :
    m.matchIn rules c = some o ↔ ∃ depth, matchWith canStartWith depth rules m c = some o := by
  constructor
  · intro h
    exact ⟨_, h⟩
  · rintro ⟨depth, h⟩
    rw [matchIn, matchWith_eq_attempt]
    rw [matchWith_eq_attempt] at h
    exact attempt_below sound_canStartWith sound_canStartWith m rules c o
      (follow_depthBound_below depth) h

/-- Following a rule by matching. -/
abbrev matching : Call := fun rules m c => m.matchIn rules c

/-- Matching solves its own equation: rules are followed by matching. -/
theorem matchIn_eq_attempt (rules : Rules) (m : Matcher) (c : Cursor) :
    m.matchIn rules c = m.attempt canStartWith matching rules c := by
  apply Option.ext
  intro o
  constructor
  · intro h
    rw [matchIn, matchWith_eq_attempt] at h
    refine attempt_below sound_canStartWith sound_canStartWith m rules c o ?_ h
    intro own definition _ c' o' _ ho'
    cases hdepth : m.depthBound rules c with
    | zero =>
      rw [hdepth] at ho'
      cases ho'
    | succ depth =>
      rw [hdepth] at ho'
      exact matchIn_eq_some_iff.2 ⟨depth, ho'⟩
  · intro h
    rw [matchIn, matchWith_eq_attempt]
    refine attempt_below sound_canStartWith sound_canStartWith m rules c o ?_ h
    intro own definition hmem c' o' hreach ho'
    obtain ⟨depth, hdepth⟩ := matchIn_eq_some_iff.1 ho'
    exact follow_depthBound_below (depth + 1) own definition hmem c' o' hreach hdepth

end Matcher

end Excerpt
