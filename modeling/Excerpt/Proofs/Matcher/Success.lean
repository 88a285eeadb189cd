import Excerpt.Proofs.Matcher.Induction
import Excerpt.Proofs.Nesting.Attempt

/-!
# What matches are made of

A match of a matcher is made from the matches of those below it.  For each kind of matcher there is
one lemma that says how, given a match: the match of a choice is that of an alternative, the match
of an optional matcher is that of its inner one but for the value that is pulled up, and so on.  A
matcher without others below it matches a text, and its match is a leaf (`attempt_eq_leaf`).

For repetitions this is `attemptRepetition_eq_success_iff`, and for sequences
`attempt_sequence_eq_some_iff`.
-/

namespace Excerpt

theorem Outcome.exists_success_of_isMatch {o : Option Outcome}
    (h : o.any Outcome.isMatch = true) : ∃ found, o = some (.success found) := by
  obtain ⟨o, rfl, hmatch⟩ := (Option.any_eq_true _ _).1 h
  cases o with
  | success found => exact ⟨found, rfl⟩
  | failure _ | absent _ _ => cases hmatch

namespace Matcher

variable {admits : Admission} {call : Call} {rules : Rules} {c : Cursor} {found : Match}

/-! ## Texts -/

/-- Whether the match of a matcher is some text without parts. -/
def matchesText : Matcher → Bool
  | literal _ => true
  | pattern _ => true
  | upTo _ => true
  | remainder => true
  | balanced _ _ => true
  | _ => false

/-- A match without parts is a leaf, and its value is a string. -/
theorem attempt_eq_leaf {m : Matcher} (hm : m.matchesText = true)
    (h : m.attempt admits call rules c = some (.success found)) :
    ∃ id matched offset s, found = .leaf id matched offset (.string s) := by
  cases m with
  | literal text =>
    rw [attempt, attemptLiteral] at h
    split at h <;> cases h
    exact ⟨_, _, _, _, rfl⟩
  | pattern p =>
    rw [attempt, Pattern.attempt] at h
    split at h <;> cases h
    exact ⟨_, _, _, _, rfl⟩
  | upTo terminator =>
    rw [attempt] at h
    obtain ⟨last, _, ho⟩ := Option.map_eq_some_iff.1 h
    cases ho
    exact ⟨_, _, _, _, rfl⟩
  | remainder =>
    rw [attempt] at h
    cases h
    exact ⟨_, _, _, _, rfl⟩
  | balanced d content =>
    rw [attempt] at h
    rcases attemptBalanced_cases h with h | h | ⟨front, inner, _, _, h⟩ <;> cases h
    exact ⟨_, _, _, _, rfl⟩
  | sequence _ _ _ | choice _ | optional _ _ | repetition _ _ _ _ | named _ _ | guarded _ _
  | reference _ _ | closed _ _ => cases hm

/-! ## Alternatives -/

theorem attemptFirst_eq_success {id : String} {ch : Char} {alternatives : List Matcher}
    (h : attemptFirst admits call id ch alternatives rules c = some (.success found)) :
    ∃ m ∈ alternatives, m.attempt admits call rules c = some (.success found) := by
  induction alternatives with
  | nil =>
    rw [attemptFirst] at h
    cases h
  | cons m alternatives ih =>
    have hlater (h : attemptFirst admits call id ch alternatives rules c =
        some (.success found)) :
        ∃ m' ∈ m :: alternatives, m'.attempt admits call rules c = some (.success found) := by
      obtain ⟨m', hm', hattempt⟩ := ih h
      exact ⟨m', List.mem_cons_of_mem _ hm', hattempt⟩
    rw [attemptFirst] at h
    split at h
    · cases hattempt : m.attempt admits call rules c with
      | none =>
        rw [hattempt] at h
        cases h
      | some o =>
        rw [hattempt] at h
        cases o with
        | success _ =>
          cases h
          exact ⟨m, List.mem_cons_self, hattempt⟩
        | failure _ | absent _ _ => exact hlater h
    · exact hlater h

/-- A match of a choice is that of one of its alternatives. -/
theorem attempt_choice_eq_success {alternatives : List Matcher}
    (h : (choice alternatives).attempt admits call rules c = some (.success found)) :
    ∃ m ∈ alternatives, m.attempt admits call rules c = some (.success found) := by
  rw [attempt] at h
  cases hnext : c.next? with
  | none =>
    simp only [hnext] at h
    cases h
  | some ch =>
    simp only [hnext] at h
    exact attemptFirst_eq_success h

/-! ## Matchers with one inside -/

variable {inner : Matcher}

/-- A match of an optional matcher is that of the inner one, perhaps with the value of a field. -/
theorem attempt_optional_eq_success {pulledUp : Option String}
    (h : (optional inner pulledUp).attempt admits call rules c = some (.success found)) :
    ∃ m, inner.attempt admits call rules c = some (.success m) ∧
      (pulledUp = none ∧ found = m ∨
        ∃ field, pulledUp = some field ∧
          found = m.withValue
            ((m.context.bind fun fields => Fields.get? fields field).getD .nil)) := by
  rw [attempt] at h
  split at h
  · cases h
  · obtain ⟨o, hattempt, ho⟩ := Option.map_eq_some_iff.1 h
    cases o with
    | failure _ | absent _ _ => cases ho
    | success m =>
      refine ⟨m, hattempt, ?_⟩
      cases pulledUp with
      | none =>
        cases ho
        exact Or.inl ⟨rfl, rfl⟩
      | some field =>
        cases ho
        exact Or.inr ⟨field, rfl, rfl⟩

/-- A match under a name is that of the inner matcher but for the name. -/
theorem attempt_named_eq_success {name : String}
    (h : (named name inner).attempt admits call rules c = some (.success found)) :
    ∃ m, inner.attempt admits call rules c = some (.success m) ∧ found = m.withName name := by
  rw [attempt] at h
  obtain ⟨o, hattempt, ho⟩ := Option.map_eq_some_iff.1 h
  cases o with
  | failure _ | absent _ _ => cases ho
  | success m =>
    cases ho
    exact ⟨m, hattempt, rfl⟩

/-- A match behind a test is that of the inner matcher, and passes the test. -/
theorem attempt_guarded_eq_success {test : Match → Bool}
    (h : (guarded inner test).attempt admits call rules c = some (.success found)) :
    inner.attempt admits call rules c = some (.success found) ∧ test found = true := by
  rw [attempt] at h
  obtain ⟨o, hattempt, ho⟩ := Option.map_eq_some_iff.1 h
  cases o with
  | failure _ | absent _ _ => cases ho
  | success m =>
    rw [guardedOutcome] at ho
    split at ho
    · rename_i htest
      cases ho
      exact ⟨hattempt, htest⟩
    · cases ho

/-- A match of a reference is that of a call of the rule at its place, which has its name. -/
theorem attempt_reference_eq_success_iff {index : Nat} {name : String} :
    (reference index name).attempt admits call rules c = some (.success found) ↔
      ∃ definition, rules[index]? = some (name, definition) ∧
        call rules definition c = some (.success found) := by
  obtain ⟨definition, hrule, hattempt⟩ | ⟨hnone, hattempt⟩ :=
    attempt_reference_cases rules index name
  · rw [hattempt]
    refine ⟨fun h => ⟨definition, hrule, h⟩, ?_⟩
    rintro ⟨definition', hrule', h⟩
    cases hrule.symm.trans hrule'
    exact h
  · rw [hattempt]
    refine iff_of_false nofun ?_
    rintro ⟨definition, hrule, _⟩
    exact hnone definition hrule

theorem attempt_reference_eq_success {index : Nat} {name : String}
    (h : (reference index name).attempt admits call rules c = some (.success found)) :
    ∃ definition, (name, definition) ∈ rules ∧ call rules definition c = some (.success found) := by
  obtain ⟨definition, hrule, hcall⟩ := attempt_reference_eq_success_iff.1 h
  exact ⟨definition, List.mem_of_getElem? hrule, hcall⟩

end Matcher

end Excerpt
