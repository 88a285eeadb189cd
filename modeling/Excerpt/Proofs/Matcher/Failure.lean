import Excerpt.Proofs.Matcher.Induction
import Excerpt.Proofs.Nesting.Attempt

/-!
# Failing at once

`Matcher.FailsAt m c` says that the attempt of `m` at `c` fails whatever the rules are: it gives up
before it follows any of them.  Such a failure starts at a literal, at delimiters or at a pattern,
and passes through every matcher that cannot do without the one that failed.  There is one lemma for
each: a sequence fails with its first matching step (`failsAt_sequence`), a choice with all of its
alternatives, a repetition of at least one element with its element, and names, tests and closures
with the matcher inside.
-/

namespace Excerpt

/-- The first matcher among some steps. -/
def Step.firstMatcher? : List (Step Matcher) → Option Matcher
  | [] => none
  | .take _ m :: _ => some m
  | .veto .. :: rest => firstMatcher? rest
  | .alter .. :: rest => firstMatcher? rest

theorem Step.mem_of_firstMatcher? {steps : List (Step Matcher)} {m : Matcher}
    (h : Step.firstMatcher? steps = some m) : ∃ name, .take name m ∈ steps := by
  induction steps with
  | nil => cases h
  | cons step steps ih =>
    cases step with
    | take name m' =>
      cases h
      exact ⟨name, List.mem_cons_self⟩
    | veto _ _ | alter _ _ =>
      obtain ⟨name, hmem⟩ := ih h
      exact ⟨name, List.mem_cons_of_mem _ hmem⟩

namespace Matcher

/-- The attempt fails, whatever is admitted and whatever the rules do. -/
def FailsAt (m : Matcher) (c : Cursor) : Prop :=
  ∀ admits call rules, ∃ f, m.attempt admits call rules c = some (.failure f)

theorem failsAt_literal {text : String} {c : Cursor} (h : ¬ text.toList <+: c.rest) :
    (literal text).FailsAt c := by
  intro admits call rules
  have hnot : ¬ c.startsWith text.toList = true := mt Cursor.startsWith_iff.1 h
  rw [attempt, attemptLiteral, if_neg hnot]
  exact ⟨_, rfl⟩

theorem failsAt_balanced {d : Delimiters} {content : Content} {c : Cursor}
    (h : ¬ [d.opener] <+: c.rest) : (balanced d content).FailsAt c := by
  intro admits call rules
  rw [attempt, attemptBalanced_of_not_opener h]
  exact ⟨_, rfl⟩

/-- Vetoes and computed fields read nothing, so the first matching step is tried where the sequence
begins, or behind the white space there. -/
theorem attemptSteps_of_failsAt {steps : List (Step Matcher)} {m : Matcher} {config : Config}
    (hfirst : Step.firstMatcher? steps = some m) (admits : Admission) (call : Call) (id : String)
    (start : Cursor) (rules : Rules) :
    ∀ p : Progress, m.FailsAt (p.current.ready config.skipsBlanks) →
      ∃ f, attemptSteps admits call id config start steps rules p = some (.failure f) := by
  induction steps with
  | nil => cases hfirst
  | cons step steps ih =>
    intro p hfails
    cases step with
    | take name m' =>
      cases hfirst
      obtain ⟨f, hf⟩ := hfails admits call rules
      rw [attemptSteps, hf]
      exact ⟨_, rfl⟩
    | veto name accepts =>
      rw [attemptSteps]
      split
      · exact ih hfirst p hfails
      · exact ⟨_, rfl⟩
    | alter name value =>
      rw [attemptSteps]
      exact ih hfirst _ hfails

theorem failsAt_sequence {id : String} {steps : List (Step Matcher)} {config : Config}
    {m : Matcher} {c : Cursor} (hfirst : Step.firstMatcher? steps = some m)
    (hfails : m.FailsAt (c.ready config.skipsBlanks)) : (sequence id steps config).FailsAt c := by
  intro admits call rules
  rw [attempt]
  exact attemptSteps_of_failsAt hfirst admits call id c rules _ hfails

theorem attemptFirst_of_failsAt {alternatives : List Matcher} {c : Cursor}
    (hfails : ∀ m ∈ alternatives, m.FailsAt c) (admits : Admission) (call : Call) (id : String)
    (ch : Char) (rules : Rules) :
    ∃ f, attemptFirst admits call id ch alternatives rules c = some (.failure f) := by
  induction alternatives with
  | nil =>
    rw [attemptFirst]
    exact ⟨_, rfl⟩
  | cons m alternatives ih =>
    have hrest := ih fun m' hm' => hfails m' (List.mem_cons_of_mem _ hm')
    rw [attemptFirst]
    split
    · obtain ⟨f, hf⟩ := hfails m List.mem_cons_self admits call rules
      rw [hf]
      exact hrest
    · exact hrest

theorem failsAt_choice {alternatives : List Matcher} {c : Cursor}
    (hfails : ∀ m ∈ alternatives, m.FailsAt c) : (choice alternatives).FailsAt c := by
  intro admits call rules
  rw [attempt]
  cases hnext : c.next? with
  | none => exact ⟨_, rfl⟩
  | some ch => exact attemptFirst_of_failsAt hfails admits call _ ch rules

/-- A repetition that needs an element fails where its first one does. -/
theorem failsAt_repetition {element : Matcher} {separator : Option Matcher} {least : Nat}
    {skipsBlanks : Bool} {c : Cursor} (hleast : least ≠ 0) (hfails : element.FailsAt c) :
    (repetition element separator least skipsBlanks).FailsAt c := by
  intro admits call rules
  obtain ⟨f, hf⟩ := hfails admits call rules
  have hnone : elements (element.attempt admits call rules)
      (separator.map fun m => m.attempt admits call rules) skipsBlanks (c.rest.length + 1) [] c =
      some (.ok ([], c)) := by
    rw [elements]
    split
    · rfl
    · rw [List.isEmpty_nil, repetitionRound, if_pos rfl, elementRound, hf]
      rfl
  have hfew : ([] : List Match).length < least := Nat.pos_of_ne_zero hleast
  rw [attempt_repetition, attemptRepetition, hnone]
  simp only [if_pos hfew]
  exact ⟨_, rfl⟩

theorem failsAt_named {name : String} {inner : Matcher} {c : Cursor} (hfails : inner.FailsAt c) :
    (named name inner).FailsAt c := by
  intro admits call rules
  obtain ⟨f, hf⟩ := hfails admits call rules
  rw [attempt, hf]
  exact ⟨_, rfl⟩

theorem failsAt_guarded {inner : Matcher} {test : Match → Bool} {c : Cursor}
    (hfails : inner.FailsAt c) : (guarded inner test).FailsAt c := by
  intro admits call rules
  obtain ⟨f, hf⟩ := hfails admits call rules
  rw [attempt, hf]
  exact ⟨_, rfl⟩

/-- A failure at once does not depend on the rules, so it passes out of a closure. -/
theorem failsAt_closed {inner : Matcher} {own : Rules} {c : Cursor} (hfails : inner.FailsAt c) :
    (closed inner own).FailsAt c := by
  intro admits call rules
  obtain ⟨f, hf⟩ := hfails admits call own
  rw [attempt, hf]
  exact ⟨_, rfl⟩

end Matcher

end Excerpt
