import Excerpt.Grammar
import Excerpt.Proofs.Matcher.Depth

/-!
# Matchers without free references

A closure brings its own rules along, and the rules in force around it are not looked at inside.
So a matcher whose references all stand in closures does not depend on the rules in force at all:
`freeReferences` lists those that do not, and `attempt_eq_of_closed` says that without any the
attempt is the same under all rules, be it with any calls.

Nothing has to be said of the definitions that are called.  A call is made from inside a closure,
with the rules of this closure, and so it is the same call on both sides.

`attempt_toMatcher` applies this to grammars: embedded in another one, a grammar matches as it does
alone.
-/

namespace Excerpt

namespace Matcher

mutual

/-- The references that are followed by the rules in force around a matcher.  A closure follows
its references by rules of its own. -/
def freeReferences : Matcher → List (Nat × String)
  | sequence _ steps _ => stepsFreeReferences steps
  | choice alternatives => listFreeReferences alternatives
  | optional inner _ => inner.freeReferences
  | repetition element none _ _ => element.freeReferences
  | repetition element (some separator) _ _ => element.freeReferences ++ separator.freeReferences
  | named _ inner => inner.freeReferences
  | guarded inner _ => inner.freeReferences
  | upTo terminator => terminator.freeReferences
  | reference index name => [(index, name)]
  | _ => []

/-- The free references of some steps. -/
def stepsFreeReferences : List (Step Matcher) → List (Nat × String)
  | [] => []
  | .take _ m :: rest => m.freeReferences ++ stepsFreeReferences rest
  | .veto .. :: rest => stepsFreeReferences rest
  | .alter .. :: rest => stepsFreeReferences rest

/-- The free references of some matchers. -/
def listFreeReferences : List Matcher → List (Nat × String)
  | [] => []
  | m :: rest => m.freeReferences ++ listFreeReferences rest

end

variable {admits : Admission} {call : Call} {rules rules' : Rules}

/-! ## Attempts -/

/-- The steps of a sequence are tried alike if their matchers are. -/
theorem attemptSteps_eq_of_closed {id : String} {config : Config} {start : Cursor}
    {steps : List (Step Matcher)}
    (ih : ∀ name m, .take name m ∈ steps → m.freeReferences = [] →
      m.attempt admits call rules = m.attempt admits call rules')
    (h : stepsFreeReferences steps = []) (p : Progress) :
    attemptSteps admits call id config start steps rules p =
      attemptSteps admits call id config start steps rules' p := by
  induction steps generalizing p with
  | nil => rw [attemptSteps, attemptSteps]
  | cons step steps ihsteps =>
    have hrest := ihsteps fun name m hm => ih name m (List.mem_cons_of_mem _ hm)
    cases step with
    | take name m =>
      rw [stepsFreeReferences, List.append_eq_nil_iff] at h
      have hsame := ih name m List.mem_cons_self h.1
      rw [attemptSteps, attemptSteps, hsame]
      simp only [hrest h.2]
    | veto name accepts =>
      rw [attemptSteps, attemptSteps, hrest h]
    | alter name value =>
      rw [attemptSteps, attemptSteps, hrest h]

/-- Alternatives are tried alike if each of them is. -/
theorem attemptFirst_eq_of_closed {id : String} {ch : Char} {alternatives : List Matcher}
    (ih : ∀ m ∈ alternatives, m.freeReferences = [] →
      m.attempt admits call rules = m.attempt admits call rules')
    (h : listFreeReferences alternatives = []) (c : Cursor) :
    attemptFirst admits call id ch alternatives rules c =
      attemptFirst admits call id ch alternatives rules' c := by
  induction alternatives with
  | nil => rw [attemptFirst, attemptFirst]
  | cons m alternatives ihrest =>
    rw [listFreeReferences, List.append_eq_nil_iff] at h
    have hsame := ih m List.mem_cons_self h.1
    have hrest := ihrest (fun m hm => ih m (List.mem_cons_of_mem _ hm)) h.2
    rw [attemptFirst, attemptFirst, hsame, hrest]

/-- Without free references the rules in force make no difference. -/
theorem attempt_eq_of_closed (m : Matcher) (h : m.freeReferences = []) :
    m.attempt admits call rules = m.attempt admits call rules' := by
  funext c
  induction m using Matcher.induct generalizing c with
  | literal _ | pattern _ | remainder | balanced _ _ | closed _ _ => rw [attempt, attempt]
  | reference index name => cases h
  | sequence id steps config ih =>
    rw [attempt, attempt]
    exact attemptSteps_eq_of_closed (fun name m hm hm' => funext (ih name m hm hm')) h _
  | choice alternatives ih =>
    rw [attempt, attempt]
    cases c.next? with
    | none => rfl
    | some ch => exact attemptFirst_eq_of_closed (fun m hm hm' => funext (ih m hm hm')) h c
  | optional inner pulledUp ih => rw [attempt, attempt, ih h]
  | repetition element separator least skipsBlanks ihe ihs =>
    rw [attempt_repetition, attempt_repetition]
    cases separator with
    | none =>
      rw [funext (ihe h)]
      rfl
    | some separator =>
      rw [freeReferences, List.append_eq_nil_iff] at h
      rw [funext (ihe h.1)]
      have hseparator := funext (ihs separator rfl h.2)
      simp only [Option.map_some, hseparator]
  | named name inner ih => rw [attempt, attempt, ih h]
  | guarded inner test ih => rw [attempt, attempt, ih h]
  | upTo terminator ih =>
    rw [attempt, attempt]
    simp only [ih h]

/-- A matcher without free references matches alike under all rules. -/
theorem matchIn_eq_of_closed {m : Matcher} (h : m.freeReferences = []) (rules rules' : Rules)
    (c : Cursor) : m.matchIn rules c = m.matchIn rules' c := by
  rw [matchIn_eq_attempt, matchIn_eq_attempt, attempt_eq_of_closed m h]

/-- A closure is matched by its own rules. -/
theorem matchIn_closed (inner : Matcher) (own rules : Rules) (c : Cursor) :
    (closed inner own).matchIn rules c = inner.matchIn own c := by
  rw [matchIn_eq_attempt, matchIn_eq_attempt, attempt]

end Matcher

/-! ## Embedded grammars -/

namespace Grammar

/-- A grammar that has rules, or needs none, has no free references as a part of another one. -/
theorem freeReferences_toMatcher {g : Grammar}
    (h : g.rules ≠ [] ∨ g.matcher.freeReferences = []) : g.toMatcher.freeReferences = [] := by
  rw [toMatcher]
  split
  · rename_i hempty
    exact h.resolve_left (not_not.2 (List.isEmpty_iff.1 hempty))
  · rfl

/-- A grammar matches as a part of another one, whatever the rules are there, as it does alone.
Matchers without free references match alike under all rules. -/
theorem attempt_toMatcher {g : Grammar} (h : g.rules ≠ [] ∨ g.matcher.freeReferences = []) :
    (∀ outer c, g.toMatcher.matchIn outer c = g.attempt c) ∧
      g.toMatcher.freeReferences = [] ∧
      ∀ m : Matcher, m.freeReferences = [] →
        ∀ rules rules' c, m.matchIn rules c = m.matchIn rules' c := by
  refine ⟨fun outer c => ?_, freeReferences_toMatcher h, fun m => Matcher.matchIn_eq_of_closed⟩
  by_cases hempty : g.rules = []
  · have hclosed := h.resolve_left (not_not.2 hempty)
    rw [toMatcher, if_pos (List.isEmpty_iff.2 hempty), attempt]
    exact Matcher.matchIn_eq_of_closed hclosed outer g.rules c
  · rw [toMatcher, if_neg (mt List.isEmpty_iff.1 hempty), attempt]
    exact Matcher.matchIn_closed g.matcher g.rules outer c

/-- Round brackets in one another. -/
def roundRules : Rules :=
  [("nested", .sequence "round"
      [.take "_open" (.literal "("), .take "inner" (.optional (.reference 0 "nested") none),
        .take "_close" (.literal ")")]
      .default)]

/-- Square brackets in one another, and round ones inside.  The rule of both goes by one name. -/
def squareRules : Rules :=
  [("nested", .sequence "square"
      [.take "_open" (.literal "["),
        .take "inner" (.optional
          (.choice [.closed (.reference 0 "nested") roundRules, .reference 0 "nested"]) none),
        .take "_close" (.literal "]")]
      .default)]

/-- Square brackets. -/
def squares : Grammar := (ofMatcher (.reference 0 "nested")).withRules squareRules

/-- Embedded among the rules of round brackets, square brackets are still square ones outside and
round ones inside. -/
theorem attempt_toMatcher_squares :
    squares.rules ≠ [] ∧ (Matcher.closed (.reference 0 "nested") roundRules).freeReferences = [] ∧
      squares.toMatcher.matchIn roundRules (.ofString "[[ (()) ]]") =
        squares.attempt (.ofString "[[ (()) ]]") ∧
      (Matcher.closed (.reference 0 "nested") roundRules).matchIn squareRules (.ofString "(())") =
        (Matcher.closed (.reference 0 "nested") roundRules).matchIn [] (.ofString "(())") := by
  have hrules : squares.rules ≠ [] := List.cons_ne_nil _ _
  obtain ⟨hembedded, _, hclosed⟩ := attempt_toMatcher (Or.inl hrules)
  exact ⟨hrules, rfl, hembedded _ _, hclosed _ rfl _ _ _⟩

end Grammar

end Excerpt
