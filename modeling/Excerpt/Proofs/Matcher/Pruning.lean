import Excerpt.Proofs.Matcher.Depth

/-!
# Pruning

A choice does not try the alternatives that cannot start with the next character, and neither does
the search for a terminator.  `pruning_invisible` compares this with trying everything everywhere:
what is left out would have failed, so every outcome is the same, with its match tree, its context
and its reason, and there is an outcome in the same cases.
-/

namespace Excerpt

/-- Everything is tried before every character. -/
def Admission.all : Admission := fun _ _ => true

theorem Admission.sound_all : Admission.all.Sound := fun _ _ _ => rfl

namespace Matcher

/-- Only failures are pruned, and pruning does not show in any outcome. -/
theorem pruning_invisible (rules : Rules) (m : Matcher) (c : Cursor) :
    -- An outcome before a character that the matcher rejects is a failure.
    (∀ ch o, c.next? = some ch → m.matchIn rules c = some o → (∀ f, o ≠ .failure f) →
      m.canStartWith ch = true) ∧
    -- Trying everything gives the same answer, however deep rules are followed.
    (∀ depth, matchWith .all depth rules m c = matchWith canStartWith depth rules m c) ∧
    ∀ o, m.matchIn rules c = some o ↔ ∃ depth, matchWith .all depth rules m c = some o := by
  have hsame := fun depth => matchWith_eq_of_sound Admission.sound_all depth rules m c
  refine ⟨?_, hsame, fun o => ?_⟩
  · intro ch o hnext ho hnotFailure
    by_contra hrejects
    have hfails := failsAt_of_not_canStartWith m hnext (Bool.not_eq_true _ |>.mp hrejects)
    obtain ⟨f, hf⟩ := hfails canStartWith (fun rules m c => m.matchIn rules c) rules
    rw [matchIn_eq_attempt, hf] at ho
    cases ho
    exact hnotFailure f rfl
  · simp only [hsame]
    exact matchIn_eq_some_iff

end Matcher

end Excerpt
