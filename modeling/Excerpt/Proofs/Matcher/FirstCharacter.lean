import Excerpt.Proofs.Matcher.Failure

/-!
# First characters

`Matcher.canStartWith` decides from the tree of a matcher alone which characters a match can begin
with.  `failsAt_of_not_canStartWith` says what its refusal is worth: the attempt fails there at
once.  A refusal always comes down to a literal or to delimiters, which every way through the
matcher meets before it has read anything; references, patterns and optional matchers refuse
nothing.
-/

namespace Excerpt

namespace Matcher

theorem firstCanStartWith_eq (steps : List (Step Matcher)) (ch : Char) :
    firstCanStartWith steps ch = (Step.firstMatcher? steps).all fun m => m.canStartWith ch := by
  induction steps with
  | nil => rfl
  | cons step steps ih =>
    cases step with
    | take name m => rfl
    | veto _ _ | alter _ _ => exact ih

theorem anyCanStartWith_eq_false {alternatives : List Matcher} {ch : Char}
    (h : anyCanStartWith alternatives ch = false) :
    ∀ m ∈ alternatives, m.canStartWith ch = false := by
  induction alternatives with
  | nil => simp
  | cons m alternatives ih =>
    rw [anyCanStartWith, Bool.or_eq_false_iff] at h
    intro m' hm'
    rcases List.mem_cons.1 hm' with rfl | hm'
    · exact h.1
    · exact ih h.2 m' hm'

theorem not_prefix_of_textStartsWith {text rest : Text} {ch : Char}
    (h : textStartsWith text ch = false) : ¬ text <+: ch :: rest := by
  cases text with
  | nil => cases h
  | cons first text =>
    intro hfront
    rw [textStartsWith, (List.cons_prefix_cons.1 hfront).1] at h
    simp at h

/-- A matcher fails at once before a character that it rejects. -/
theorem failsAt_of_not_canStartWith (m : Matcher) :
    ∀ {c : Cursor} {ch : Char}, c.next? = some ch → m.canStartWith ch = false → m.FailsAt c := by
  induction m using Matcher.induct with
  | literal text =>
    intro c ch hnext hrejects
    obtain ⟨rest, hrest⟩ := Cursor.next?_eq_some_iff.1 hnext
    rw [canStartWith] at hrejects
    apply failsAt_literal
    rw [hrest]
    exact not_prefix_of_textStartsWith hrejects
  | sequence id steps config ih =>
    intro c ch hnext hrejects
    rw [canStartWith, firstCanStartWith_eq, Bool.or_eq_false_iff] at hrejects
    obtain ⟨m, hfirst, hm⟩ := (Option.all_eq_false _ _).1 hrejects.2
    obtain ⟨name, hmem⟩ := Step.mem_of_firstMatcher? hfirst
    apply failsAt_sequence hfirst
    rw [Cursor.ready_eq_self hnext hrejects.1]
    exact ih name m hmem hnext hm
  | choice alternatives ih =>
    intro c ch hnext hrejects
    rw [canStartWith] at hrejects
    apply failsAt_choice
    intro m hm
    exact ih m hm hnext (anyCanStartWith_eq_false hrejects m hm)
  | repetition element separator least skipsBlanks ih _ =>
    intro c ch hnext hrejects
    rw [canStartWith, Bool.or_eq_false_iff] at hrejects
    exact failsAt_repetition (by simpa using hrejects.1) (ih hnext hrejects.2)
  | named name inner ih =>
    intro c ch hnext hrejects
    exact failsAt_named (ih hnext hrejects)
  | guarded inner test ih =>
    intro c ch hnext hrejects
    exact failsAt_guarded (ih hnext hrejects)
  | balanced d content =>
    intro c ch hnext hrejects
    obtain ⟨rest, hrest⟩ := Cursor.next?_eq_some_iff.1 hnext
    rw [canStartWith] at hrejects
    apply failsAt_balanced
    rw [hrest, List.cons_prefix_cons]
    rintro ⟨hsame, _⟩
    simp [hsame] at hrejects
  | closed inner rules ih _ =>
    intro c ch hnext hrejects
    exact failsAt_closed (ih hnext hrejects)
  -- What is left rejects no character.
  | pattern _ | optional _ _ _ | upTo _ _ | remainder | reference _ _ =>
    intro c ch hnext hrejects
    cases hrejects

end Matcher

end Excerpt
