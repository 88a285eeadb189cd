import Excerpt.Proofs.Matcher.Failure

/-!
# Required fronts

`Matcher.requiredFront?` answers a text that every match begins with, but for white space.
`failsAt_of_requiredFront?` says where that lets an attempt be left out: the matcher fails at once
at a place where the text does not stand, unless a sequence on the way to it skips white space and
the text stands behind that.

`frontSkipsBlanks` asks all the sequences on the way, while `skipsLeadingBlanks` asks the outermost
one only.  `AnnouncesBlanks` says that the two do not differ where it matters.  They do not if all
sequences of the matcher agree about white space (`announcesBlanks_of_agree`); they do differ for a
sequence that does not skip it around one that does.
-/

namespace Excerpt

namespace Matcher

/-! ## White space before the required front -/

mutual

/-- Whether a sequence on the way to the required front skips white space. -/
def frontSkipsBlanks : Matcher → Bool
  | sequence _ steps config => config.skipsBlanks || firstFrontSkipsBlanks steps
  | repetition element _ least _ => least != 0 && element.frontSkipsBlanks
  | named _ inner => inner.frontSkipsBlanks
  | guarded inner _ => inner.frontSkipsBlanks
  | closed inner _ => inner.frontSkipsBlanks
  | _ => false

/-- Whether a sequence at the front of the first matching step skips white space. -/
def firstFrontSkipsBlanks : List (Step Matcher) → Bool
  | [] => false
  | .take _ m :: _ => m.frontSkipsBlanks
  | .veto .. :: rest => firstFrontSkipsBlanks rest
  | .alter .. :: rest => firstFrontSkipsBlanks rest

end

/-- White space may come before the required front only if the outermost sequence skips it. -/
def AnnouncesBlanks (m : Matcher) : Prop :=
  ∀ front, m.requiredFront? = some front → front ≠ [] → m.frontSkipsBlanks = true →
    m.skipsLeadingBlanks = true

theorem firstRequiredFront?_eq (steps : List (Step Matcher)) :
    firstRequiredFront? steps = (Step.firstMatcher? steps).bind requiredFront? := by
  induction steps with
  | nil => rfl
  | cons step steps ih =>
    cases step with
    | take name m => rfl
    | veto _ _ | alter _ _ => exact ih

theorem firstFrontSkipsBlanks_eq (steps : List (Step Matcher)) :
    firstFrontSkipsBlanks steps = (Step.firstMatcher? steps).any frontSkipsBlanks := by
  induction steps with
  | nil => rfl
  | cons step steps ih =>
    cases step with
    | take name m => rfl
    | veto _ _ | alter _ _ => exact ih

/-! ## Failing without the required front -/

/-- A matcher fails at once where its required front does not stand. -/
theorem failsAt_of_requiredFront? (m : Matcher) :
    ∀ {front : Text} {c : Cursor}, m.requiredFront? = some front → ¬ front <+: c.rest →
      (m.frontSkipsBlanks = true → ¬ front <+: c.skipBlanks.rest) → m.FailsAt c := by
  induction m using Matcher.induct with
  | literal text =>
    intro front c hfront hhere _
    cases hfront
    exact failsAt_literal hhere
  | sequence id steps config ih =>
    intro front c hfront hhere hbehind
    rw [requiredFront?, firstRequiredFront?_eq] at hfront
    obtain ⟨m, hfirst, hm⟩ := Option.bind_eq_some_iff.1 hfront
    obtain ⟨name, hmem⟩ := Step.mem_of_firstMatcher? hfirst
    rw [frontSkipsBlanks, firstFrontSkipsBlanks_eq, hfirst, Bool.or_eq_true] at hbehind
    apply failsAt_sequence hfirst
    -- Behind the white space there is no more of it, so the step finds the same place again.
    cases hskips : config.skipsBlanks with
    | true =>
      have hready : ¬ front <+: c.skipBlanks.rest := hbehind (Or.inl hskips)
      refine ih name m hmem hm hready fun _ => ?_
      rw [Cursor.ready, if_pos rfl, Cursor.skipBlanks_skipBlanks]
      exact hready
    | false => exact ih name m hmem hm hhere fun hskipsInside => hbehind (Or.inr hskipsInside)
  | repetition element separator least skipsBlanks ih _ =>
    intro front c hfront hhere hbehind
    rw [requiredFront?] at hfront
    split at hfront
    · cases hfront
    · rename_i hleast
      refine failsAt_repetition hleast (ih hfront hhere fun hskips => hbehind ?_)
      rw [frontSkipsBlanks, hskips, Bool.and_true]
      exact bne_iff_ne.2 hleast
  | named name inner ih =>
    intro front c hfront hhere hbehind
    exact failsAt_named (ih hfront hhere hbehind)
  | guarded inner test ih =>
    intro front c hfront hhere hbehind
    exact failsAt_guarded (ih hfront hhere hbehind)
  | balanced d content =>
    intro front c hfront hhere _
    cases hfront
    exact failsAt_balanced hhere
  | closed inner rules ih _ =>
    intro front c hfront hhere hbehind
    exact failsAt_closed (ih hfront hhere hbehind)
  -- What is left requires no front.
  | pattern _ | choice _ _ | optional _ _ _ | upTo _ _ | remainder | reference _ _ =>
    intro front c hfront
    cases hfront

/-! ## Sequences that agree -/

mutual

/-- The configurations of the sequences in a matcher; rules are not looked at. -/
def sequenceConfigs : Matcher → List Config
  | sequence _ steps config => config :: stepsSequenceConfigs steps
  | choice alternatives => listSequenceConfigs alternatives
  | optional inner _ => inner.sequenceConfigs
  | repetition element none _ _ => element.sequenceConfigs
  | repetition element (some separator) _ _ => element.sequenceConfigs ++ separator.sequenceConfigs
  | named _ inner => inner.sequenceConfigs
  | guarded inner _ => inner.sequenceConfigs
  | upTo terminator => terminator.sequenceConfigs
  | closed inner _ => inner.sequenceConfigs
  | _ => []

/-- The configurations of the sequences in some steps. -/
def stepsSequenceConfigs : List (Step Matcher) → List Config
  | [] => []
  | .take _ m :: rest => m.sequenceConfigs ++ stepsSequenceConfigs rest
  | .veto .. :: rest => stepsSequenceConfigs rest
  | .alter .. :: rest => stepsSequenceConfigs rest

/-- The configurations of the sequences in some matchers. -/
def listSequenceConfigs : List Matcher → List Config
  | [] => []
  | m :: rest => m.sequenceConfigs ++ listSequenceConfigs rest

end

/-- All sequences in a matcher treat white space alike. -/
def SequencesAgree (m : Matcher) : Prop :=
  ∀ config ∈ m.sequenceConfigs, ∀ config' ∈ m.sequenceConfigs,
    config.skipsBlanks = config'.skipsBlanks

instance (m : Matcher) : Decidable m.SequencesAgree :=
  inferInstanceAs (Decidable (∀ config ∈ m.sequenceConfigs, ∀ config' ∈ m.sequenceConfigs,
    config.skipsBlanks = config'.skipsBlanks))

theorem mem_sequenceConfigs_element {element : Matcher} {separator : Option Matcher} {least : Nat}
    {skipsBlanks : Bool} {config : Config} (h : config ∈ element.sequenceConfigs) :
    config ∈ (repetition element separator least skipsBlanks).sequenceConfigs := by
  cases separator with
  | none => exact h
  | some separator => exact List.mem_append_left _ h

theorem mem_stepsSequenceConfigs {steps : List (Step Matcher)} {m : Matcher} {config : Config}
    (hfirst : Step.firstMatcher? steps = some m) (h : config ∈ m.sequenceConfigs) :
    config ∈ stepsSequenceConfigs steps := by
  induction steps with
  | nil => cases hfirst
  | cons step steps ih =>
    cases step with
    | take name m' =>
      cases hfirst
      exact List.mem_append_left _ h
    | veto _ _ | alter _ _ => exact ih hfirst

theorem exists_config_of_frontSkipsBlanks (m : Matcher) :
    m.frontSkipsBlanks = true → ∃ config ∈ m.sequenceConfigs, config.skipsBlanks = true := by
  induction m using Matcher.induct with
  | sequence id steps config ih =>
    intro h
    rw [frontSkipsBlanks, Bool.or_eq_true] at h
    rcases h with hhere | hfirst
    · exact ⟨config, List.mem_cons_self, hhere⟩
    · rw [firstFrontSkipsBlanks_eq] at hfirst
      obtain ⟨m, hfirst, hskips⟩ := (Option.any_eq_true _ _).1 hfirst
      obtain ⟨name, hmem⟩ := Step.mem_of_firstMatcher? hfirst
      obtain ⟨inside, hinside, htrue⟩ := ih name m hmem hskips
      exact ⟨inside, List.mem_cons_of_mem _ (mem_stepsSequenceConfigs hfirst hinside), htrue⟩
  | repetition element separator least skipsBlanks ih _ =>
    intro h
    rw [frontSkipsBlanks, Bool.and_eq_true] at h
    obtain ⟨inside, hinside, htrue⟩ := ih h.2
    exact ⟨inside, mem_sequenceConfigs_element hinside, htrue⟩
  | named name inner ih => exact ih
  | guarded inner test ih => exact ih
  | closed inner rules ih _ => exact ih
  | literal _ | pattern _ | choice _ _ | optional _ _ _ | upTo _ _ | remainder | balanced _ _
  | reference _ _ =>
    intro h
    cases h

theorem skipsLeadingBlanks_of_agree (m : Matcher) (hagree : m.SequencesAgree) :
    m.frontSkipsBlanks = true → m.skipsLeadingBlanks = true := by
  induction m using Matcher.induct with
  | sequence id steps config ih =>
    intro h
    obtain ⟨inside, hinside, htrue⟩ := exists_config_of_frontSkipsBlanks _ h
    rw [skipsLeadingBlanks, ← htrue]
    exact hagree config List.mem_cons_self inside hinside
  | repetition element separator least skipsBlanks ih _ =>
    intro h
    rw [frontSkipsBlanks, Bool.and_eq_true] at h
    rw [skipsLeadingBlanks, Bool.and_eq_true]
    refine ⟨h.1, ih (fun config hconfig config' hconfig' => ?_) h.2⟩
    exact hagree config (mem_sequenceConfigs_element hconfig) config'
      (mem_sequenceConfigs_element hconfig')
  | named name inner ih => exact ih hagree
  | guarded inner test ih => exact ih hagree
  | closed inner rules ih _ => exact ih hagree
  | literal _ | pattern _ | choice _ _ | optional _ _ _ | upTo _ _ | remainder | balanced _ _
  | reference _ _ =>
    intro h
    cases h

/-- If all sequences agree, it is enough to ask the outermost one. -/
theorem announcesBlanks_of_agree {m : Matcher} (hagree : m.SequencesAgree) : m.AnnouncesBlanks :=
  fun _ _ _ => skipsLeadingBlanks_of_agree m hagree

end Matcher

end Excerpt
