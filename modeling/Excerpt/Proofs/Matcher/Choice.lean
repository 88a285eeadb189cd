import Excerpt.Proofs.Matcher.LeftRecursion

/-!
# Ordered choice

A choice takes the first of its alternatives that is matched.  That it does not try those that
cannot start with the next character makes no difference: they would fail, so they are passed over
either way (`attemptFirst_cons`).  At the end of the text there is no next character, and a choice
gives up there without trying anything.  `ordered_choice` says both.
-/

namespace Excerpt.Matcher

variable {rules : Rules} {c : Cursor} {ch : Char} {id : String} {alternative : Matcher}
  {alternatives : List Matcher}

/-- A matcher has an outcome at a place, and it is not a match. -/
def PassedOver (rules : Rules) (c : Cursor) (m : Matcher) : Prop :=
  ∃ o, m.matchIn rules c = some o ∧ o.isMatch = false

theorem passedOver_of_not_canStartWith (hnext : c.next? = some ch)
    (hrejects : alternative.canStartWith ch = false) : PassedOver rules c alternative := by
  have hfails := failsAt_of_not_canStartWith alternative hnext hrejects
  obtain ⟨f, hf⟩ := hfails canStartWith matching rules
  exact ⟨.failure f, (matchIn_eq_attempt rules alternative c).trans hf, rfl⟩

/-- An alternative that is passed over leaves the choice to those behind it. -/
theorem attemptFirst_of_passedOver (hpassed : PassedOver rules c alternative) :
    attemptFirst canStartWith matching id ch (alternative :: alternatives) rules c =
      attemptFirst canStartWith matching id ch alternatives rules c := by
  obtain ⟨o, ho, hnot⟩ := hpassed
  rw [matchIn_eq_attempt] at ho
  rw [attemptFirst]
  split
  · rw [ho]
    cases o with
    | success _ => cases hnot
    | failure _ | absent _ _ => rfl
  · rfl

/-- What the first alternative answers, whether or not it can start with the next character. -/
theorem attemptFirst_cons (hnext : c.next? = some ch) :
    attemptFirst canStartWith matching id ch (alternative :: alternatives) rules c =
      match alternative.matchIn rules c with
      | none => none
      | some (.success m) => some (.success m)
      | some _ => attemptFirst canStartWith matching id ch alternatives rules c := by
  cases hcan : alternative.canStartWith ch with
  | true =>
    have hattempt : alternative.attempt canStartWith matching rules c =
        alternative.matchIn rules c := (matchIn_eq_attempt rules alternative c).symm
    rw [attemptFirst, if_pos hcan]
    exact hattempt ▸ rfl
  | false =>
    have hpassed : PassedOver rules c alternative := passedOver_of_not_canStartWith hnext hcan
    rw [attemptFirst_of_passedOver hpassed]
    obtain ⟨o, ho, hnot⟩ := hpassed
    rw [ho]
    cases o with
    | success _ => cases hnot
    | failure _ | absent _ _ => rfl

/-- The match is that of an alternative which all others before it leave it to.  This is so whatever
calls are made, if what comes of them is what comes of matching. -/
theorem exists_first_of_attemptFirst {call : Call} {m : Match}
    (hcall : ∀ a o, attempt canStartWith call a rules c = some o → a.matchIn rules c = some o)
    (hnext : c.next? = some ch)
    (h : attemptFirst canStartWith call id ch alternatives rules c = some (.success m)) :
    ∃ before alternative behind, alternatives = before ++ alternative :: behind ∧
      (∀ a ∈ before, PassedOver rules c a) ∧
      alternative.attempt canStartWith call rules c = some (.success m) := by
  induction alternatives with
  | nil =>
    rw [attemptFirst] at h
    cases h
  | cons first alternatives ih =>
    have hlater (hpassed : PassedOver rules c first)
        (h : attemptFirst canStartWith call id ch alternatives rules c = some (.success m)) :
        ∃ before alternative behind, first :: alternatives = before ++ alternative :: behind ∧
          (∀ a ∈ before, PassedOver rules c a) ∧
          alternative.attempt canStartWith call rules c = some (.success m) := by
      obtain ⟨before, alternative, behind, rfl, hbefore, hmatch⟩ := ih h
      exact ⟨first :: before, alternative, behind, rfl,
        List.forall_mem_cons.2 ⟨hpassed, hbefore⟩, hmatch⟩
    rw [attemptFirst] at h
    split at h
    · cases hfirst : first.attempt canStartWith call rules c with
      | none =>
        rw [hfirst] at h
        cases h
      | some o =>
        rw [hfirst] at h
        cases o with
        | success m' =>
          cases h
          exact ⟨[], first, alternatives, rfl, List.forall_mem_nil _, hfirst⟩
        | failure _ | absent _ _ => exact hlater ⟨_, hcall _ _ hfirst, rfl⟩ h
    · rename_i hrejects
      exact hlater (passedOver_of_not_canStartWith hnext (Bool.not_eq_true _ |>.mp hrejects)) h

/-- The match is that of an alternative which all others before it leave it to. -/
theorem attemptFirst_eq_success_iff (hnext : c.next? = some ch) {m : Match} :
    attemptFirst canStartWith matching id ch alternatives rules c = some (.success m) ↔
      ∃ before alternative behind, alternatives = before ++ alternative :: behind ∧
        (∀ a ∈ before, PassedOver rules c a) ∧
        alternative.matchIn rules c = some (.success m) := by
  constructor
  · intro h
    obtain ⟨before, alternative, behind, hsplit, hbefore, hmatch⟩ :=
      exists_first_of_attemptFirst (fun a o ho => (matchIn_eq_attempt rules a c).trans ho) hnext h
    exact ⟨before, alternative, behind, hsplit, hbefore,
      (matchIn_eq_attempt rules alternative c).trans hmatch⟩
  · rintro ⟨before, alternative, behind, rfl, hbefore, hmatch⟩
    induction before with
    | nil =>
      rw [List.nil_append, attemptFirst_cons hnext, hmatch]
    | cons first before ih =>
      obtain ⟨hfirst, hbefore⟩ := List.forall_mem_cons.1 hbefore
      rw [List.cons_append, attemptFirst_of_passedOver hfirst]
      exact ih hbefore

/-- Without a match the choice fails itself, when all alternatives have been passed over. -/
theorem attemptFirst_eq_not_match_iff (hnext : c.next? = some ch) {o : Outcome}
    (hnot : o.isMatch = false) :
    attemptFirst canStartWith matching id ch alternatives rules c = some o ↔
      (∀ a ∈ alternatives, PassedOver rules c a) ∧ o = .fail id c.offset .noAlternative := by
  induction alternatives with
  | nil =>
    rw [attemptFirst, Option.some_inj]
    simp [eq_comm]
  | cons first alternatives ih =>
    by_cases hpassed : PassedOver rules c first
    · rw [attemptFirst_of_passedOver hpassed, ih, List.forall_mem_cons]
      simp [hpassed]
    · rw [attemptFirst_cons hnext, List.forall_mem_cons]
      cases hfirst : first.matchIn rules c with
      | none => simp [hpassed]
      | some o' =>
        cases o' with
        | success m =>
          simp only [hpassed, false_and, iff_false, Option.some_inj]
          rintro rfl
          cases hnot
        | failure _ | absent _ _ => exact absurd ⟨_, hfirst, rfl⟩ hpassed

theorem matchIn_choice (hnext : c.next? = some ch) :
    (choice alternatives).matchIn rules c =
      attemptFirst canStartWith matching (choice alternatives).id ch alternatives rules c := by
  rw [matchIn_eq_attempt, attempt]
  simp only [hnext]

theorem matchIn_choice_of_nil (hend : c.rest = []) :
    (choice alternatives).matchIn rules c =
      some (.fail (choice alternatives).id c.offset .inputExhausted) := by
  have hnext : c.next? = none := by
    rw [Cursor.next?, hend]
    rfl
  rw [matchIn_eq_attempt, attempt]
  simp only [hnext]

/-- Before the end of the text a choice answers the match of its first alternative that is matched,
and fails itself where none is.  At the end of the text it always fails itself. -/
theorem ordered_choice (rules : Rules) (alternatives : List Matcher) (c : Cursor) :
    (c.rest = [] → (choice alternatives).matchIn rules c =
      some (.fail (choice alternatives).id c.offset .inputExhausted)) ∧
    (c.rest ≠ [] →
      (∀ m, (choice alternatives).matchIn rules c = some (.success m) ↔
        ∃ before alternative behind, alternatives = before ++ alternative :: behind ∧
          (∀ a ∈ before, PassedOver rules c a) ∧
          alternative.matchIn rules c = some (.success m)) ∧
      (∀ o, o.isMatch = false → ((choice alternatives).matchIn rules c = some o ↔
        (∀ a ∈ alternatives, PassedOver rules c a) ∧
          o = .fail (choice alternatives).id c.offset .noAlternative)) ∧
      ((∀ a ∈ alternatives, (a.matchIn rules c).isSome = true) →
        ((∃ m, (choice alternatives).matchIn rules c = some (.success m)) ↔
          ∃ a ∈ alternatives, ∃ m, a.matchIn rules c = some (.success m)))) := by
  refine ⟨matchIn_choice_of_nil, fun hmore => ?_⟩
  obtain ⟨ch, rest, hrest⟩ := List.exists_cons_of_ne_nil hmore
  have hnext : c.next? = some ch := Cursor.next?_eq_some_iff.2 ⟨rest, hrest⟩
  rw [matchIn_choice hnext]
  refine ⟨fun m => attemptFirst_eq_success_iff hnext,
    fun o hnot => attemptFirst_eq_not_match_iff hnext hnot, fun hends => ⟨?_, ?_⟩⟩
  · rintro ⟨m, hm⟩
    obtain ⟨_, alternative, _, rfl, _, hmatch⟩ := (attemptFirst_eq_success_iff hnext).1 hm
    exact ⟨alternative, by simp, m, hmatch⟩
  · rintro ⟨a, ha, m, hm⟩
    have hsome : Agree False
        (attemptFirst canStartWith matching (choice alternatives).id ch alternatives rules c)
        (attemptFirst canStartWith matching (choice alternatives).id ch alternatives rules c) :=
      attemptFirst_agree fun a ha => .of_isSome (matchIn_eq_attempt rules a c ▸ hends a ha)
    obtain ⟨o, ho⟩ := Option.isSome_iff_exists.1 hsome.isSome
    cases hmatch : o.isMatch with
    | true =>
      cases o with
      | success m => exact ⟨m, ho⟩
      | failure _ | absent _ _ => cases hmatch
    | false =>
      obtain ⟨o', ho', hnot⟩ := ((attemptFirst_eq_not_match_iff hnext hmatch).1 ho).1 a ha
      rw [hm] at ho'
      cases ho'
      cases hnot

/-- A choice between runs of a letter only. -/
def runChoice : Matcher := .choice [.repetition (.literal "x") none 0 true]

/-- At the end of the text it fails, though its alternative is matched there. -/
theorem runChoice_fails_atEnd :
    runChoice.matchIn [] (Cursor.ofString "") = some (.fail runChoice.id 0 .inputExhausted) ∧
      ∃ m, (repetition (.literal "x") none 0 true).matchIn [] (Cursor.ofString "") =
        some (.success m) :=
  ⟨rfl, _, rfl⟩

end Excerpt.Matcher
