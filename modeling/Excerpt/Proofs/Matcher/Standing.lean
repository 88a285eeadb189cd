import Excerpt.Proofs.Matcher.Depth

/-!
# Where outcomes stand

Every matcher trusts the text that the matchers below it report: it takes that text at the place
where it tried them, and gives up with an error of the engine if the text does not stand there.
`Outcome.StandsAt` is what makes this trust safe.  An outcome stands at the cursor of its attempt if
its offset is that of the cursor, the text of a match stands there, and a failure has nothing to do
with misreported text.  `attempt_stands` is the induction: if outcomes of the called rules stand
where they were asked for, then so do those of the matcher.  The loops need their parts to stand at
every place, so the property is one of attempts (`Attempt.Stands`), not of single outcomes.
-/

namespace Excerpt

mutual

/-- Text was reported that does not stand where it was tried. -/
def Reason.isMisreport : Reason → Bool
  | .misreported _ => true
  | .atStep _ cause => cause.isMisreport
  | _ => false

/-- The failure, or one that led to it, comes from misreported text. -/
def Failure.isMisreport : Failure → Bool
  | .mk _ _ _ reason => reason.isMisreport

end

/-- The outcome is one of an attempt at the cursor, and what it reports is so. -/
def Outcome.StandsAt (c : Cursor) : Outcome → Prop
  | .success m => m.offset = c.offset ∧ m.matched <+: c.rest
  | .failure f => f.offset = c.offset ∧ f.isMisreport = false
  | .absent _ offset => offset = c.offset

/-- Outcomes of the attempt stand where it is made. -/
def Attempt.Stands (a : Attempt) : Prop := ∀ c o, a c = some o → o.StandsAt c

theorem Outcome.StandsAt.offset_eq {c : Cursor} {o : Outcome} (h : o.StandsAt c) :
    o.offset = c.offset := by
  cases o with
  | success m => exact h.1
  | failure f => exact h.1
  | absent _ _ => exact h

/-- A match of an attempt that stands can be taken where it was tried. -/
theorem Attempt.Stands.exists_moves {a : Attempt} (h : a.Stands) {c : Cursor} {m : Match}
    (hattempt : a c = some (.success m)) : ∃ next, c.Moves m.matched next :=
  Cursor.exists_moves_of_isPrefix (h c _ hattempt).2

/-! ## Single matchers -/

theorem attemptLiteral_standsAt (text : String) (c : Cursor) :
    (attemptLiteral text c).StandsAt c := by
  rw [attemptLiteral]
  split
  · rename_i hstarts
    exact ⟨rfl, Cursor.startsWith_iff.1 hstarts⟩
  · exact ⟨rfl, rfl⟩

/-- A pattern reports as many characters of the text as it has read. -/
theorem Pattern.attempt_standsAt (p : Pattern) (c : Cursor) : (p.attempt c).StandsAt c := by
  rw [Pattern.attempt]
  cases hfront : p.front? c.rest with
  | none => exact ⟨rfl, rfl⟩
  | some found =>
    obtain ⟨matched, value⟩ := found
    refine ⟨rfl, ?_⟩
    show matched <+: c.rest
    obtain ⟨found, _, hfound⟩ := Option.map_eq_some_iff.1 hfront
    have hmatched : matched = c.rest.take found.length := by
      split at hfound <;> exact (Prod.mk.inj hfound).1.symm
    rw [hmatched]
    exact List.take_prefix _ _

theorem attemptBalanced_stands (d : Delimiters) (content : Content) :
    Attempt.Stands (attemptBalanced d content) := by
  intro c o h
  rcases attemptBalanced_cases h with rfl | rfl | ⟨front, inner, _, hfront, rfl⟩
  · exact ⟨rfl, rfl⟩
  · exact ⟨rfl, rfl⟩
  · exact ⟨rfl, Content.balancedFront?_isPrefix hfront⟩

theorem optionalOutcome_standsAt {o : Outcome} {c : Cursor} (h : o.StandsAt c) (id : String)
    (pulledUp : Option String) : (optionalOutcome id c.offset pulledUp o).StandsAt c := by
  cases o with
  | failure _ | absent _ _ => exact rfl
  | success m =>
    cases pulledUp with
    | none => exact h
    | some field => exact h

theorem guardedOutcome_standsAt {o : Outcome} {c : Cursor} (h : o.StandsAt c) (id : String)
    (test : Match → Bool) : (guardedOutcome id c.offset test o).StandsAt c := by
  cases o with
  | success m =>
    rw [guardedOutcome]
    split
    · exact h
    · exact ⟨rfl, rfl⟩
  | failure f =>
    obtain ⟨_, _, _, _⟩ := f
    exact ⟨rfl, h.2⟩
  | absent _ _ => exact ⟨rfl, rfl⟩

theorem namedOutcome_standsAt {o : Outcome} {c : Cursor} (h : o.StandsAt c) (name : String) :
    (namedOutcome name o).StandsAt c := by
  cases o with
  | success _ | failure _ | absent _ _ => exact h

theorem skippedMatch_standsAt {c last : Cursor} (h : c.Reaches last) (id : String) :
    (skippedMatch id c last).StandsAt c := by
  obtain ⟨t, hmoves⟩ := h
  refine ⟨rfl, ?_⟩
  show c.textTo last <+: c.rest
  rw [hmoves.textTo_eq]
  exact hmoves.isPrefix

/-! ## Repetitions -/

section Rounds

variable {element : Attempt} {separator : Option Attempt} {skipsBlanks : Bool}

theorem elementRound_ne_misreported (helement : element.Stands) (start c : Cursor) (offset : Nat)
    (error : ErrorKind) : elementRound element start c ≠ some (.misreported offset error) := by
  intro h
  rw [elementRound] at h
  cases hattempt : element c with
  | none =>
    rw [hattempt] at h
    cases h
  | some o =>
    rw [hattempt] at h
    cases o with
    | failure _ | absent _ _ => cases h
    | success m =>
      obtain ⟨next, hmoves⟩ := helement.exists_moves hattempt
      simp only [Cursor.consume_eq_ok_iff.2 hmoves] at h
      split at h <;> cases h

/-- A round of a repetition takes what its element and its separator report. -/
theorem repetitionRound_ne_misreported (helement : element.Stands)
    (hseparator : ∀ attempt, separator = some attempt → attempt.Stands) (isFirst : Bool)
    (c : Cursor) (offset : Nat) (error : ErrorKind) :
    repetitionRound element separator skipsBlanks isFirst c ≠ some (.misreported offset error) := by
  cases isFirst with
  | true => exact elementRound_ne_misreported helement c c offset error
  | false =>
    cases separator with
    | none => exact elementRound_ne_misreported helement c _ offset error
    | some separator =>
      intro h
      rw [repetitionRound, if_neg Bool.false_ne_true] at h
      cases hattempt : separator (c.ready skipsBlanks) with
      | none =>
        simp only [hattempt] at h
        cases h
      | some o =>
        simp only [hattempt] at h
        cases o with
        | failure _ | absent _ _ => cases h
        | success sep =>
          obtain ⟨behind, hmoves⟩ := (hseparator separator rfl).exists_moves hattempt
          simp only [Cursor.consume_eq_ok_iff.2 hmoves] at h
          exact elementRound_ne_misreported helement c _ offset error h

/-- The rounds of a repetition end at a place ahead, and not with an error. -/
theorem elements_eq_ok (helement : element.Stands)
    (hseparator : ∀ attempt, separator = some attempt → attempt.Stands) (fuel : Nat) :
    ∀ {found : List Match} {c : Cursor} {r : Except (Nat × ErrorKind) (List Match × Cursor)},
      elements element separator skipsBlanks fuel found c = some r →
      ∃ all last, r = .ok (all, last) ∧ c.Reaches last := by
  induction fuel with
  | zero =>
    intro found c r h
    cases h
    exact ⟨_, c, rfl, .refl c⟩
  | succ fuel ih =>
    intro found c r h
    rw [elements] at h
    split at h
    · cases h
      exact ⟨_, c, rfl, .refl c⟩
    · cases hround : repetitionRound element separator skipsBlanks found.isEmpty c with
      | none =>
        rw [hround] at h
        cases h
      | some round =>
        rw [hround] at h
        cases round with
        | «over» =>
          cases h
          exact ⟨_, c, rfl, .refl c⟩
        | misreported offset error =>
          exact absurd hround (repetitionRound_ne_misreported helement hseparator _ c offset error)
        | more m next =>
          obtain ⟨all, last, hr, hreach⟩ := ih h
          exact ⟨all, last, hr, (repetitionRound_reaches hround).trans hreach⟩

theorem attemptRepetition_stands (helement : element.Stands)
    (hseparator : ∀ attempt, separator = some attempt → attempt.Stands) (id : String)
    (least : Nat) : Attempt.Stands (attemptRepetition id element separator least skipsBlanks) := by
  intro c o h
  rw [attemptRepetition] at h
  cases hfound : elements element separator skipsBlanks (c.rest.length + 1) [] c with
  | none =>
    rw [hfound] at h
    cases h
  | some r =>
    obtain ⟨all, last, rfl, t, hmoves⟩ := elements_eq_ok helement hseparator _ hfound
    rw [hfound] at h
    simp only at h
    split at h
    · cases h
      exact ⟨rfl, rfl⟩
    · cases h
      refine ⟨rfl, ?_⟩
      show c.textTo last <+: c.rest
      rw [hmoves.textTo_eq]
      exact hmoves.isPrefix

/-- A repetition that needs no element does not fail. -/
theorem attemptRepetition_zero (helement : element.Stands)
    (hseparator : ∀ attempt, separator = some attempt → attempt.Stands) {id : String} {c : Cursor}
    {o : Outcome} (h : attemptRepetition id element separator 0 skipsBlanks c = some o) :
    ∃ m, o = .success m := by
  rw [attemptRepetition] at h
  cases hfound : elements element separator skipsBlanks (c.rest.length + 1) [] c with
  | none =>
    rw [hfound] at h
    cases h
  | some r =>
    obtain ⟨all, last, rfl, _⟩ := elements_eq_ok helement hseparator _ hfound
    rw [hfound] at h
    simp only [if_neg (Nat.not_lt_zero _)] at h
    cases h
    exact ⟨_, rfl⟩

end Rounds

/-! ## Sequences and choices -/

/-- The match of a step can be taken where the step was tried, whatever has been bound before. -/
theorem Progress.exists_take {ready : Cursor} {found : Match} (h : found.matched <+: ready.rest)
    (p : Progress) (name : String) : ∃ p', p.take name ready (found.withName name) = .ok p' := by
  rw [Progress.take]
  by_cases hempty : (found.withName name).matched.isEmpty = true
  · simp only [if_pos hempty]
    exact ⟨_, rfl⟩
  · obtain ⟨next, hmoves⟩ := Cursor.exists_moves_of_isPrefix h
    have htaken : ready.consume (found.withName name).matched = .ok next :=
      Cursor.consume_eq_ok_iff.2 hmoves
    simp only [if_neg hempty, htaken]
    exact ⟨_, rfl⟩

namespace Matcher

variable {admits : Admission} {call : Call} {rules : Rules}

theorem attemptSteps_standsAt {id : String} {config : Config} {start : Cursor} {o : Outcome}
    {steps : List (Step Matcher)}
    (ih : ∀ name m, .take name m ∈ steps → Attempt.Stands (m.attempt admits call rules)) :
    ∀ {p : Progress}, start.Reaches p.current →
      attemptSteps admits call id config start steps rules p = some o → o.StandsAt start := by
  induction steps with
  | nil =>
    intro p hreach h
    rw [attemptSteps] at h
    cases h
    obtain ⟨t, hmoves⟩ := hreach
    refine ⟨rfl, ?_⟩
    show start.textTo p.current <+: start.rest
    rw [hmoves.textTo_eq]
    exact hmoves.isPrefix
  | cons step steps ihsteps =>
    have hrest := @ihsteps fun name m hm => ih name m (List.mem_cons_of_mem _ hm)
    intro p hreach h
    cases step with
    | take name m =>
      rw [attemptSteps] at h
      have hready : start.Reaches (p.current.ready config.skipsBlanks) := hreach.ready _
      have hstands := ih name m List.mem_cons_self
      cases hattempt : m.attempt admits call rules (p.current.ready config.skipsBlanks) with
      | none =>
        simp only [hattempt] at h
        cases h
      | some o' =>
        simp only [hattempt] at h
        cases o' with
        | absent _ _ => exact hrest hreach h
        | failure f =>
          cases h
          exact ⟨rfl, (hstands _ _ hattempt).2⟩
        | success found =>
          obtain ⟨p', htake⟩ := Progress.exists_take (hstands _ _ hattempt).2 p name
          simp only [htake] at h
          exact hrest (Progress.reaches_of_take hreach hready htake) h
    | veto name accepts =>
      rw [attemptSteps] at h
      split at h
      · exact hrest hreach h
      · cases h
        exact ⟨rfl, rfl⟩
    | alter name value =>
      rw [attemptSteps] at h
      refine hrest ?_ h
      exact hreach

theorem attemptFirst_standsAt {id : String} {ch : Char} {c : Cursor} {o : Outcome}
    {alternatives : List Matcher}
    (ih : ∀ m ∈ alternatives, Attempt.Stands (m.attempt admits call rules))
    (h : attemptFirst admits call id ch alternatives rules c = some o) : o.StandsAt c := by
  induction alternatives with
  | nil =>
    rw [attemptFirst] at h
    cases h
    exact ⟨rfl, rfl⟩
  | cons m alternatives ihrest =>
    have hrest := ihrest fun m hm => ih m (List.mem_cons_of_mem _ hm)
    rw [attemptFirst] at h
    split at h
    · cases hattempt : m.attempt admits call rules c with
      | none =>
        rw [hattempt] at h
        cases h
      | some o' =>
        rw [hattempt] at h
        cases o' with
        | success found =>
          cases h
          exact ih m List.mem_cons_self c _ hattempt
        | failure _ | absent _ _ => exact hrest h
    · exact hrest h

/-! ## All matchers -/

/-- Outcomes stand where they were asked for, if those of the called rules do. -/
theorem attempt_stands (hcall : ∀ own definition, Attempt.Stands (call own definition))
    (m : Matcher) : ∀ rules, Attempt.Stands (m.attempt admits call rules) := by
  induction m using Matcher.induct with
  | literal text =>
    intro rules c o h
    rw [attempt] at h
    cases h
    exact attemptLiteral_standsAt text c
  | pattern p =>
    intro rules c o h
    rw [attempt] at h
    cases h
    exact p.attempt_standsAt c
  | sequence id steps config ih =>
    intro rules c o h
    rw [attempt] at h
    exact attemptSteps_standsAt (fun name m hm => ih name m hm rules) (.refl c) h
  | choice alternatives ih =>
    intro rules c o h
    rw [attempt] at h
    cases hnext : c.next? with
    | none =>
      simp only [hnext] at h
      cases h
      exact ⟨rfl, rfl⟩
    | some ch =>
      simp only [hnext] at h
      exact attemptFirst_standsAt (fun m hm => ih m hm rules) h
  | optional inner pulledUp ih =>
    intro rules c o h
    rw [attempt] at h
    split at h
    · cases h
      exact rfl
    · obtain ⟨o', hattempt, rfl⟩ := Option.map_eq_some_iff.1 h
      exact optionalOutcome_standsAt (ih rules c o' hattempt) _ _
  | repetition element separator least skipsBlanks ihe ihs =>
    intro rules c o h
    rw [attempt_repetition] at h
    refine attemptRepetition_stands (ihe rules) (fun attempt hattempt => ?_) _ least c o h
    obtain ⟨separator, hsome, rfl⟩ := Option.map_eq_some_iff.1 hattempt
    exact ihs separator hsome rules
  | named name inner ih =>
    intro rules c o h
    rw [attempt] at h
    obtain ⟨o', hattempt, rfl⟩ := Option.map_eq_some_iff.1 h
    exact namedOutcome_standsAt (ih rules c o' hattempt) name
  | guarded inner test ih =>
    intro rules c o h
    rw [attempt] at h
    obtain ⟨o', hattempt, rfl⟩ := Option.map_eq_some_iff.1 h
    exact guardedOutcome_standsAt (ih rules c o' hattempt) _ test
  | upTo terminator ih =>
    intro rules c o h
    rw [attempt] at h
    obtain ⟨last, hseek, rfl⟩ := Option.map_eq_some_iff.1 h
    exact skippedMatch_standsAt (seek_reaches hseek) _
  | remainder =>
    intro rules c o h
    rw [attempt] at h
    cases h
    have hmoves : c.Moves c.rest (c.advanceBy c.rest.length) :=
      Cursor.moves_advanceBy (List.append_nil c.rest).symm
    exact skippedMatch_standsAt ⟨_, hmoves⟩ _
  | balanced d content =>
    intro rules c o h
    rw [attempt] at h
    exact attemptBalanced_stands d content c o h
  | reference index name =>
    intro rules c o h
    obtain ⟨definition, _, hattempt⟩ | ⟨_, hattempt⟩ := attempt_reference_cases rules index name
    · rw [hattempt] at h
      exact hcall rules definition c o h
    · rw [hattempt] at h
      cases h
      exact ⟨rfl, rfl⟩
  | closed inner own ih _ =>
    intro rules c o h
    rw [attempt] at h
    exact ih own c o h

theorem follow_stands (admits : Admission) (depth : Nat) :
    ∀ own definition, Attempt.Stands (follow admits depth own definition) := by
  induction depth with
  | zero =>
    intro own definition c o h
    cases h
  | succ depth ih =>
    intro own definition c o h
    rw [follow, matchWith_eq_attempt] at h
    exact attempt_stands ih definition own c o h

/-- Whatever a matcher answers stands where it was tried. -/
theorem matchIn_stands (rules : Rules) (m : Matcher) : Attempt.Stands (m.matchIn rules) := by
  intro c o h
  rw [matchIn, matchWith_eq_attempt] at h
  exact attempt_stands (follow_stands _ _) m rules c o h

end Matcher

end Excerpt
