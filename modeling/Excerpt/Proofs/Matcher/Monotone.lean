import Excerpt.Proofs.Matcher.Callees
import Excerpt.Proofs.Matcher.FirstCharacter
import Excerpt.Proofs.Matcher.Loops

/-!
# Attempts that know more

`Matcher.attempt` is given how a rule is followed and which matchers are tried before a character.
Here two such environments are compared.  An attempt that has an outcome keeps it

* when calls are followed that had no outcome before, as long as those that had one keep theirs, and
* when other matchers are pruned, as long as only such are pruned as cannot start with the
  character.

`Matcher.attempt_below` is both statements in one, and asks about the calls only for what the
attempt can call at all, at places ahead of it.  Each loop has its own lemma before it
(`seek_below`, `elements_below`).
-/

namespace Excerpt

/-- At all places ahead of `c`, the attempt `a'` has the outcomes of `a`. -/
def Attempt.Below (c : Cursor) (a a' : Attempt) : Prop :=
  ∀ c' o, c.Reaches c' → a c' = some o → a' c' = some o

/-- Calls of `targets` at places ahead of `c` have under `call'` the outcomes they have under
`call`. -/
def Call.Below (targets : List (Rules × Matcher)) (c : Cursor) (call call' : Call) : Prop :=
  ∀ own definition, (own, definition) ∈ targets →
    Attempt.Below c (call own definition) (call' own definition)

/-- Only matchers that cannot start with a character are not tried before it. -/
def Admission.Sound (admits : Admission) : Prop :=
  ∀ m ch, m.canStartWith ch = true → admits m ch = true

theorem sound_canStartWith : Admission.Sound Matcher.canStartWith := fun _ _ h => h

theorem Attempt.Below.mono {c c' : Cursor} {a a' : Attempt} (h : Attempt.Below c a a')
    (hreach : c.Reaches c') : Attempt.Below c' a a' :=
  fun _ _ hahead ho => h _ _ (hreach.trans hahead) ho

theorem Call.Below.mono {targets targets' : List (Rules × Matcher)} {c c' : Cursor}
    {call call' : Call} (h : Call.Below targets c call call') (hsubset : targets' ⊆ targets)
    (hreach : c.Reaches c') : Call.Below targets' c' call call' :=
  fun own definition hmem => (h own definition (hsubset hmem)).mono hreach

/-! ## Loops -/

theorem seek_below {stops stops' : Char → Cursor → Option Bool} {c last : Cursor}
    (hstops : ∀ ch c' stop, c.Reaches c' → c'.next? = some ch → stops ch c' = some stop →
      stops' ch c' = some stop)
    (h : seek stops c = some last) : seek stops' c = some last := by
  induction c using Cursor.forward with
  | finished c hrest =>
    rw [seek_nil hrest] at h ⊢
    exact h
  | step c ch rest hrest ih =>
    have hnext : c.next? = some ch := Cursor.next?_eq_some_iff.2 ⟨rest, hrest⟩
    rw [seek_cons hrest] at h ⊢
    cases hstop : stops ch c with
    | none =>
      rw [hstop] at h
      cases h
    | some stop =>
      rw [hstop] at h
      rw [hstops ch c stop (.refl c) hnext hstop]
      cases stop with
      | true => exact h
      | false =>
        refine ih (fun ch' c' stop' hreach => ?_) h
        exact hstops ch' c' stop' ((Cursor.reaches_advance c).trans hreach)

section Rounds

variable {element element' : Attempt} {c : Cursor} {skipsBlanks : Bool}

theorem elementRound_below {start place : Cursor} {r : Round}
    (helement : Attempt.Below c element element') (hreach : c.Reaches place)
    (h : elementRound element start place = some r) :
    elementRound element' start place = some r := by
  rw [elementRound] at h ⊢
  cases hattempt : element place with
  | none =>
    rw [hattempt] at h
    cases h
  | some o =>
    rw [hattempt] at h
    rw [helement place o hreach hattempt]
    exact h

theorem repetitionRound_below {separator separator' : Option Attempt} {isFirst : Bool}
    {place : Cursor} {r : Round} (helement : Attempt.Below c element element')
    (hseparator : Option.Rel (Attempt.Below c) separator separator') (hreach : c.Reaches place)
    (h : repetitionRound element separator skipsBlanks isFirst place = some r) :
    repetitionRound element' separator' skipsBlanks isFirst place = some r := by
  have hready : c.Reaches (place.ready skipsBlanks) := hreach.ready skipsBlanks
  cases isFirst with
  | true => exact elementRound_below helement hreach h
  | false =>
    cases hseparator with
    | none => exact elementRound_below helement hready h
    | @some separator separator' hbelow =>
      rw [repetitionRound, if_neg Bool.false_ne_true] at h ⊢
      cases hattempt : separator (place.ready skipsBlanks) with
      | none =>
        simp only [hattempt] at h
        cases h
      | some o =>
        simp only [hattempt] at h
        simp only [hbelow _ o hready hattempt]
        cases o with
        | failure _ | absent _ _ => exact h
        | success sep =>
          cases htaken : (place.ready skipsBlanks).consume sep.matched with
          | error error =>
            simp only [htaken] at h ⊢
            exact h
          | ok behind =>
            simp only [htaken] at h ⊢
            exact elementRound_below helement ((hready.consume htaken).ready skipsBlanks) h

theorem elements_below {separator separator' : Option Attempt}
    {r : Except (Nat × ErrorKind) (List Match × Cursor)}
    (helement : Attempt.Below c element element')
    (hseparator : Option.Rel (Attempt.Below c) separator separator') (fuel : Nat) :
    ∀ {found : List Match} {place : Cursor}, c.Reaches place →
      elements element separator skipsBlanks fuel found place = some r →
      elements element' separator' skipsBlanks fuel found place = some r := by
  induction fuel with
  | zero =>
    intro found place _ h
    exact h
  | succ fuel ih =>
    intro found place hreach h
    rw [elements] at h ⊢
    split at h
    · rename_i hexhausted
      rw [if_pos hexhausted]
      exact h
    · rename_i hexhausted
      rw [if_neg hexhausted]
      cases hround : repetitionRound element separator skipsBlanks found.isEmpty place with
      | none =>
        rw [hround] at h
        cases h
      | some round =>
        rw [hround] at h
        rw [repetitionRound_below helement hseparator hreach hround]
        cases round with
        | «over» | misreported _ _ => exact h
        | more m next => exact ih (hreach.trans (repetitionRound_reaches hround)) h

theorem attemptRepetition_below {id : String} {separator separator' : Option Attempt} {least : Nat}
    {o : Outcome} (helement : Attempt.Below c element element')
    (hseparator : Option.Rel (Attempt.Below c) separator separator')
    (h : attemptRepetition id element separator least skipsBlanks c = some o) :
    attemptRepetition id element' separator' least skipsBlanks c = some o := by
  rw [attemptRepetition] at h ⊢
  cases hfound : elements element separator skipsBlanks (c.rest.length + 1) [] c with
  | none =>
    rw [hfound] at h
    cases h
  | some r =>
    rw [hfound] at h
    rw [elements_below helement hseparator _ (.refl c) hfound]
    exact h

end Rounds

/-! ## All matchers -/

namespace Matcher

variable {admits admits' : Admission} {call call' : Call} {rules : Rules}

/-- Attempts of `m` keep their outcomes from the first environment in the second one. -/
def KeepsOutcomes (admits admits' : Admission) (call call' : Call) (m : Matcher) : Prop :=
  ∀ (rules : Rules) (c : Cursor) (o : Outcome), Call.Below (m.calleesUnder rules) c call call' →
    m.attempt admits call rules c = some o → m.attempt admits' call' rules c = some o

theorem KeepsOutcomes.below {m : Matcher} {c : Cursor}
    (h : KeepsOutcomes admits admits' call call' m)
    (hcalls : Call.Below (m.calleesUnder rules) c call call') :
    Attempt.Below c (m.attempt admits call rules) (m.attempt admits' call' rules) :=
  fun _ _ hreach ho => h _ _ _ (hcalls.mono (List.Subset.refl _) hreach) ho

theorem KeepsOutcomes.map_eq {m : Matcher} {c : Cursor} {f : Outcome → Outcome} {o : Outcome}
    (h : KeepsOutcomes admits admits' call call' m)
    (hcalls : Call.Below (m.calleesUnder rules) c call call')
    (ho : (m.attempt admits call rules c).map f = some o) :
    (m.attempt admits' call' rules c).map f = some o := by
  obtain ⟨o', hattempt, rfl⟩ := Option.map_eq_some_iff.1 ho
  rw [h _ _ _ hcalls hattempt, Option.map_some]

/-- A part of a matcher calls no more than the matcher. -/
theorem below_of_part {m part : Matcher} {c : Cursor}
    (hcalls : Call.Below (m.calleesUnder rules) c call call') (hpart : part.callees ⊆ m.callees) :
    Call.Below (part.calleesUnder rules) c call call' :=
  hcalls.mono (calleesUnder_mono rules hpart) (.refl c)

theorem attemptSteps_below {id : String} {config : Config} {start : Cursor} {o : Outcome}
    {steps : List (Step Matcher)}
    (ih : ∀ name m, .take name m ∈ steps → KeepsOutcomes admits admits' call call' m)
    (hcalls : ∀ name m, .take name m ∈ steps →
      Call.Below (m.calleesUnder rules) start call call') :
    ∀ {p : Progress}, start.Reaches p.current →
      attemptSteps admits call id config start steps rules p = some o →
      attemptSteps admits' call' id config start steps rules p = some o := by
  induction steps with
  | nil =>
    intro p _ h
    rw [attemptSteps] at h ⊢
    exact h
  | cons step steps ihsteps =>
    have hrest := @ihsteps (fun name m hm => ih name m (List.mem_cons_of_mem _ hm))
      (fun name m hm => hcalls name m (List.mem_cons_of_mem _ hm))
    intro p hreach h
    cases step with
    | take name m =>
      have hready : start.Reaches (p.current.ready config.skipsBlanks) := hreach.ready _
      have hbelow := (ih name m List.mem_cons_self).below (hcalls name m List.mem_cons_self)
      rw [attemptSteps] at h ⊢
      cases hattempt : m.attempt admits call rules (p.current.ready config.skipsBlanks) with
      | none =>
        simp only [hattempt] at h
        cases h
      | some o' =>
        simp only [hattempt] at h
        simp only [hbelow _ _ hready hattempt]
        cases o' with
        | failure f => exact h
        | absent _ _ => exact hrest hreach h
        | success found =>
          cases htake : p.take name (p.current.ready config.skipsBlanks) (found.withName name) with
          | error error =>
            simp only [htake] at h ⊢
            exact h
          | ok p' =>
            simp only [htake] at h ⊢
            exact hrest (Progress.reaches_of_take hreach hready htake) h
    | veto name accepts =>
      rw [attemptSteps] at h ⊢
      split at h
      · rename_i haccepts
        rw [if_pos haccepts]
        exact hrest hreach h
      · rename_i haccepts
        rw [if_neg haccepts]
        exact h
    | alter name value =>
      rw [attemptSteps] at h ⊢
      exact hrest hreach h

/-- Where only one of the environments tries an alternative, the alternative fails at once. -/
theorem attemptFirst_below (hadmits : admits.Sound) (hadmits' : admits'.Sound) {id : String}
    {ch : Char} {c : Cursor} {o : Outcome} (hnext : c.next? = some ch) {alternatives : List Matcher}
    (ih : ∀ m ∈ alternatives, KeepsOutcomes admits admits' call call' m)
    (hcalls : ∀ m ∈ alternatives, Call.Below (m.calleesUnder rules) c call call') :
    attemptFirst admits call id ch alternatives rules c = some o →
      attemptFirst admits' call' id ch alternatives rules c = some o := by
  induction alternatives with
  | nil =>
    intro h
    rw [attemptFirst] at h ⊢
    exact h
  | cons m alternatives ihrest =>
    have hrest := ihrest (fun m hm => ih m (List.mem_cons_of_mem _ hm))
      (fun m hm => hcalls m (List.mem_cons_of_mem _ hm))
    intro h
    rw [attemptFirst] at h ⊢
    by_cases hstarts : m.canStartWith ch = true
    · rw [if_pos (hadmits m ch hstarts)] at h
      rw [if_pos (hadmits' m ch hstarts)]
      cases hattempt : m.attempt admits call rules c with
      | none =>
        rw [hattempt] at h
        cases h
      | some o' =>
        rw [hattempt] at h
        rw [ih m List.mem_cons_self _ _ _ (hcalls m List.mem_cons_self) hattempt]
        cases o' with
        | success found => exact h
        | failure _ | absent _ _ => exact hrest h
    · have hfails := m.failsAt_of_not_canStartWith hnext (Bool.eq_false_iff.2 hstarts)
      obtain ⟨f, hf⟩ := hfails admits call rules
      obtain ⟨f', hf'⟩ := hfails admits' call' rules
      rw [hf] at h
      rw [hf']
      have hrest' := hrest (by split at h <;> exact h)
      split <;> exact hrest'

/-- Where only one of the environments tries the terminator, the terminator fails at once. -/
theorem terminator_below (hadmits : admits.Sound) (hadmits' : admits'.Sound) {terminator : Matcher}
    {ch : Char} {c c' : Cursor} {stop : Bool} (hnext : c'.next? = some ch)
    (hbelow : Attempt.Below c (terminator.attempt admits call rules)
      (terminator.attempt admits' call' rules)) (hreach : c.Reaches c')
    (h : (if admits terminator ch then
      (terminator.attempt admits call rules c').map Outcome.isMatch else some false) = some stop) :
    (if admits' terminator ch then
      (terminator.attempt admits' call' rules c').map Outcome.isMatch else some false) =
      some stop := by
  by_cases hstarts : terminator.canStartWith ch = true
  · rw [if_pos (hadmits _ _ hstarts)] at h
    rw [if_pos (hadmits' _ _ hstarts)]
    obtain ⟨o, hattempt, rfl⟩ := Option.map_eq_some_iff.1 h
    rw [hbelow c' o hreach hattempt, Option.map_some]
  · have hfails := terminator.failsAt_of_not_canStartWith hnext (Bool.eq_false_iff.2 hstarts)
    obtain ⟨f, hf⟩ := hfails admits call rules
    obtain ⟨f', hf'⟩ := hfails admits' call' rules
    have hgoes : stop = false := by
      rw [hf] at h
      split at h <;> cases h <;> rfl
    rw [hf', hgoes]
    split <;> rfl

/-- An outcome is kept when more calls have theirs, and when other hopeless matchers are pruned. -/
theorem attempt_below (hadmits : admits.Sound) (hadmits' : admits'.Sound) (m : Matcher) :
    KeepsOutcomes admits admits' call call' m := by
  induction m using Matcher.induct with
  -- These look at the text only.
  | literal _ | pattern _ | remainder | balanced _ _ =>
    intro rules c o _ h
    rw [attempt] at h ⊢
    exact h
  | sequence id steps config ih =>
    intro rules c o hcalls h
    rw [attempt] at h ⊢
    refine attemptSteps_below ih (fun name m hm => ?_) (.refl c) h
    exact below_of_part hcalls fun _ hx => mem_stepsCallees hm hx
  | choice alternatives ih =>
    intro rules c o hcalls h
    rw [attempt] at h ⊢
    cases hnext : c.next? with
    | none =>
      simp only [hnext] at h ⊢
      exact h
    | some ch =>
      simp only [hnext] at h ⊢
      refine attemptFirst_below hadmits hadmits' hnext ih (fun m hm => ?_) h
      exact below_of_part hcalls fun _ hx => mem_listCallees_iff.2 ⟨m, hm, hx⟩
  | optional inner pulledUp ih =>
    intro rules c o hcalls h
    rw [attempt] at h ⊢
    split at h
    · rename_i hexhausted
      rw [if_pos hexhausted]
      exact h
    · rename_i hexhausted
      rw [if_neg hexhausted]
      exact ih.map_eq hcalls h
  | repetition element separator least skipsBlanks ihe ihs =>
    intro rules c o hcalls h
    rw [attempt_repetition] at h ⊢
    refine attemptRepetition_below (ihe.below ?_) ?_ h
    · cases separator with
      | none => exact hcalls
      | some separator => exact below_of_part hcalls (List.subset_append_left _ _)
    · cases separator with
      | none => exact .none
      | some separator =>
        refine .some ((ihs separator rfl).below ?_)
        exact below_of_part hcalls (List.subset_append_right _ _)
  | named name inner ih =>
    intro rules c o hcalls h
    rw [attempt] at h ⊢
    exact ih.map_eq hcalls h
  | guarded inner test ih =>
    intro rules c o hcalls h
    rw [attempt] at h ⊢
    exact ih.map_eq hcalls h
  | upTo terminator ih =>
    intro rules c o hcalls h
    rw [attempt] at h ⊢
    obtain ⟨last, hseek, ho⟩ := Option.map_eq_some_iff.1 h
    have hseek' := seek_below (fun ch c' stop hreach hnext =>
      terminator_below hadmits hadmits' hnext (ih.below hcalls) hreach) hseek
    rw [hseek', ← ho]
    rfl
  | reference index name =>
    intro rules c o hcalls h
    obtain ⟨definition, hrule, hattempt⟩ | ⟨_, hattempt⟩ :=
      attempt_reference_cases rules index name
    · rw [hattempt] at h ⊢
      have hmem : (rules, definition) ∈ rules.callees :=
        Rules.mem_callees (List.mem_of_getElem? hrule)
      exact hcalls rules definition (List.mem_append_right _ hmem) c o (.refl c) h
    · rw [hattempt] at h ⊢
      exact h
  | closed inner own ih _ =>
    intro rules c o hcalls h
    rw [attempt] at h ⊢
    refine ih _ _ _ (hcalls.mono ?_ (.refl c)) h
    exact List.subset_append_left _ _

end Matcher

end Excerpt
