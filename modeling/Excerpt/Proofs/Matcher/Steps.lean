import Excerpt.Proofs.Matcher.Standing
import Excerpt.Proofs.Text.Rendering

/-!
# Steps of a sequence

`attemptSteps` unfolded by one step, for a step that matches and for one that does not.  What a step
does to the progress is `Progress.take_eq_of_moves`; a literal step either goes on behind its text
or ends the sequence (`attemptSteps_literal_iff`).
-/

namespace Excerpt

/-- A step goes on behind its match.  If the match is empty, the step must have been tried right
where the sequence stood. -/
theorem Progress.take_eq_of_moves {p : Progress} {ready next : Cursor} {found : Match}
    (hmoves : ready.Moves found.matched next) (hplace : found.matched = [] → ready = p.current)
    (name : String) :
    p.take name ready (found.withName name) =
      .ok ⟨next, Fields.insert p.context name found.value, found.withName name :: p.children⟩ := by
  have hmatched : (found.withName name).matched = found.matched := rfl
  rw [Progress.take, hmatched]
  by_cases hempty : found.matched = []
  · rw [hempty] at hmoves
    have hnext : next = p.current := hmoves.eq_of_nil.trans (hplace hempty)
    simp only [hempty, hnext, List.isEmpty_nil, if_true]
    rfl
  · have htaken := Cursor.consume_eq_ok_iff.2 hmoves
    simp only [List.isEmpty_iff, if_neg hempty, htaken]
    rfl

/-- The step after a match is tried where it would be tried right behind the match, also if the
match is empty. -/
theorem Progress.ready_of_take {p p' : Progress} {skipsBlanks : Bool} {next : Cursor}
    {found : Match} {name : String}
    (htake : p.take name (p.current.ready skipsBlanks) (found.withName name) = .ok p')
    (hmoves : (p.current.ready skipsBlanks).Moves found.matched next) :
    p'.current.ready skipsBlanks = next.ready skipsBlanks := by
  obtain ⟨⟨hempty, hsame⟩ | ⟨_, hmoves'⟩, _⟩ := Progress.take_eq_ok htake
  · have hnil : found.matched = [] := hempty
    rw [hnil] at hmoves
    rw [hsame, hmoves.eq_of_nil, Cursor.ready_ready]
  · rw [hmoves'.eq hmoves]

section Steps

variable {admits : Admission} {call : Call} {id name : String} {config : Config} {start : Cursor}
  {m : Matcher} {steps : List (Step Matcher)} {rules : Rules} {p p' : Progress} {found : Match}

theorem attemptSteps_of_take
    (hattempt : m.attempt admits call rules (p.current.ready config.skipsBlanks) =
      some (.success found))
    (htake : p.take name (p.current.ready config.skipsBlanks) (found.withName name) = .ok p') :
    attemptSteps admits call id config start (.take name m :: steps) rules p =
      attemptSteps admits call id config start steps rules p' := by
  rw [attemptSteps]
  simp only [hattempt, htake]

theorem attemptSteps_of_failure {f : Failure}
    (hattempt : m.attempt admits call rules (p.current.ready config.skipsBlanks) =
      some (.failure f)) :
    attemptSteps admits call id config start (.take name m :: steps) rules p =
      some (.failure (.mk id start.offset p.context (.atStep name f))) := by
  rw [attemptSteps]
  simp only [hattempt]

theorem attemptSteps_of_absent {who : String} {offset : Nat}
    (hattempt : m.attempt admits call rules (p.current.ready config.skipsBlanks) =
      some (.absent who offset)) :
    attemptSteps admits call id config start (.take name m :: steps) rules p =
      attemptSteps admits call id config start steps rules p := by
  rw [attemptSteps]
  simp only [hattempt]

/-- A sequence that matches has gone past its next step: either the step was absent, or the other
steps match behind what it has taken. -/
theorem attemptSteps_take_eq_success (hstands : Attempt.Stands (m.attempt admits call rules))
    (h : attemptSteps admits call id config start (.take name m :: steps) rules p =
      some (.success found)) :
    (∃ who offset, m.attempt admits call rules (p.current.ready config.skipsBlanks) =
        some (.absent who offset) ∧
      attemptSteps admits call id config start steps rules p = some (.success found)) ∨
    ∃ part p', m.attempt admits call rules (p.current.ready config.skipsBlanks) =
        some (.success part) ∧
      p.take name (p.current.ready config.skipsBlanks) (part.withName name) = .ok p' ∧
      attemptSteps admits call id config start steps rules p' = some (.success found) := by
  cases hattempt : m.attempt admits call rules (p.current.ready config.skipsBlanks) with
  | none =>
    rw [attemptSteps] at h
    simp only [hattempt] at h
    cases h
  | some o =>
    cases o with
    | absent who offset =>
      rw [attemptSteps_of_absent hattempt] at h
      exact Or.inl ⟨who, offset, rfl, h⟩
    | failure f =>
      rw [attemptSteps_of_failure hattempt] at h
      cases h
    | success part =>
      obtain ⟨p', htake⟩ := Progress.exists_take (hstands _ _ hattempt).2 p name
      rw [attemptSteps_of_take hattempt htake] at h
      exact Or.inr ⟨part, p', rfl, htake, h⟩

/-- A sequence matches exactly if its next step matches and the other steps match behind it, as
long as the step stands by its text and cannot be absent. -/
theorem attemptSteps_take_iff (hstands : Attempt.Stands (m.attempt admits call rules))
    (hpresent : ∀ who offset, m.attempt admits call rules (p.current.ready config.skipsBlanks) ≠
      some (.absent who offset)) :
    attemptSteps admits call id config start (.take name m :: steps) rules p =
        some (.success found) ↔
      ∃ part p', m.attempt admits call rules (p.current.ready config.skipsBlanks) =
          some (.success part) ∧
        p.take name (p.current.ready config.skipsBlanks) (part.withName name) = .ok p' ∧
        attemptSteps admits call id config start steps rules p' = some (.success found) := by
  constructor
  · intro h
    refine (attemptSteps_take_eq_success hstands h).resolve_left ?_
    rintro ⟨who, offset, habsent, _⟩
    exact hpresent who offset habsent
  · rintro ⟨part, p', hattempt, htake, h⟩
    rw [attemptSteps_of_take hattempt htake]
    exact h

/-- In a sequence that skips no white space the next step is tried right behind the match. -/
theorem attemptSteps_strict {next : Cursor}
    (hattempt : m.attempt admits call rules p.current = some (.success found))
    (hmoves : p.current.Moves found.matched next) :
    attemptSteps admits call id .strict start (.take name m :: steps) rules p =
      attemptSteps admits call id .strict start steps rules
        ⟨next, Fields.insert p.context name found.value, found.withName name :: p.children⟩ :=
  attemptSteps_of_take hattempt (Progress.take_eq_of_moves hmoves (fun _ => rfl) name)

/-! ## Literal steps -/

theorem attemptLiteral_eq_success_iff {text : String} {c : Cursor} :
    attemptLiteral text c = .success found ↔
      (∃ next, c.Moves text.toList next) ∧
        found = .leaf (Text.quote text) text.toList c.offset (.string text) := by
  rw [attemptLiteral]
  constructor
  · intro h
    split at h
    · rename_i hstarts
      cases h
      exact ⟨Cursor.exists_moves_of_isPrefix (Cursor.startsWith_iff.1 hstarts), rfl⟩
    · cases h
  · rintro ⟨⟨next, hmoves⟩, rfl⟩
    rw [if_pos (Cursor.startsWith_iff.2 hmoves.isPrefix)]

theorem exists_attemptLiteral_failure {text : String} {c : Cursor} (h : ¬ text.toList <+: c.rest) :
    ∃ f, attemptLiteral text c = .failure f := by
  rw [attemptLiteral, if_neg (mt Cursor.startsWith_iff.1 h)]
  exact ⟨_, rfl⟩

theorem attempt_literal_of_moves {text : String} {c next : Cursor} (h : c.Moves text.toList next) :
    (Matcher.literal text).attempt admits call rules c =
      some (.success (.leaf (Text.quote text) text.toList c.offset (.string text))) := by
  rw [Matcher.attempt, attemptLiteral_eq_success_iff.2 ⟨⟨next, h⟩, rfl⟩]

/-- The progress behind a literal step, whose text ends at `next`. -/
def Progress.behindLiteral (p : Progress) (name text : String) (ready next : Cursor) :
    Progress where
  current := next
  context := Fields.insert p.context name (.string text)
  children :=
    (Match.leaf (Text.quote text) text.toList ready.offset (.string text)).withName name ::
      p.children

theorem attemptSteps_literal_of_not_stands {text : String}
    (hstands : ¬ text.toList <+: (p.current.ready config.skipsBlanks).rest) :
    ∃ f, attemptSteps admits call id config start (.take name (.literal text) :: steps) rules p =
      some (.failure f) := by
  obtain ⟨f, hfails⟩ := exists_attemptLiteral_failure hstands
  refine ⟨_, attemptSteps_of_failure (f := f) ?_⟩
  rw [Matcher.attempt, hfails]

/-- A sequence matches with a literal as its next step exactly if the text stands there, and the
other steps match behind it. -/
theorem attemptSteps_literal_iff {text : String} (htext : text.toList ≠ []) :
    attemptSteps admits call id config start (.take name (.literal text) :: steps) rules p =
        some (.success found) ↔
      ∃ next, (p.current.ready config.skipsBlanks).Moves text.toList next ∧
        attemptSteps admits call id config start steps rules
          (p.behindLiteral name text (p.current.ready config.skipsBlanks) next) =
            some (.success found) := by
  have htake : ∀ {next}, (p.current.ready config.skipsBlanks).Moves text.toList next →
      p.take name (p.current.ready config.skipsBlanks) ((Match.leaf (Text.quote text) text.toList
        (p.current.ready config.skipsBlanks).offset (.string text)).withName name) =
        .ok (p.behindLiteral name text (p.current.ready config.skipsBlanks) next) :=
    fun hmoves => Progress.take_eq_of_moves hmoves (fun hempty => absurd hempty htext) name
  rw [attemptSteps_take_iff]
  · constructor
    · rintro ⟨part, p', hpart, htaken, h⟩
      rw [Matcher.attempt, Option.some.injEq, attemptLiteral_eq_success_iff] at hpart
      obtain ⟨⟨next, hmoves⟩, rfl⟩ := hpart
      cases (htake hmoves).symm.trans htaken
      exact ⟨next, hmoves, h⟩
    · rintro ⟨next, hmoves, h⟩
      exact ⟨_, _, attempt_literal_of_moves hmoves, htake hmoves, h⟩
  · intro c o h
    rw [Matcher.attempt] at h
    cases h
    exact attemptLiteral_standsAt text c
  · intro who offset habsent
    rw [Matcher.attempt, attemptLiteral, Option.some.injEq] at habsent
    split at habsent <;> cases habsent

end Steps

end Excerpt
