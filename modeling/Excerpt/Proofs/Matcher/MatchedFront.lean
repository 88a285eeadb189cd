import Excerpt.Proofs.Matcher.Closed
import Excerpt.Proofs.Matcher.RequiredFront
import Excerpt.Proofs.Matcher.Success
import Excerpt.Proofs.Repetition.Chain
import Excerpt.Proofs.Sequence.Consumption

/-!
# The front of a match

`Matcher.requiredFront?` looks at the first matching step of a sequence and at the element of a
repetition only.  That is enough because neither can be left out:

* `matchIn_ne_absent` : a matcher with a required front is never absent, so the first matching step
  of a sequence contributes the first part (`Course.Runs.exists_first_part`), and
* a repetition that needs an element fails without a first one, which stands where the repetition
  began.

White space before the front belongs to the match where a sequence on the way to it skips white
space (`Text.BeginsWith`).  `requiredFront_sound` says so of all matchers, rules and places.
-/

namespace Excerpt

/-- A text begins with a front.  If white space is skipped, some of it may come before. -/
def Text.BeginsWith (skips : Bool) (front t : Text) : Prop :=
  ∃ gap rest, t = gap ++ front ++ rest ∧ (∀ ch ∈ gap, isBlank ch = true) ∧
    (skips = false → gap = [])

namespace Text.BeginsWith

variable {skips skips' : Bool} {front gap t t' : Text}

theorem of_isPrefix (skips : Bool) (h : front <+: t) : BeginsWith skips front t := by
  obtain ⟨rest, rfl⟩ := h
  exact ⟨[], rest, rfl, by simp, fun _ => rfl⟩

theorem append (h : BeginsWith skips front t) (t' : Text) : BeginsWith skips front (t ++ t') := by
  obtain ⟨gap, rest, rfl, hblank, hnone⟩ := h
  exact ⟨gap, rest ++ t', by simp only [List.append_assoc], hblank, hnone⟩

/-- More white space may come before. -/
theorem behind (h : BeginsWith skips front t) (hblank : ∀ ch ∈ gap, isBlank ch = true)
    (hnone : skips' = false → gap = []) : BeginsWith (skips' || skips) front (gap ++ t) := by
  obtain ⟨gap', rest, rfl, hblank', hnone'⟩ := h
  refine ⟨gap ++ gap', rest, by simp only [List.append_assoc], ?_, ?_⟩
  · exact List.forall_mem_append.2 ⟨hblank, hblank'⟩
  · intro hskips
    obtain ⟨hskips', hskips⟩ := Bool.or_eq_false_iff.1 hskips
    rw [hnone hskips', hnone' hskips]
    rfl

/-- A text that is empty begins with nothing else. -/
theorem eq_nil (h : BeginsWith skips front []) : front = [] := by
  obtain ⟨gap, rest, heq, _, _⟩ := h
  simp only [List.nil_eq, List.append_eq_nil_iff] at heq
  exact heq.1.2

end Text.BeginsWith

theorem Cursor.isBlank_of_mem_gap {c : Cursor} {skipsBlanks : Bool} {ch : Char}
    (h : ch ∈ c.gap skipsBlanks) : Text.isBlank ch = true := by
  rw [gap] at h
  split at h
  · exact List.mem_takeWhile_imp h
  · cases h

/-! ## The first part of a sequence -/

theorem Step.firstMatcher?_append (steps steps' : List (Step Matcher)) :
    firstMatcher? (steps ++ steps') = (firstMatcher? steps).or (firstMatcher? steps') := by
  induction steps with
  | nil => rfl
  | cons step steps ih =>
    cases step with
    | take _ _ => rfl
    | veto _ _ | alter _ _ => exact ih

namespace Course

variable {attempt : Matcher → Attempt} {skipsBlanks : Bool} {start : Cursor} {course : Course}

/-- Only matching steps contribute parts. -/
theorem Runs.parts_eq_nil (h : course.Runs attempt skipsBlanks start)
    (hnone : Step.firstMatcher? course.steps = none) : course.parts = [] := by
  induction h with
  | nil => rfl
  | @concat course step result _ hstep ih =>
    rw [steps_concat, Step.firstMatcher?_append, Option.or_eq_none_iff] at hnone
    rw [parts_concat, ih hnone.1, List.nil_append]
    cases hstep with
    | matched _ => cases hnone.2
    | absent _ | accepted _ | computed _ _ => rfl

/-- The first matching step is tried where the sequence began, behind the white space there, and
contributes the first part unless it is absent. -/
theorem Runs.exists_first_part (h : course.Runs attempt skipsBlanks start) {m : Matcher}
    (hfirst : Step.firstMatcher? course.steps = some m)
    (hpresent : ∀ who offset, attempt m (start.ready skipsBlanks) ≠ some (.absent who offset)) :
    ∃ name found rest, attempt m (start.ready skipsBlanks) = some (.success found) ∧
      course.parts = found.withName name :: rest := by
  induction h with
  | nil => cases hfirst
  | @concat course step result hcourse hstep ih =>
    rw [steps_concat, Step.firstMatcher?_append] at hfirst
    rw [parts_concat]
    cases hbefore : Step.firstMatcher? course.steps with
    | some m' =>
      rw [hbefore, Option.some_or, Option.some.injEq] at hfirst
      obtain ⟨name, found, rest, hattempt, hparts⟩ := ih (hfirst ▸ hbefore)
      rw [hparts, List.cons_append]
      exact ⟨name, found, _, hattempt, rfl⟩
    | none =>
      rw [hbefore, Option.none_or] at hfirst
      have hparts := hcourse.parts_eq_nil hbefore
      -- The steps before have left the sequence where it began.
      have hready : course.ready skipsBlanks start = start.ready skipsBlanks := by
        rw [ready, place, hparts]
        rfl
      rw [hready] at hstep
      cases hstep with
      | @matched name m' found hattempt =>
        obtain rfl : m' = m := Option.some.inj hfirst
        rw [hparts]
        exact ⟨name, found, [], hattempt, rfl⟩
      | @absent name who m' offset hattempt =>
        obtain rfl : m' = m := Option.some.inj hfirst
        exact absurd hattempt (hpresent who offset)
      | accepted _ | computed _ _ => cases hfirst

/-- The text of a sequence begins with what its first part begins with, behind the white space that
is skipped. -/
theorem Runs.beginsWith (hstands : ∀ m, (attempt m).Stands)
    (h : course.Runs attempt skipsBlanks start) {part : Match} {rest : List Match}
    (hparts : course.parts = part :: rest) {skips : Bool} {front : Text}
    (hpart : Text.BeginsWith skips front part.matched) :
    Text.BeginsWith (skipsBlanks || skips) front
      (start.textTo (course.place skipsBlanks start)) := by
  obtain ⟨t, hlaid⟩ := h.laid hstands
  rw [hlaid.moves.textTo_eq]
  by_cases hempty : part.matched = []
  · rw [hempty] at hpart
    rw [hpart.eq_nil]
    exact .of_isPrefix _ List.nil_prefix
  · have htexts : Match.texts course.parts = part :: Match.texts rest := by
      rw [hparts, Match.texts, List.filter_cons_of_pos (by simpa using hempty)]
      rfl
    rw [htexts] at hlaid
    cases hlaid with
    | cons _ _ _ _ =>
      refine (hpart.behind (fun ch => Cursor.isBlank_of_mem_gap) fun hskips => ?_).append _
      rw [Cursor.gap, hskips, if_neg Bool.false_ne_true]

end Course

/-! ## The first element of a repetition -/

/-- The text of a repetition with an element begins with its first one. -/
theorem Rounds.exists_first {element : Attempt} {separator : Option Attempt} {skipsBlanks : Bool}
    {c last : Cursor} {ms : List Match} (h : Rounds element separator skipsBlanks true c ms last)
    (hne : ms ≠ []) :
    ∃ found, element c = some (.success found) ∧ found.matched <+: c.textTo last := by
  cases h with
  | finished | last => exact absurd rfl hne
  | @more _ _ next _ m found _ hround hrounds =>
    obtain ⟨place, hplace, hattempt, hmoves, _⟩ := repetitionRound_eq_more hround
    cases hplace with
    | first =>
      obtain ⟨t, hbehind⟩ := hrounds.reaches
      refine ⟨m, hattempt, t, ?_⟩
      rw [(hmoves.trans hbehind).textTo_eq]

namespace Matcher

/-! ## Matchers that cannot be absent -/

/-- A matcher with a required front matches or fails. -/
theorem matchIn_ne_absent (m : Matcher) : ∀ {front : Text} {rules : Rules} {c : Cursor}
    {who : String} {offset : Nat}, m.requiredFront? = some front →
      m.matchIn rules c ≠ some (.absent who offset) := by
  induction m using Matcher.induct with
  | literal text =>
    intro front rules c who offset _ h
    rw [matchIn_eq_attempt, attempt, attemptLiteral, Option.some.injEq] at h
    split at h <;> cases h
  | sequence id steps config _ =>
    intro front rules c who offset _ h
    rw [matchIn_sequence_eq_some_iff] at h
    cases h
  | repetition element separator least skipsBlanks _ _ =>
    intro front rules c who offset _ h
    rw [matchIn_repetition_eq_some_iff] at h
    obtain ⟨ms, last, _, ho⟩ := h
    rw [repetitionOutcome] at ho
    split at ho <;> cases ho
  | named name inner ih =>
    intro front rules c who offset hfront h
    rw [matchIn_eq_attempt, attempt, Option.map_eq_some_iff] at h
    obtain ⟨o, ho, hnamed⟩ := h
    rw [← matchIn_eq_attempt] at ho
    cases o with
    | success _ | failure _ => cases hnamed
    | absent _ _ => exact ih hfront ho
  | guarded inner test _ =>
    intro front rules c who offset _ h
    rw [matchIn_eq_attempt, attempt, Option.map_eq_some_iff] at h
    obtain ⟨o, _, hguarded⟩ := h
    cases o with
    | success m =>
      rw [guardedOutcome] at hguarded
      split at hguarded <;> cases hguarded
    | failure _ | absent _ _ => cases hguarded
  | balanced d content =>
    intro front rules c who offset _ h
    rw [matchIn_eq_attempt, attempt] at h
    rcases attemptBalanced_cases h with h | h | ⟨_, _, _, _, h⟩ <;> cases h
  | closed inner own ih _ =>
    intro front rules c who offset hfront h
    rw [matchIn_closed] at h
    exact ih hfront h
  -- What is left requires no front.
  | pattern _ | choice _ _ | optional _ _ _ | upTo _ _ | remainder | reference _ _ =>
    intro front rules c who offset hfront
    cases hfront

/-! ## Matches begin with the required front -/

/-- A match begins with the required front of its matcher, behind the white space that is skipped on
the way to it. -/
theorem matchIn_beginsWith (m : Matcher) : ∀ {front : Text} {rules : Rules} {c : Cursor}
    {found : Match}, m.requiredFront? = some front → m.matchIn rules c = some (.success found) →
      Text.BeginsWith m.frontSkipsBlanks front found.matched := by
  induction m using Matcher.induct with
  | literal text =>
    intro front rules c found hfront h
    cases hfront
    rw [matchIn_eq_attempt, attempt, Option.some.injEq, attemptLiteral_eq_success_iff] at h
    obtain ⟨_, rfl⟩ := h
    exact .of_isPrefix _ (List.prefix_refl _)
  | sequence id steps config ih =>
    intro front rules c found hfront h
    rw [requiredFront?, firstRequiredFront?_eq] at hfront
    obtain ⟨m, hfirst, hm⟩ := Option.bind_eq_some_iff.1 hfront
    obtain ⟨name, hmem⟩ := Step.mem_of_firstMatcher? hfirst
    obtain ⟨course, hruns, rfl, rfl⟩ := matchIn_sequence_eq_success_iff.1 h
    obtain ⟨_, part, rest, hattempt, hparts⟩ :=
      hruns.exists_first_part hfirst fun _ _ => matchIn_ne_absent m hm
    have hpart := ih name m hmem hm hattempt
    rw [frontSkipsBlanks, firstFrontSkipsBlanks_eq, hfirst]
    exact hruns.beginsWith (matchIn_stands rules) hparts hpart
  | repetition element separator least skipsBlanks ih _ =>
    intro front rules c found hfront h
    rw [requiredFront?] at hfront
    split at hfront
    · cases hfront
    · rename_i hleast
      rw [matchIn_repetition, attemptRepetition_eq_success_iff] at h
      obtain ⟨ms, last, hrounds, henough, rfl⟩ := h
      have hne : ms ≠ [] := by
        rintro rfl
        exact hleast (Nat.le_zero.1 henough)
      obtain ⟨part, hattempt, rest, hrest⟩ := hrounds.exists_first hne
      have hskips : (repetition element separator least skipsBlanks).frontSkipsBlanks =
          element.frontSkipsBlanks := by
        rw [frontSkipsBlanks, bne_iff_ne.2 hleast, Bool.true_and]
      rw [hskips]
      show Text.BeginsWith _ front (c.textTo last)
      rw [← hrest]
      exact (ih hfront hattempt).append rest
  | named name inner ih =>
    intro front rules c found hfront h
    rw [matchIn_eq_attempt] at h
    obtain ⟨part, hattempt, rfl⟩ := attempt_named_eq_success h
    rw [← matchIn_eq_attempt] at hattempt
    have hpart := ih hfront hattempt
    exact hpart
  | guarded inner test ih =>
    intro front rules c found hfront h
    rw [matchIn_eq_attempt] at h
    have hattempt := (attempt_guarded_eq_success h).1
    rw [← matchIn_eq_attempt] at hattempt
    exact ih hfront hattempt
  | balanced d content =>
    intro front rules c found hfront h
    cases hfront
    have hmatched := (matchIn_stands rules _ _ _ h).2
    rw [matchIn_eq_attempt, attempt] at h
    obtain h | h | ⟨matched, _, hstands, hbalanced, h⟩ := attemptBalanced_cases h <;> cases h
    refine .of_isPrefix _ (List.prefix_of_prefix_length_le hstands hmatched ?_)
    exact List.length_pos_iff.2 (Content.balancedFront?_ne_nil hbalanced)
  | closed inner own ih _ =>
    intro front rules c found hfront h
    rw [matchIn_closed] at h
    exact ih hfront h
  -- What is left requires no front.
  | pattern _ | choice _ _ | optional _ _ _ | upTo _ _ | remainder | reference _ _ =>
    intro front rules c found hfront
    cases hfront

/-- Where no sequence skips white space, there is none before the required front. -/
theorem frontSkipsBlanks_eq_false {m : Matcher}
    (h : ∀ config ∈ m.sequenceConfigs, config.skipsBlanks = false) :
    m.frontSkipsBlanks = false := by
  by_contra hskips
  obtain ⟨config, hconfig, htrue⟩ :=
    exists_config_of_frontSkipsBlanks m (Bool.not_eq_false _ |>.mp hskips)
  rw [h config hconfig] at htrue
  cases htrue

/-- Where all sequences skip white space, there is none before the required front unless it is
announced. -/
theorem frontSkipsBlanks_eq_false_of_announced {m : Matcher}
    (h : ∀ config ∈ m.sequenceConfigs, config.skipsBlanks = true)
    (hannounced : m.skipsLeadingBlanks = false) : m.frontSkipsBlanks = false := by
  have hagree : m.SequencesAgree := by
    intro config hconfig config' hconfig'
    rw [h config hconfig, h config' hconfig']
  by_contra hskips
  have htrue := skipsLeadingBlanks_of_agree m hagree (Bool.not_eq_false _ |>.mp hskips)
  rw [hannounced] at htrue
  cases htrue

/-- What a required front promises.  A match begins with it, with nothing but white space before.
There is no white space before it if no sequence in the matcher skips any, and neither if all do but
the matcher does not announce it.  The matcher is never absent. -/
theorem requiredFront_sound {m : Matcher} {front : Text} (hfront : m.requiredFront? = some front)
    (rules : Rules) (c : Cursor) :
    (∀ found, m.matchIn rules c = some (.success found) →
      ∃ gap rest, found.matched = gap ++ front ++ rest ∧ (∀ ch ∈ gap, Text.isBlank ch = true) ∧
        ((∀ config ∈ m.sequenceConfigs, config.skipsBlanks = false) → gap = []) ∧
        ((∀ config ∈ m.sequenceConfigs, config.skipsBlanks = true) →
          m.skipsLeadingBlanks = false → gap = [])) ∧
      ∀ who offset, m.matchIn rules c ≠ some (.absent who offset) := by
  refine ⟨fun found h => ?_, fun who offset => matchIn_ne_absent m hfront⟩
  obtain ⟨gap, rest, hmatched, hblank, hnone⟩ := matchIn_beginsWith m hfront h
  exact ⟨gap, rest, hmatched, hblank, fun hstrict => hnone (frontSkipsBlanks_eq_false hstrict),
    fun hrelaxed hannounced => hnone (frontSkipsBlanks_eq_false_of_announced hrelaxed hannounced)⟩

/-- Letters with white space before each of them, of which there has to be one. -/
def spacedLetters : Matcher :=
  .repetition
    (.sequence "spaced" [.alter "kind" fun _ => .string "letter", .take "letter" (.literal "x")]
      .relaxed) none 1 false

theorem requiredFront_sound_spacedLetters :
    spacedLetters.requiredFront? = some "x".toList ∧
      (∃ found, spacedLetters.matchIn [] (Cursor.ofString "  x x.") = some (.success found) ∧
        ∃ gap rest, found.matched = gap ++ "x".toList ++ rest ∧
          ∀ ch ∈ gap, Text.isBlank ch = true) ∧
      ∀ who offset,
        spacedLetters.matchIn [] (Cursor.ofString "  x x.") ≠ some (.absent who offset) := by
  have hfront : spacedLetters.requiredFront? = some "x".toList := rfl
  have hmatches :
      (spacedLetters.matchIn [] (Cursor.ofString "  x x.")).any Outcome.isMatch = true := by
    decide +kernel
  obtain ⟨hsound, hpresent⟩ := requiredFront_sound hfront [] (Cursor.ofString "  x x.")
  obtain ⟨found, hfound⟩ := Outcome.exists_success_of_isMatch hmatches
  obtain ⟨gap, rest, hmatched, hblank, _⟩ := hsound found hfound
  exact ⟨hfront, ⟨found, hfound, gap, rest, hmatched, hblank⟩, hpresent⟩

end Matcher

end Excerpt
