import Excerpt.Proofs.Matcher.Choice
import Excerpt.Proofs.Matcher.Closed
import Excerpt.Proofs.Matcher.Success
import Excerpt.Proofs.Sequence.Bindings

/-!
# Fields that are pulled up

An optional matcher can answer one field of the sequence inside it.  That the sequence binds the
field is checked when the optional matcher is built, but a reference passes, since its rule is not
known yet.  In a match the field may be without a value, and then nil is answered.

The sequence that a match is of can stand behind names, closures, tests, choices and rules.
`GoesThrough` follows the attempt to it, and has the course that the sequence went through.

* `GoesThrough.matchIn_eq` and `exists_goesThrough` : it does so for all matches with fields, and
  for no others.
* `Course.Runs.exists_absent` : where a sequence binds a field but its match does not have it, a
  matching step of this name was absent.
* `optionalField?_value` : so nil stands for an absent step, unless there is no sequence that binds
  the field.  A reference can come to this, and `optionalField?_unbound` shows that nothing tells
  the two apart.
-/

namespace Excerpt

/-! ## Fields without a value -/

theorem Step.binds_iff {steps : List (Step Matcher)} {field : String} :
    Step.binds steps field = true ↔
      (∃ m, .take field m ∈ steps) ∨ ∃ value, .alter field value ∈ steps := by
  rw [Step.binds, List.any_eq_true]
  constructor
  · rintro ⟨step, hmem, hname⟩
    cases step with
    | take name m =>
      obtain rfl : name = field := beq_iff_eq.1 hname
      exact Or.inl ⟨m, hmem⟩
    | veto name accepts => cases hname
    | alter name value =>
      obtain rfl : name = field := beq_iff_eq.1 hname
      exact Or.inr ⟨value, hmem⟩
  · rintro (⟨m, hmem⟩ | ⟨value, hmem⟩)
    · exact ⟨_, hmem, beq_self_eq_true field⟩
    · exact ⟨_, hmem, beq_self_eq_true field⟩

namespace Course

variable {attempt : Matcher → Attempt} {skipsBlanks : Bool} {start : Cursor} {course : Course}
  {field : String}

/-- A name is not bound if none of the steps of this name has a value. -/
theorem get?_fields_eq_none_iff :
    Fields.get? course.fields field = none ↔
      ∀ step result, (step, result) ∈ course → step.name = field → result.value? = none := by
  induction course using List.reverseRecOn with
  | nil => simp [fields, entries, Fields.ofList, Fields.empty, Fields.get?]
  | append_singleton course entry ih =>
    obtain ⟨step, result⟩ := entry
    simp only [fields_concat, List.mem_append, List.mem_singleton, Prod.mk.injEq, or_imp,
      forall_and, ← ih]
    cases hvalue : result.value? with
    | none => simp [hvalue]
    | some value => by_cases hname : step.name = field <;> simp [Fields.get?_insert, hname, hvalue]

/-- The step at any place of a course came to its result. -/
theorem Runs.exists_comesTo (h : course.Runs attempt skipsBlanks start) {step : Step Matcher}
    {result : StepResult} (hmem : (step, result) ∈ course) :
    ∃ ready fields, ComesTo attempt ready fields step result := by
  obtain ⟨before, after, hsplit⟩ := List.append_of_mem hmem
  exact ⟨_, _, h.comesTo before step result after hsplit⟩

/-- Where steps bind a field but it is not bound, a matching step of this name was absent. -/
theorem Runs.exists_absent (h : course.Runs attempt skipsBlanks start)
    (hbinds : Step.binds course.steps field = true)
    (hget : Fields.get? course.fields field = none) :
    ∃ m, (.take field m, .absent) ∈ course := by
  rw [get?_fields_eq_none_iff] at hget
  rcases Step.binds_iff.1 hbinds with ⟨m, hmem⟩ | ⟨value, hmem⟩
  · obtain ⟨⟨_, result⟩, hentry, rfl⟩ := List.mem_map.1 hmem
    obtain ⟨_, _, hstep⟩ := h.exists_comesTo hentry
    cases hstep with
    | matched _ => cases hget _ _ hentry rfl
    | absent _ => exact ⟨m, hentry⟩
  · obtain ⟨⟨_, result⟩, hentry, rfl⟩ := List.mem_map.1 hmem
    obtain ⟨_, _, hstep⟩ := h.exists_comesTo hentry
    cases hstep
    cases hget _ _ hentry rfl

/-- A field that no step binds is not bound. -/
theorem Runs.get?_fields_eq_none (h : course.Runs attempt skipsBlanks start)
    (hbinds : Step.binds course.steps field = false) : Fields.get? course.fields field = none := by
  rw [get?_fields_eq_none_iff]
  rintro step result hentry rfl
  have hmem : step ∈ course.steps := List.mem_map_of_mem hentry
  have hnot : ¬ Step.binds course.steps step.name = true := by simp [hbinds]
  rw [Step.binds_iff] at hnot
  obtain ⟨_, _, hstep⟩ := h.exists_comesTo hentry
  cases hstep with
  | matched _ | absent _ => exact absurd (Or.inl ⟨_, hmem⟩) hnot
  | accepted _ => rfl
  | computed _ _ => exact absurd (Or.inr ⟨_, hmem⟩) hnot

end Course

namespace Matcher

/-! ## The sequence behind a match -/

/-- The match of a matcher at `c` is that of a sequence, which has gone through a course there. -/
inductive GoesThrough (c : Cursor) : Rules → Matcher → Match → Course → Prop
  | sequence {rules : Rules} {id : String} {config : Config} {course : Course}
    (hruns : course.Runs (matchIn rules) config.skipsBlanks c) :
    GoesThrough c rules (.sequence id course.steps config) (course.toMatch id config.skipsBlanks c)
      course
  | choice {rules : Rules} {before behind : List Matcher} {m : Matcher} {found : Match}
    {course : Course} (hmore : c.rest ≠ []) (hbefore : ∀ a ∈ before, PassedOver rules c a)
    (h : GoesThrough c rules m found course) :
    GoesThrough c rules (.choice (before ++ m :: behind)) found course
  | optional {rules : Rules} {inner : Matcher} {found : Match} {course : Course}
    (hmore : c.rest ≠ []) (h : GoesThrough c rules inner found course) :
    GoesThrough c rules (.optional inner none) found course
  | named {rules : Rules} {inner : Matcher} {found : Match} {course : Course} (name : String)
    (h : GoesThrough c rules inner found course) :
    GoesThrough c rules (.named name inner) (found.withName name) course
  | guarded {rules : Rules} {inner : Matcher} {found : Match} {course : Course}
    {test : Match → Bool} (htest : test found = true) (h : GoesThrough c rules inner found course) :
    GoesThrough c rules (.guarded inner test) found course
  | reference {rules : Rules} {index : Nat} {name : String} {definition : Matcher} {found : Match}
    {course : Course} (hrule : rules[index]? = some (name, definition))
    (h : GoesThrough c rules definition found course) :
    GoesThrough c rules (.reference index name) found course
  | closed {rules own : Rules} {inner : Matcher} {found : Match} {course : Course}
    (h : GoesThrough c own inner found course) :
    GoesThrough c rules (.closed inner own) found course

section

variable {c : Cursor} {rules : Rules} {m : Matcher} {found : Match} {course : Course}

theorem GoesThrough.runs (h : GoesThrough c rules m found course) :
    ∃ own skipsBlanks, course.Runs (matchIn own) skipsBlanks c := by
  induction h with
  | sequence hruns => exact ⟨_, _, hruns⟩
  | choice _ _ _ ih | optional _ _ ih | named _ _ ih | guarded _ _ ih | reference _ _ ih
  | closed _ ih => exact ih

/-- A match of a sequence has the fields of its course. -/
theorem GoesThrough.context_eq (h : GoesThrough c rules m found course) :
    found.context = some course.fields := by
  induction h with
  | sequence _ => rfl
  | choice _ _ _ ih | optional _ _ ih | named _ _ ih | guarded _ _ ih | reference _ _ ih
  | closed _ ih => exact ih

/-- What goes through a course is matched. -/
theorem GoesThrough.matchIn_eq (h : GoesThrough c rules m found course) :
    m.matchIn rules c = some (.success found) := by
  induction h with
  | sequence hruns => exact matchIn_sequence_eq_success_iff.2 ⟨_, hruns, rfl, rfl⟩
  | choice hmore hbefore _ ih =>
    exact (((ordered_choice _ _ _).2 hmore).1 _).2 ⟨_, _, _, rfl, hbefore, ih⟩
  | optional hmore _ ih =>
    rw [matchIn_eq_attempt, attempt, if_neg (mt Cursor.exhausted_iff.1 hmore),
      ← matchIn_eq_attempt, ih]
    rfl
  | named name _ ih =>
    rw [matchIn_eq_attempt, attempt, ← matchIn_eq_attempt, ih]
    rfl
  | guarded htest _ ih =>
    rw [matchIn_eq_attempt, attempt, ← matchIn_eq_attempt, ih, Option.map_some, guardedOutcome,
      if_pos htest]
  | reference hrule _ ih =>
    rw [matchIn_eq_attempt]
    exact attempt_reference_eq_success_iff.2 ⟨_, hrule, ih⟩
  | closed _ ih =>
    rw [matchIn_closed]
    exact ih

/-- A matcher that is a sequence behind names and closures goes through a course of its steps. -/
theorem exists_goesThrough_of_steps? (m : Matcher) : ∀ {rules : Rules}
    {steps : List (Step Matcher)} {found : Match}, m.steps? = some steps →
      m.matchIn rules c = some (.success found) →
      ∃ course, GoesThrough c rules m found course ∧ course.steps = steps := by
  induction m using Matcher.induct with
  | sequence id steps config _ =>
    intro rules _ found hsteps h
    cases hsteps
    obtain ⟨course, hruns, rfl, rfl⟩ := matchIn_sequence_eq_success_iff.1 h
    exact ⟨course, .sequence hruns, rfl⟩
  | named name inner ih =>
    intro rules _ found hsteps h
    rw [matchIn_eq_attempt] at h
    obtain ⟨part, hattempt, rfl⟩ := attempt_named_eq_success h
    rw [← matchIn_eq_attempt] at hattempt
    obtain ⟨course, hcourse, rfl⟩ := ih hsteps hattempt
    exact ⟨course, .named name hcourse, rfl⟩
  | closed inner own ih _ =>
    intro rules _ found hsteps h
    rw [matchIn_closed] at h
    obtain ⟨course, hcourse, rfl⟩ := ih hsteps h
    exact ⟨course, .closed hcourse, rfl⟩
  -- What is left has no sequence behind it.
  | literal _ | pattern _ | choice _ _ | optional _ _ _ | repetition _ _ _ _ _ _ | guarded _ _ _
  | upTo _ _ | remainder | balanced _ _ | reference _ _ =>
    intro _ _ _ hsteps
    cases hsteps

/-- The matches with fields go through courses, if those of the called rules do. -/
theorem exists_goesThrough_of_attempt {depth : Nat}
    (hcall : ∀ {own : Rules} {definition : Matcher} {found : Match},
      follow canStartWith depth own definition c = some (.success found) →
      found.context.isSome = true → ∃ course, GoesThrough c own definition found course)
    (m : Matcher) : ∀ {rules : Rules} {found : Match},
      m.attempt canStartWith (follow canStartWith depth) rules c = some (.success found) →
      found.context.isSome = true → ∃ course, GoesThrough c rules m found course := by
  have hdepth {rules : Rules} {m : Matcher} {o : Outcome}
      (h : m.attempt canStartWith (follow canStartWith depth) rules c = some o) :
      m.matchIn rules c = some o :=
    matchIn_eq_some_iff.2 ⟨depth, (matchWith_eq_attempt ..).trans h⟩
  induction m using Matcher.induct with
  | literal _ | pattern _ | upTo _ _ | remainder | balanced _ _ =>
    intro rules found h hcontext
    obtain ⟨_, _, _, _, rfl⟩ := attempt_eq_leaf rfl h
    cases hcontext
  | sequence id steps config _ =>
    intro rules found h _
    obtain ⟨course, hruns, rfl, rfl⟩ := matchIn_sequence_eq_success_iff.1 (hdepth h)
    exact ⟨course, .sequence hruns⟩
  | choice alternatives ih =>
    intro rules found h hcontext
    rw [attempt] at h
    cases hnext : c.next? with
    | none =>
      simp only [hnext] at h
      cases h
    | some ch =>
      simp only [hnext] at h
      obtain ⟨before, m, behind, rfl, hbefore, hattempt⟩ :=
        exists_first_of_attemptFirst (fun _ _ => hdepth) hnext h
      obtain ⟨course, hcourse⟩ := ih m (by simp) hattempt hcontext
      obtain ⟨rest, hrest⟩ := Cursor.next?_eq_some_iff.1 hnext
      have hmore : c.rest ≠ [] := hrest ▸ List.cons_ne_nil ch rest
      exact ⟨course, .choice hmore hbefore hcourse⟩
  | optional inner pulledUp ih =>
    intro rules found h hcontext
    obtain ⟨part, hattempt, ⟨rfl, rfl⟩ | ⟨field, rfl, rfl⟩⟩ := attempt_optional_eq_success h
    · obtain ⟨course, hcourse⟩ := ih hattempt hcontext
      refine ⟨course, .optional (fun hend => ?_) hcourse⟩
      rw [attempt, if_pos (Cursor.exhausted_iff.2 hend)] at h
      cases h
    · cases hcontext
  | repetition element separator least skipsBlanks _ _ =>
    intro rules found h hcontext
    rw [attempt_repetition] at h
    obtain ⟨_, _, _, _, rfl⟩ := attemptRepetition_eq_success_iff.1 h
    cases hcontext
  | named name inner ih =>
    intro rules found h hcontext
    obtain ⟨part, hattempt, rfl⟩ := attempt_named_eq_success h
    obtain ⟨course, hcourse⟩ := ih hattempt hcontext
    exact ⟨course, .named name hcourse⟩
  | guarded inner test ih =>
    intro rules found h hcontext
    obtain ⟨hattempt, htest⟩ := attempt_guarded_eq_success h
    obtain ⟨course, hcourse⟩ := ih hattempt hcontext
    exact ⟨course, .guarded htest hcourse⟩
  | reference index name =>
    intro rules found h hcontext
    obtain ⟨definition, hrule, hattempt⟩ := attempt_reference_eq_success_iff.1 h
    obtain ⟨course, hcourse⟩ := hcall hattempt hcontext
    exact ⟨course, .reference hrule hcourse⟩
  | closed inner own ih _ =>
    intro rules found h hcontext
    rw [attempt] at h
    obtain ⟨course, hcourse⟩ := ih h hcontext
    exact ⟨course, .closed hcourse⟩

/-- A match with fields is that of a sequence.  The induction is on the depth to which rules are
followed. -/
theorem exists_goesThrough (h : m.matchIn rules c = some (.success found))
    (hcontext : found.context.isSome = true) : ∃ course, GoesThrough c rules m found course := by
  rw [matchIn_eq_some_iff] at h
  obtain ⟨depth, h⟩ := h
  rw [matchWith_eq_attempt] at h
  induction depth generalizing rules m found with
  | zero =>
    refine exists_goesThrough_of_attempt ?_ m h hcontext
    intro own definition found hcall
    cases hcall
  | succ depth ih =>
    refine exists_goesThrough_of_attempt ?_ m h hcontext
    intro own definition found hcall hcontext
    rw [follow, matchWith_eq_attempt] at hcall
    exact ih hcontext hcall

end

/-! ## The value that is pulled up -/

/-- A field can be pulled up from a reference, and from a sequence that binds it. -/
theorem canPullUp_iff {inner : Matcher} {field : String} :
    inner.canPullUp field = true ↔ (∃ index name, inner = .reference index name) ∨
      ∃ steps, inner.steps? = some steps ∧ Step.binds steps field = true := by
  cases inner with
  | reference index name => simp [canPullUp]
  | _ => simp [canPullUp, Option.any_eq_true]

theorem optionalField?_eq_ok_iff {inner m : Matcher} {field : String} :
    optionalField? inner field = .ok m ↔
      inner.canPullUp field = true ∧ m = .optional inner (some field) := by
  rw [optionalField?]
  cases inner.canPullUp field <;> simp [eq_comm]

/-- The value of a field that is pulled up.  The match is that of the inner matcher but for the
value.  Where it is of a sequence that binds the field, the value is what the sequence has bound, or
nil for a matching step that was absent.  Where it is of no such sequence, the value is nil as well,
but then the inner matcher is a reference. -/
theorem optionalField?_value {inner m : Matcher} {field : String}
    (hbuilt : optionalField? inner field = .ok m) {rules : Rules} {c : Cursor} {found : Match}
    (h : m.matchIn rules c = some (.success found)) :
    ∃ part, inner.matchIn rules c = some (.success part) ∧
      found = part.withValue found.value ∧
      (∀ course, GoesThrough c rules inner part course →
        Step.binds course.steps field = true →
        Fields.get? course.fields field = some found.value ∨
          found.value = .nil ∧ Fields.get? course.fields field = none ∧
            ∃ m, (.take field m, .absent) ∈ course) ∧
      ((∀ course, GoesThrough c rules inner part course →
          Step.binds course.steps field = false) →
        found.value = .nil ∧ ∃ index name, inner = .reference index name) := by
  obtain ⟨hpulls, rfl⟩ := optionalField?_eq_ok_iff.1 hbuilt
  rw [matchIn_eq_attempt] at h
  obtain ⟨part, hattempt, ⟨hnone, _⟩ | ⟨_, hfield, rfl⟩⟩ := attempt_optional_eq_success h
  · cases hnone
  cases hfield
  rw [← matchIn_eq_attempt] at hattempt
  refine ⟨part, hattempt, rfl, fun course hcourse hbinds => ?_, fun hnever => ?_⟩
  · obtain ⟨_, _, hruns⟩ := hcourse.runs
    rw [hcourse.context_eq]
    cases hget : Fields.get? course.fields field with
    | some value => exact Or.inl (by simp [Match.withValue, hget])
    | none => exact Or.inr ⟨by simp [Match.withValue, hget], rfl, hruns.exists_absent hbinds hget⟩
  · rcases canPullUp_iff.1 hpulls with hreference | ⟨steps, hsteps, hbinds⟩
    · refine ⟨?_, hreference⟩
      cases hcontext : part.context with
      | none => rfl
      | some fields =>
        obtain ⟨course, hcourse⟩ := exists_goesThrough hattempt (hcontext ▸ rfl)
        obtain ⟨_, _, hruns⟩ := hcourse.runs
        have hget := hruns.get?_fields_eq_none (hnever course hcourse)
        rw [← hcontext, hcourse.context_eq]
        simp [Match.withValue, hget]
    · obtain ⟨course, hcourse, rfl⟩ := exists_goesThrough_of_steps? inner hsteps hattempt
      rw [hnever course hcourse] at hbinds
      cases hbinds

/-- A letter, perhaps with a mark behind it. -/
def markedLetter : Matcher :=
  .named "marked" (.sequence "letter"
    [.take "letter" (.literal "x"), .take "mark" (.optional (.literal "!") none)] .relaxed)

theorem optionalField?_value_markedLetter :
    optionalField? markedLetter "mark" = .ok (.optional markedLetter (some "mark")) ∧
      ∃ found part course,
        (optional markedLetter (some "mark")).matchIn [] (Cursor.ofString "x.") =
          some (.success found) ∧
        markedLetter.matchIn [] (Cursor.ofString "x.") = some (.success part) ∧
        found = part.withValue found.value ∧
        GoesThrough (Cursor.ofString "x.") [] markedLetter part course ∧
        (Fields.get? course.fields "mark" = some found.value ∨
          found.value = .nil ∧ Fields.get? course.fields "mark" = none ∧
            ∃ m, (.take "mark" m, .absent) ∈ course) := by
  have hbuilt : optionalField? markedLetter "mark" = .ok (.optional markedLetter (some "mark")) :=
    rfl
  have hmatches : ((optional markedLetter (some "mark")).matchIn [] (Cursor.ofString "x.")).any
      Outcome.isMatch = true := by
    decide +kernel
  obtain ⟨found, hfound⟩ := Outcome.exists_success_of_isMatch hmatches
  obtain ⟨part, hpart, hvalue, hbound, hnever⟩ := optionalField?_value hbuilt hfound
  obtain ⟨course, hcourse, hbinds⟩ : ∃ course,
      GoesThrough (Cursor.ofString "x.") [] markedLetter part course ∧
        Step.binds course.steps "mark" = true := by
    by_contra hnone
    obtain ⟨_, index, name, hreference⟩ := hnever fun course hcourse =>
      Bool.not_eq_true _ |>.mp fun hbinds => hnone ⟨course, hcourse, hbinds⟩
    cases hreference
  exact ⟨hbuilt, found, part, course, hfound, hpart, hvalue, hcourse, hbound course hcourse hbinds⟩

/-- Letters as a text, and as a sequence. -/
def letterForms : Rules :=
  [("text", .literal "x"), ("letter", .sequence "letter" [.take "letter" (.literal "x")] .relaxed)]

/-- The mark of a rule of letters. -/
def markOf (index : Nat) (name : String) : Matcher :=
  .optional (.reference index name) (some "mark")

/-- Letters have no marks, but the mark of a rule of letters is nil. -/
theorem optionalField?_unbound :
    (optionalField? (.reference 0 "text") "mark" = .ok (markOf 0 "text") ∧
      (∃ found, (markOf 0 "text").matchIn letterForms (Cursor.ofString "x") =
        some (.success found) ∧ found.value = .nil) ∧
      ∀ part course,
        ¬ GoesThrough (Cursor.ofString "x") letterForms (.reference 0 "text") part course) ∧
    optionalField? (.reference 1 "letter") "mark" = .ok (markOf 1 "letter") ∧
      (∃ found, (markOf 1 "letter").matchIn letterForms (Cursor.ofString "x") =
        some (.success found) ∧ found.value = .nil) ∧
      ∀ part course,
        GoesThrough (Cursor.ofString "x") letterForms (.reference 1 "letter") part course →
        Step.binds course.steps "mark" = false := by
  refine ⟨⟨rfl, ⟨_, rfl, rfl⟩, fun part course h => ?_⟩, rfl, ⟨_, rfl, rfl⟩,
    fun part course h => ?_⟩
  · cases h with
    | reference hrule h =>
      cases hrule
      cases h
  · cases h with
    | reference hrule h =>
      cases hrule
      generalize hm : Matcher.sequence "letter" [.take "letter" (.literal "x")] .relaxed = m at h
      cases h with
      | sequence _ =>
        rw [← (Matcher.sequence.inj hm).2.1]
        rfl
      | _ => cases hm

end Matcher

end Excerpt
