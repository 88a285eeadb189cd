import Excerpt.Proofs.Matcher.Steps

/-!
# The course of a sequence

What a step of a sequence does depends on the steps before it: on where the last text ended, and on
the fields that are bound.  A `Course` is the list of the steps that a sequence is through with,
each with its result, and everything that the next step depends on is a function of the course.

* `ComesTo` and `GivesUp` say what one step can do, each case of it in one rule.
* `Course.Runs` : each step of a course came to its result behind the steps before it.
* `Ends` : how a sequence can end, at the end of its steps or at a step that gives up.
* `attemptSteps_of_comesTo` is the step, and `attemptSteps_of_runs` the run.
* `matchIn_sequence_eq_some_iff` : the outcomes of a sequence are the ends of its courses.

What is to be shown of sequences is shown of courses, by induction on `Runs`.
-/

namespace Excerpt

/-! ## Steps -/

/-- What a step of a sequence came to. -/
inductive StepResult where
  /-- A match, under the name of the step. -/
  | matched (m : Match)
  /-- The matcher found nothing, and need not. -/
  | absent
  /-- The fields were accepted. -/
  | accepted
  | computed (value : Value)

/-- The value that the step binds to its name. -/
def StepResult.value? : StepResult → Option Value
  | matched m => some m.value
  | computed value => some value
  | absent => none
  | accepted => none

/-- The part of the match that the step contributes. -/
def StepResult.part? : StepResult → Option Match
  | matched m => some m
  | computed _ => none
  | absent => none
  | accepted => none

section

variable (attempt : Matcher → Attempt) (ready : Cursor) (fields : Fields)

/-- A step that is tried at `ready`, with some fields bound, comes to a result. -/
inductive ComesTo : Step Matcher → StepResult → Prop
  | matched {name : String} {m : Matcher} {found : Match}
    (hattempt : attempt m ready = some (.success found)) :
    ComesTo (.take name m) (.matched (found.withName name))
  | absent {name who : String} {m : Matcher} {offset : Nat}
    (hattempt : attempt m ready = some (.absent who offset)) : ComesTo (.take name m) .absent
  | accepted {name : String} {accepts : Fields → Bool} (haccepts : accepts fields = true) :
    ComesTo (.veto name accepts) .accepted
  | computed (name : String) (value : Fields → Value) :
    ComesTo (.alter name value) (.computed (value fields))

/-- A step that is tried at `ready`, with some fields bound, ends the sequence for a reason. -/
inductive GivesUp : Step Matcher → Reason → Prop
  | failed {name : String} {m : Matcher} {f : Failure}
    (hattempt : attempt m ready = some (.failure f)) : GivesUp (.take name m) (.atStep name f)
  | vetoed {name : String} {accepts : Fields → Bool} (haccepts : accepts fields = false) :
    GivesUp (.veto name accepts) (.vetoedBy name)

end

/-- A part stands where the step was tried. -/
theorem ComesTo.stands {attempt : Matcher → Attempt} {ready : Cursor} {fields : Fields}
    {step : Step Matcher} {result : StepResult} {part : Match}
    (hstands : ∀ m, (attempt m).Stands) (h : ComesTo attempt ready fields step result)
    (hpart : result.part? = some part) :
    part.offset = ready.offset ∧ part.matched <+: ready.rest := by
  cases h with
  | @matched name m found hattempt =>
    have hfound : (found.withName name) = part := Option.some.inj hpart
    rw [← hfound]
    exact hstands m ready _ hattempt
  | absent _ => cases hpart
  | accepted _ => cases hpart
  | computed _ _ => cases hpart

/-! ## Courses -/

/-- The steps that a sequence is through with, each with what it came to. -/
abbrev Course := List (Step Matcher × StepResult)

namespace Course

/-- The steps. -/
def steps (course : Course) : List (Step Matcher) := course.map Prod.fst

/-- The names that are bound, each time with its value. -/
def entries (course : Course) : List (String × Value) :=
  course.filterMap fun x => x.2.value?.map fun value => (x.1.name, value)

/-- The fields that are bound. -/
def fields (course : Course) : Fields := Fields.ofList course.entries

/-- The parts of the match. -/
def parts (course : Course) : List Match := course.filterMap fun x => x.2.part?

/-- Where a part that is tried behind `c` leaves a sequence.  White space before the part is passed
over for good only if the part has some text. -/
def behindPart (skipsBlanks : Bool) (c : Cursor) (part : Match) : Cursor :=
  if part.matched.isEmpty then c else (c.ready skipsBlanks).advanceBy part.matched.length

/-- Where the steps leave a sequence that began at `start`. -/
def place (skipsBlanks : Bool) (start : Cursor) (course : Course) : Cursor :=
  course.parts.foldl (behindPart skipsBlanks) start

/-- Where the next step is tried. -/
def ready (skipsBlanks : Bool) (start : Cursor) (course : Course) : Cursor :=
  (course.place skipsBlanks start).ready skipsBlanks

/-- How far a sequence has come. -/
def progress (skipsBlanks : Bool) (start : Cursor) (course : Course) : Progress where
  current := course.place skipsBlanks start
  context := course.fields
  children := course.parts.reverse

/-- The match of a sequence that is through with all its steps. -/
def toMatch (id : String) (skipsBlanks : Bool) (start : Cursor) (course : Course) : Match :=
  .ofSequence id (start.textTo (course.place skipsBlanks start)) start.offset course.parts
    course.fields

/-- Each step came to its result behind the steps before it. -/
inductive Runs (attempt : Matcher → Attempt) (skipsBlanks : Bool) (start : Cursor) :
    Course → Prop
  | nil : Runs attempt skipsBlanks start []
  | concat {course : Course} {step : Step Matcher} {result : StepResult}
    (hcourse : Runs attempt skipsBlanks start course)
    (hstep : ComesTo attempt (course.ready skipsBlanks start) course.fields step result) :
    Runs attempt skipsBlanks start (course ++ [(step, result)])

/-! ### One more step -/

section Concat

variable (skipsBlanks : Bool) (start : Cursor) (course : Course) (step : Step Matcher)
  (result : StepResult)

@[simp] theorem steps_concat :
    Course.steps (course ++ [(step, result)]) = course.steps ++ [step] := by
  simp [steps]

@[simp] theorem entries_concat :
    Course.entries (course ++ [(step, result)]) =
      course.entries ++ (result.value?.map fun value => (step.name, value)).toList := by
  cases hvalue : result.value? <;> simp [entries, hvalue]

@[simp] theorem fields_concat :
    Course.fields (course ++ [(step, result)]) =
      result.value?.elim course.fields (Fields.insert course.fields step.name) := by
  cases hvalue : result.value? <;> simp [fields, Fields.ofList, hvalue]

@[simp] theorem parts_concat :
    Course.parts (course ++ [(step, result)]) = course.parts ++ result.part?.toList := by
  cases hpart : result.part? <;> simp [parts, hpart]

@[simp] theorem place_concat :
    Course.place skipsBlanks start (course ++ [(step, result)]) =
      result.part?.elim (course.place skipsBlanks start)
        (behindPart skipsBlanks (course.place skipsBlanks start)) := by
  cases hpart : result.part? <;> simp [place, hpart]

/-- What a result does to the progress of a sequence. -/
theorem progress_concat :
    Course.progress skipsBlanks start (course ++ [(step, result)]) =
      ⟨result.part?.elim (course.place skipsBlanks start)
          (behindPart skipsBlanks (course.place skipsBlanks start)),
        result.value?.elim course.fields (Fields.insert course.fields step.name),
        result.part?.toList ++ course.parts.reverse⟩ := by
  cases hpart : result.part? <;> simp [progress, hpart]

end Concat

/-- A part with some text has been moved over where it leaves a sequence. -/
theorem behindPart_moves {skipsBlanks : Bool} {c : Cursor} {part : Match}
    (hstands : part.matched <+: (c.ready skipsBlanks).rest) (hne : part.matched ≠ []) :
    (c.ready skipsBlanks).Moves part.matched (behindPart skipsBlanks c part) := by
  obtain ⟨rest, hrest⟩ := hstands
  rw [behindPart, if_neg (mt List.isEmpty_iff.1 hne)]
  exact Cursor.moves_advanceBy hrest.symm

theorem behindPart_of_nil {skipsBlanks : Bool} {c : Cursor} {part : Match}
    (hempty : part.matched = []) : behindPart skipsBlanks c part = c := by
  rw [behindPart, hempty]
  rfl

/-- Taking a part leaves a sequence where the course says. -/
theorem take_eq_behindPart {skipsBlanks : Bool} {p : Progress} {part : Match}
    (hstands : part.matched <+: (p.current.ready skipsBlanks).rest) (name : String) :
    p.take name (p.current.ready skipsBlanks) part =
      .ok ⟨behindPart skipsBlanks p.current part, Fields.insert p.context name part.value,
        part :: p.children⟩ := by
  rw [Progress.take]
  by_cases hempty : part.matched = []
  · simp only [behindPart_of_nil hempty, hempty, List.isEmpty_nil, if_true]
  · have hmoves := behindPart_moves hstands hempty
    have htaken := Cursor.consume_eq_ok_iff.2 hmoves
    simp only [List.isEmpty_iff, if_neg hempty, htaken]

end Course

/-! ## Ends -/

/-- How a sequence can end: it is through with its steps, or it gives up at one of them. -/
inductive Ends (attempt : Matcher → Attempt) (id : String) (steps : List (Step Matcher))
    (config : Config) (start : Cursor) : Outcome → Prop
  | through {course : Course} (hcourse : course.Runs attempt config.skipsBlanks start)
    (hsteps : course.steps = steps) :
    Ends attempt id steps config start (.success (course.toMatch id config.skipsBlanks start))
  | stopped {course : Course} {step : Step Matcher} {rest : List (Step Matcher)} {reason : Reason}
    (hcourse : course.Runs attempt config.skipsBlanks start)
    (hsteps : course.steps ++ step :: rest = steps)
    (hstep : GivesUp attempt (course.ready config.skipsBlanks start) course.fields step reason) :
    Ends attempt id steps config start (.failure (.mk id start.offset course.fields reason))

/-! ## The step and the run -/

namespace Matcher

section Run

variable {admits : Admission} {call : Call} {rules : Rules} {id : String} {config : Config}
  {start : Cursor} {course : Course} {step : Step Matcher} {rest : List (Step Matcher)}

/-- A sequence ends at a step that gives up. -/
theorem attemptSteps_of_givesUp {reason : Reason}
    (h : GivesUp (fun m => m.attempt admits call rules) (course.ready config.skipsBlanks start)
      course.fields step reason) :
    attemptSteps admits call id config start (step :: rest) rules
        (course.progress config.skipsBlanks start) =
      some (.failure (.mk id start.offset course.fields reason)) := by
  cases h with
  | failed hattempt => exact attemptSteps_of_failure hattempt
  | @vetoed name accepts haccepts =>
    have hvetoes : ¬ accepts (course.progress config.skipsBlanks start).context = true :=
      Bool.not_eq_true _ ▸ haccepts
    rw [attemptSteps, if_neg hvetoes]
    rfl

/-- A step comes to a result or gives up, unless its matcher has no outcome. -/
theorem comesTo_or_givesUp
    (h : (attemptSteps admits call id config start (step :: rest) rules
      (course.progress config.skipsBlanks start)).isSome = true) :
    (∃ result, ComesTo (fun m => m.attempt admits call rules)
        (course.ready config.skipsBlanks start) course.fields step result) ∨
      ∃ reason, GivesUp (fun m => m.attempt admits call rules)
        (course.ready config.skipsBlanks start) course.fields step reason := by
  cases step with
  | take name m =>
    cases hattempt : m.attempt admits call rules (course.ready config.skipsBlanks start) with
    | none =>
      have hcurrent : m.attempt admits call rules
          ((course.progress config.skipsBlanks start).current.ready config.skipsBlanks) = none :=
        hattempt
      rw [attemptSteps] at h
      simp only [hcurrent] at h
      cases h
    | some o =>
      cases o with
      | success found => exact Or.inl ⟨_, .matched hattempt⟩
      | absent who offset => exact Or.inl ⟨_, .absent hattempt⟩
      | failure f => exact Or.inr ⟨_, .failed hattempt⟩
  | veto name accepts =>
    cases haccepts : accepts course.fields with
    | true => exact Or.inl ⟨_, .accepted haccepts⟩
    | false => exact Or.inr ⟨_, .vetoed haccepts⟩
  | alter name value => exact Or.inl ⟨_, .computed name value⟩

variable (hstands : ∀ m : Matcher, Attempt.Stands (m.attempt admits call rules))

include hstands

/-- A sequence goes on past a step that comes to a result. -/
theorem attemptSteps_of_comesTo {result : StepResult}
    (h : ComesTo (fun m => m.attempt admits call rules) (course.ready config.skipsBlanks start)
      course.fields step result) :
    attemptSteps admits call id config start (step :: rest) rules
        (course.progress config.skipsBlanks start) =
      attemptSteps admits call id config start rest rules
        (Course.progress config.skipsBlanks start (course ++ [(step, result)])) := by
  rw [Course.progress_concat]
  cases h with
  | @matched name m found hattempt =>
    have hfound : (found.withName name).matched <+:
        (course.ready config.skipsBlanks start).rest := (hstands m _ _ hattempt).2
    have htake := Course.take_eq_behindPart (p := course.progress config.skipsBlanks start)
      hfound name
    exact attemptSteps_of_take hattempt htake
  | absent hattempt => exact attemptSteps_of_absent hattempt
  | @accepted name accepts haccepts =>
    have haccepts' : accepts (course.progress config.skipsBlanks start).context = true := haccepts
    rw [attemptSteps, if_pos haccepts']
    rfl
  | computed name value =>
    rw [attemptSteps]
    rfl

/-- A sequence that has gone through the steps of a course has the progress of the course. -/
theorem attemptSteps_of_runs
    (h : course.Runs (fun m => m.attempt admits call rules) config.skipsBlanks start) :
    ∀ rest, attemptSteps admits call id config start (course.steps ++ rest) rules
        ⟨start, [], []⟩ =
      attemptSteps admits call id config start rest rules
        (course.progress config.skipsBlanks start) := by
  induction h with
  | nil =>
    intro rest
    rfl
  | @concat course step result _ hstep ih =>
    intro rest
    rw [Course.steps_concat, List.append_assoc, List.singleton_append, ih (step :: rest)]
    exact attemptSteps_of_comesTo hstands hstep

/-- The steps behind a course take the sequence to one of its ends. -/
theorem ends_of_attemptSteps {o : Outcome}
    (hcourse : course.Runs (fun m => m.attempt admits call rules) config.skipsBlanks start)
    (h : attemptSteps admits call id config start rest rules
      (course.progress config.skipsBlanks start) = some o) :
    Ends (fun m => m.attempt admits call rules) id (course.steps ++ rest) config start o := by
  induction rest generalizing course with
  | nil =>
    rw [attemptSteps, Option.some.injEq] at h
    have hmatch : o = .success (course.toMatch id config.skipsBlanks start) := by
      rw [← h, Progress.finish, Course.progress, List.reverse_reverse, Course.toMatch]
    rw [hmatch]
    exact .through hcourse (List.append_nil _).symm
  | cons step rest ih =>
    have hsome : (attemptSteps admits call id config start (step :: rest) rules
        (course.progress config.skipsBlanks start)).isSome = true := by rw [h]; rfl
    obtain ⟨result, hstep⟩ | ⟨reason, hstep⟩ := comesTo_or_givesUp hsome
    · rw [attemptSteps_of_comesTo hstands hstep] at h
      have hends := ih (hcourse.concat hstep) h
      rwa [Course.steps_concat, List.append_assoc] at hends
    · rw [attemptSteps_of_givesUp hstep, Option.some.injEq] at h
      rw [← h]
      exact .stopped hcourse rfl hstep

/-- A sequence has exactly the outcomes in which its courses end. -/
theorem attempt_sequence_eq_some_iff {steps : List (Step Matcher)} {o : Outcome} :
    (sequence id steps config).attempt admits call rules start = some o ↔
      Ends (fun m => m.attempt admits call rules) id steps config start o := by
  rw [attempt]
  constructor
  · intro h
    exact ends_of_attemptSteps hstands .nil h
  · intro h
    cases h with
    | @through course hcourse hsteps =>
      rw [← hsteps, ← List.append_nil course.steps, attemptSteps_of_runs hstands hcourse,
        attemptSteps, Progress.finish, Course.progress, List.reverse_reverse]
      rfl
    | stopped hcourse hsteps hstep =>
      rw [← hsteps, attemptSteps_of_runs hstands hcourse]
      exact attemptSteps_of_givesUp hstep

end Run

theorem matchIn_sequence_eq_some_iff {rules : Rules} {id : String} {steps : List (Step Matcher)}
    {config : Config} {c : Cursor} {o : Outcome} :
    (sequence id steps config).matchIn rules c = some o ↔
      Ends (matchIn rules) id steps config c o := by
  have hsame : matchIn rules =
      fun m => m.attempt canStartWith (fun rules m c => m.matchIn rules c) rules := by
    funext m c
    exact matchIn_eq_attempt rules m c
  have hstands : ∀ m : Matcher,
      Attempt.Stands (m.attempt canStartWith (fun rules m c => m.matchIn rules c) rules) :=
    fun m => attempt_stands matchIn_stands m rules
  rw [matchIn_eq_attempt, hsame]
  exact attempt_sequence_eq_some_iff hstands

theorem matchIn_sequence_eq_success_iff {rules : Rules} {id : String} {steps : List (Step Matcher)}
    {config : Config} {c : Cursor} {m : Match} :
    (sequence id steps config).matchIn rules c = some (.success m) ↔
      ∃ course : Course, course.Runs (matchIn rules) config.skipsBlanks c ∧ course.steps = steps ∧
        m = course.toMatch id config.skipsBlanks c := by
  rw [matchIn_sequence_eq_some_iff]
  constructor
  · intro h
    cases h with
    | through hcourse hsteps => exact ⟨_, hcourse, hsteps, rfl⟩
  · rintro ⟨course, hcourse, hsteps, rfl⟩
    exact .through hcourse hsteps

end Matcher

end Excerpt
