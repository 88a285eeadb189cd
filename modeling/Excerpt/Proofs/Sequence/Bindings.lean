import Excerpt.Proofs.Fields
import Excerpt.Proofs.Matcher.Build
import Excerpt.Proofs.Sequence.Course

/-!
# What a sequence binds

A sequence that was built has a name for each step, and no name twice.  So the fields that it has
bound at any time are the entries of its course as they stand, one for each step with a value, in
the order of the steps (`Course.fields_eq_entries`).  `binds_in_order` says it of whole attempts:
what is bound, what the parts of the match are, which fields each step was given, and what is
reported when the sequence gives up.
-/

namespace Excerpt

namespace Course

variable {attempt : Matcher → Attempt} {skipsBlanks : Bool} {start : Cursor} {course : Course}

/-- The names bound are those of the steps with a value. -/
theorem keys_entries (course : Course) :
    Fields.keys course.entries =
      (course.filter fun x => x.2.value?.isSome).map fun x => x.1.name := by
  induction course with
  | nil => rfl
  | cons x course ih =>
    obtain ⟨step, result⟩ := x
    cases hvalue : result.value? <;> simpa [Fields.keys, entries, hvalue] using ih

theorem keys_entries_sublist (course : Course) :
    List.Sublist (Fields.keys course.entries) (course.steps.map Step.name) := by
  rw [keys_entries, steps, List.map_map]
  exact List.filter_sublist.map _

/-- Steps of different names bind different names. -/
theorem nodup_keys_entries (hnames : (course.steps.map Step.name).Nodup) :
    (Fields.keys course.entries).Nodup :=
  hnames.sublist course.keys_entries_sublist

/-- Steps of different names bind each entry where it stands. -/
theorem fields_eq_entries (hnames : (course.steps.map Step.name).Nodup) :
    course.fields = course.entries :=
  Fields.ofList_eq_self (nodup_keys_entries hnames)

/-- The value of a step is an entry. -/
theorem mem_entries {step : Step Matcher} {result : StepResult} {value : Value}
    (hmem : (step, result) ∈ course) (hvalue : result.value? = some value) :
    (step.name, value) ∈ course.entries := by
  rw [entries, List.mem_filterMap]
  refine ⟨(step, result), hmem, ?_⟩
  rw [hvalue]
  rfl

/-- Any step of a course came to its result behind the steps before it. -/
theorem Runs.comesTo (h : course.Runs attempt skipsBlanks start) :
    ∀ (before : Course) (step : Step Matcher) (result : StepResult) (after : Course),
      course = before ++ (step, result) :: after →
      ComesTo attempt (before.ready skipsBlanks start) before.fields step result := by
  induction h with
  | nil =>
    intro before step result after hsplit
    simp at hsplit
  | @concat course step result _ hstep ih =>
    intro before step' result' after hsplit
    rcases List.eq_nil_or_concat after with rfl | ⟨after, last, rfl⟩
    · obtain ⟨hbefore, hlast⟩ := List.append_inj' hsplit rfl
      cases hlast
      rw [← hbefore]
      exact hstep
    · rw [List.concat_eq_append, ← List.cons_append, ← List.append_assoc] at hsplit
      exact ih before step' result' after (List.append_inj' hsplit rfl).1

/-- Where names differ, the fields that a step was given are the entries before it. -/
theorem Runs.comesTo_entries (h : course.Runs attempt skipsBlanks start)
    (hnames : (course.steps.map Step.name).Nodup) (before : Course) (step : Step Matcher)
    (result : StepResult) (after : Course) (hsplit : course = before ++ (step, result) :: after) :
    ComesTo attempt (before.ready skipsBlanks start) before.entries step result := by
  have hbefore : (before.steps.map Step.name).Nodup := by
    rw [hsplit, steps, List.map_append, List.map_append] at hnames
    exact (List.nodup_append.1 hnames).1
  rw [← fields_eq_entries hbefore]
  exact h.comesTo before step result after hsplit

/-- A part of the match has the name of its step, under which its value is bound. -/
theorem Runs.name_part (h : course.Runs attempt skipsBlanks start)
    (hnames : (course.steps.map Step.name).Nodup) {step : Step Matcher} {part : Match}
    (hmem : (step, .matched part) ∈ course) :
    part.name = some step.name ∧ Fields.get? course.entries step.name = some part.value := by
  constructor
  · obtain ⟨before, after, hsplit⟩ := List.append_of_mem hmem
    have hstep := h.comesTo before step (.matched part) after hsplit
    cases hstep
    rfl
  · exact Fields.get?_of_mem (nodup_keys_entries hnames) (mem_entries hmem rfl)

end Course

namespace Matcher

/-- What a sequence binds.  Its course goes through its steps as far as they come to results, each
given the entries of the steps before.  Behind all steps, the fields of the match are the entries of
the course, and its children are the parts.  Where a step gives up, the entries before it are
reported. -/
theorem binds_in_order {id : Option String} {steps : List (Step Matcher)} {config : Config}
    {m : Matcher} (hbuilt : sequence? id steps config = .ok m) {rules : Rules} {c : Cursor}
    {o : Outcome} (h : m.matchIn rules c = some o) :
    ∃ course : Course,
      (∀ (before : Course) (step : Step Matcher) (result : StepResult) (after : Course),
        course = before ++ (step, result) :: after →
        ComesTo (matchIn rules) (before.ready config.skipsBlanks c) before.entries step result) ∧
      Fields.keys course.entries =
        ((course.filter fun x => x.2.value?.isSome).map fun x => x.1.name) ∧
      (Fields.keys course.entries).Nodup ∧
      (∀ step part, (step, .matched part) ∈ course →
        part.name = some step.name ∧ Fields.get? course.entries step.name = some part.value) ∧
      ((∃ found, o = .success found ∧ course.steps = steps ∧
          found.context = some course.entries ∧ found.children = course.parts) ∨
        ∃ step rest reason, course.steps ++ step :: rest = steps ∧
          GivesUp (matchIn rules) (course.ready config.skipsBlanks c) course.entries step reason ∧
          o = .failure (.mk m.id c.offset course.entries reason)) := by
  obtain ⟨⟨id, rfl⟩, hdistinct, _⟩ := sequence?_eq_ok hbuilt
  rw [matchIn_sequence_eq_some_iff] at h
  cases h with
  | @through course hruns hsteps =>
    have hnames : (course.steps.map Step.name).Nodup := hsteps ▸ hdistinct
    have hfields := Course.fields_eq_entries hnames
    refine ⟨course, hruns.comesTo_entries hnames, course.keys_entries,
      Course.nodup_keys_entries hnames, fun step part => hruns.name_part hnames, Or.inl ?_⟩
    refine ⟨_, rfl, hsteps, ?_, rfl⟩
    rw [← hfields]
    rfl
  | @stopped course step rest reason hruns hsteps hstep =>
    have hnames : (course.steps.map Step.name).Nodup := by
      rw [← hsteps, List.map_append] at hdistinct
      exact (List.nodup_append.1 hdistinct).1
    have hfields := Course.fields_eq_entries hnames
    refine ⟨course, hruns.comesTo_entries hnames, course.keys_entries,
      Course.nodup_keys_entries hnames, fun step part => hruns.name_part hnames, Or.inr ?_⟩
    rw [hfields] at hstep ⊢
    exact ⟨step, rest, reason, hsteps, hstep, rfl⟩

/-- A word, unless there is a mark behind it, and the word once more under another name. -/
def copiedWord : List (Step Matcher) :=
  [.take "word" (.literal "x"), .take "mark" (.optional (.literal "!") none),
    .veto "plain" fun fields => !Fields.contains fields "mark",
    .alter "copy" fun fields => (Fields.get? fields "word").getD .nil,
    .take "_end" (.literal ";")]

theorem binds_in_order_copiedWord :
    ∃ (m : Matcher) (found : Match) (course : Course),
      sequence? (some "copied") copiedWord .relaxed = .ok m ∧
      m.matchIn [] (Cursor.ofString "x ;") = some (.success found) ∧
      (∀ (before : Course) (step : Step Matcher) (result : StepResult) (after : Course),
        course = before ++ (step, result) :: after →
        ComesTo (matchIn []) (before.ready true (Cursor.ofString "x ;")) before.entries step
          result) ∧
      (Fields.keys course.entries).Nodup ∧ course.steps = copiedWord ∧
      found.context = some course.entries ∧ found.children = course.parts := by
  have hbuilt : sequence? (some "copied") copiedWord .relaxed =
      .ok (sequence "copied" copiedWord .relaxed) := rfl
  have hmatches : ((sequence "copied" copiedWord .relaxed).matchIn []
      (Cursor.ofString "x ;")).any Outcome.isMatch = true := by
    decide +kernel
  obtain ⟨o, ho, hsuccess⟩ := (Option.any_eq_true _ _).1 hmatches
  obtain ⟨course, hruns, _, hkeys, _, ⟨found, rfl, hends⟩ | ⟨_, _, _, _, _, rfl⟩⟩ :=
    binds_in_order hbuilt ho
  · exact ⟨_, found, course, hbuilt, ho, hruns, hkeys, hends⟩
  · cases hsuccess

end Matcher

end Excerpt
