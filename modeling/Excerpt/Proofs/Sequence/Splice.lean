import Excerpt.Proofs.Sequence.Bindings
import Excerpt.Proofs.Sequence.Consumption

/-!
# A sequence at the end of another

The last step of a sequence can be a sequence of its own, or the steps of that sequence can stand in
its place.  The steps are tried at the same places either way: the white space that both sequences
skip before a step is skipped only once (`Course.ready_append`).  They come to the same results if
they look only at fields that they bind themselves (`Course.runs_append_iff`).  So the two match
together, with the same text, and with the same fields but that one has some of them bundled under a
name (`Matcher.spliced_iff_nested`).
-/

namespace Excerpt

/-! ## Functions of some fields -/

namespace Fields

variable {fields fields' : Fields} {names : List String} {name : String}

/-- The entries under some names. -/
def only (fields : Fields) (names : List String) : Fields :=
  fields.filter fun entry => names.contains entry.1

theorem only_append (fields fields' : Fields) (names : List String) :
    only (fields ++ fields') names = only fields names ++ only fields' names :=
  List.filter_append fields fields'

theorem only_eq_nil (h : ∀ name ∈ keys fields, name ∉ names) : only fields names = [] := by
  rw [only, List.filter_eq_nil_iff]
  intro entry hentry
  rw [List.contains_iff_mem]
  exact h _ (List.mem_map_of_mem hentry)

theorem get?_only (h : name ∈ names) : get? (only fields names) name = get? fields name := by
  induction fields with
  | nil => rfl
  | cons entry rest ih =>
    obtain ⟨key, value⟩ := entry
    by_cases hkey : key ∈ names
    · have hkept : only ((key, value) :: rest) names = (key, value) :: only rest names :=
        List.filter_cons_of_pos (List.contains_iff_mem.2 hkey)
      rw [hkept, get?, get?, ih]
    · have hdropped : only ((key, value) :: rest) names = only rest names :=
        List.filter_cons_of_neg (mt List.contains_iff_mem.1 hkey)
      have hne : ¬ key = name := fun heq => hkey (heq ▸ h)
      rw [hdropped, ih, get?, if_neg hne]

end Fields

/-- The function looks only at the entries under some names: fields with the same ones, in the same
order, are the same to it. -/
def ReadsOnly {α : Type} (names : List String) (f : Fields → α) : Prop :=
  ∀ fields fields' : Fields, (Fields.keys fields).Nodup → (Fields.keys fields').Nodup →
    Fields.only fields names = Fields.only fields' names → f fields = f fields'

/-- Fields are the same to it in particular if they are wherever it looks something up. -/
theorem readsOnly_of_get? {α : Type} {names : List String} {f : Fields → α}
    (h : ∀ fields fields', (∀ name ∈ names, Fields.get? fields name = Fields.get? fields' name) →
      f fields = f fields') : ReadsOnly names f := by
  intro fields fields' _ _ hsame
  apply h
  intro name hname
  rw [← Fields.get?_only hname, hsame, Fields.get?_only hname]

/-- The step looks only at fields under some names. -/
def Step.ReadsOnly (names : List String) : Step Matcher → Prop
  | take _ _ => True
  | veto _ accepts => Excerpt.ReadsOnly names accepts
  | alter _ value => Excerpt.ReadsOnly names value

/-- A step comes to the same result if the fields it looks at are the same. -/
theorem ComesTo.congr {attempt : Matcher → Attempt} {ready : Cursor} {fields fields' : Fields}
    {names : List String} {step : Step Matcher} {result : StepResult}
    (hreads : step.ReadsOnly names) (hkeys : (Fields.keys fields).Nodup)
    (hkeys' : (Fields.keys fields').Nodup)
    (hsame : Fields.only fields names = Fields.only fields' names)
    (h : ComesTo attempt ready fields step result) : ComesTo attempt ready fields' step result := by
  cases h with
  | matched hattempt => exact .matched hattempt
  | absent hattempt => exact .absent hattempt
  | accepted haccepts => exact .accepted (hreads fields fields' hkeys hkeys' hsame ▸ haccepts)
  | computed name value =>
    rw [hreads fields fields' hkeys hkeys' hsame]
    exact .computed name value

/-- Steps go by some names and look only at fields under these, and the steps in front of them go by
none of these names. -/
structure StepsApart (names : List String) (front steps : List (Step Matcher)) : Prop where
  nodup_front : (front.map Step.name).Nodup
  nodup : (steps.map Step.name).Nodup
  not_mem : ∀ name ∈ front.map Step.name, name ∉ names
  mem : ∀ name ∈ steps.map Step.name, name ∈ names
  reads : ∀ step ∈ steps, step.ReadsOnly names

namespace StepsApart

variable {names : List String} {front steps rest : List (Step Matcher)} {step : Step Matcher}

theorem of_append (h : StepsApart names front (steps ++ rest)) : StepsApart names front steps := by
  have hnames := List.map_append ▸ h.nodup
  refine ⟨h.nodup_front, (List.nodup_append.1 hnames).1, h.not_mem, fun name hname => ?_, ?_⟩
  · exact h.mem name (List.map_append ▸ List.mem_append_left _ hname)
  · exact fun step hstep => h.reads step (List.mem_append_left _ hstep)

theorem nodup_append (h : StepsApart names front steps) : ((front ++ steps).map Step.name).Nodup := by
  rw [List.map_append, List.nodup_append]
  refine ⟨h.nodup_front, h.nodup, ?_⟩
  rintro name hname _ hname' rfl
  exact h.not_mem name hname (h.mem name hname')

end StepsApart

/-! ## Courses one behind another -/

namespace Course

section Append

variable (front course : Course) (skipsBlanks : Bool) (start : Cursor)

theorem steps_append : Course.steps (front ++ course) = front.steps ++ course.steps :=
  List.map_append

theorem entries_append : Course.entries (front ++ course) = front.entries ++ course.entries :=
  List.filterMap_append

theorem place_append :
    Course.place skipsBlanks start (front ++ course) =
      course.place skipsBlanks (front.place skipsBlanks start) := by
  rw [place, parts, List.filterMap_append, List.foldl_append]
  rfl

/-- Without any text steps stay where they begin. -/
theorem place_of_texts_eq_nil (h : Match.texts course.parts = []) :
    course.place skipsBlanks start = start := by
  rw [place]
  generalize course.parts = parts at h
  induction parts using List.reverseRecOn with
  | nil => rfl
  | append_singleton parts part ih =>
    have hempty : part.matched = [] := by
      by_contra hne
      rw [Match.texts_concat_of_ne_nil hne] at h
      simp at h
    rw [Match.texts_concat_of_nil hempty] at h
    rw [List.foldl_append, ih h]
    exact behindPart_of_nil hempty

/-- Once there is some text, it makes no difference whether white space was skipped before. -/
theorem place_ready_of_texts_ne_nil (h : Match.texts course.parts ≠ []) :
    course.place skipsBlanks (start.ready skipsBlanks) = course.place skipsBlanks start := by
  cases skipsBlanks with
  | false => rfl
  | true =>
    obtain ⟨hnil, _⟩ | ⟨_, hsame⟩ := course.place_skipBlanks start
    · exact absurd hnil h
    · exact hsame

/-- Steps behind others are tried where they would be tried from the place of the first of them. -/
theorem ready_append :
    Course.ready skipsBlanks start (front ++ course) =
      course.ready skipsBlanks (front.ready skipsBlanks start) := by
  rw [ready, place_append]
  cases skipsBlanks with
  | false => rfl
  | true => exact (course.ready_skipBlanks (front.place true start)).symm

end Append

variable {attempt : Matcher → Attempt} {skipsBlanks : Bool} {start c : Cursor}
  {front course : Course} {step : Step Matcher} {result : StepResult} {names : List String}

theorem runs_concat_iff :
    Course.Runs attempt skipsBlanks start (course ++ [(step, result)]) ↔
      course.Runs attempt skipsBlanks start ∧
        ComesTo attempt (course.ready skipsBlanks start) course.fields step result := by
  constructor
  · intro h
    generalize hwhole : course ++ [(step, result)] = whole at h
    cases h with
    | nil => simp at hwhole
    | concat hcourse hstep =>
      obtain ⟨rfl, hlast⟩ := List.append_inj' hwhole rfl
      cases hlast
      exact ⟨hcourse, hstep⟩
  · rintro ⟨hcourse, hstep⟩
    exact hcourse.concat hstep

theorem fields_append (h : StepsApart names front.steps course.steps) :
    Course.fields (front ++ course) = front.entries ++ course.entries := by
  have hnodup := h.nodup_append
  rw [← steps_append] at hnodup
  rw [fields_eq_entries hnodup, entries_append]

/-- The fields that a step finds are those of its own course, if it looks at no others. -/
theorem comesTo_append_iff (h : StepsApart names front.steps course.steps)
    (hreads : step.ReadsOnly names) (ready : Cursor) :
    ComesTo attempt ready (Course.fields (front ++ course)) step result ↔
      ComesTo attempt ready course.fields step result := by
  have hnodup := h.nodup_append
  rw [← steps_append] at hnodup
  have hfront : Fields.only front.entries names = [] :=
    Fields.only_eq_nil fun name hname => h.not_mem name (front.keys_entries_sublist.subset hname)
  have hsame : Fields.only (Course.entries (front ++ course)) names =
      Fields.only course.entries names := by
    rw [entries_append, Fields.only_append, hfront, List.nil_append]
  have hkeys := nodup_keys_entries h.nodup
  have hkeys' := nodup_keys_entries hnodup
  rw [fields_eq_entries h.nodup, fields_eq_entries hnodup]
  exact ⟨.congr hreads hkeys' hkeys hsame, .congr hreads hkeys hkeys' hsame.symm⟩

/-- Steps behind others come to the same results as by themselves, if they look only at fields of
their own. -/
theorem runs_append_iff (h : StepsApart names front.steps course.steps) :
    Course.Runs attempt skipsBlanks start (front ++ course) ↔
      front.Runs attempt skipsBlanks start ∧
        course.Runs attempt skipsBlanks (front.ready skipsBlanks start) := by
  induction course using List.reverseRecOn with
  | nil =>
    rw [List.append_nil]
    exact (and_iff_left .nil).symm
  | append_singleton course x ih =>
    obtain ⟨step, result⟩ := x
    rw [steps_concat] at h
    have hstep := h.reads step (List.mem_append_right _ List.mem_cons_self)
    rw [← List.append_assoc, runs_concat_iff, runs_concat_iff, ih h.of_append, ready_append,
      comesTo_append_iff h.of_append hstep, and_assoc]

/-! ## A course as one part -/

/-- A sequence that matches as a part leaves the outer one where its own steps would. -/
theorem behindPart_of_runs (hstands : ∀ m, (attempt m).Stands)
    (h : course.Runs attempt skipsBlanks (c.ready skipsBlanks)) {part : Match}
    (hpart : part.matched =
      (c.ready skipsBlanks).textTo (course.place skipsBlanks (c.ready skipsBlanks))) :
    behindPart skipsBlanks c part = course.place skipsBlanks c := by
  obtain ⟨t, hlaid⟩ := h.laid hstands
  have hmoves := hlaid.moves
  rw [hmoves.textTo_eq] at hpart
  by_cases htexts : Match.texts course.parts = []
  · rw [place_of_texts_eq_nil course _ _ htexts] at hmoves ⊢
    exact behindPart_of_nil (hpart.trans (hmoves.eq_nil_of_length_le (Nat.le_refl _)))
  · obtain ⟨first, rest, hfirst⟩ := List.exists_cons_of_ne_nil htexts
    have hmem : first ∈ Match.texts course.parts := hfirst ▸ List.mem_cons_self
    rw [hfirst] at hlaid
    have hne : part.matched ≠ [] := by
      rw [hpart]
      exact hlaid.ne_nil (Match.mem_texts_iff.1 hmem).2
    rw [← hpart, place_ready_of_texts_ne_nil course _ _ htexts] at hmoves
    exact (behindPart_moves hmoves.isPrefix hne).eq hmoves

end Course

/-! ## A sequence as the last step -/

namespace Matcher

variable {rules : Rules} {id inner name : String} {front steps : List (Step Matcher)}
  {config : Config} {ready c : Cursor} {fields : Fields} {result : StepResult} {m : Match}
  {names : List String}

/-- A step that is a sequence comes to what a course of the sequence comes to. -/
theorem comesTo_sequence_iff :
    ComesTo (matchIn rules) ready fields (.take name (sequence inner steps config)) result ↔
      ∃ course : Course, course.Runs (matchIn rules) config.skipsBlanks ready ∧
        course.steps = steps ∧
        result = .matched ((course.toMatch inner config.skipsBlanks ready).withName name) := by
  constructor
  · intro h
    cases h with
    | matched hattempt =>
      obtain ⟨course, hruns, hsteps, rfl⟩ := matchIn_sequence_eq_success_iff.1 hattempt
      exact ⟨course, hruns, hsteps, rfl⟩
    | absent hattempt => cases matchIn_sequence_eq_some_iff.1 hattempt
  · rintro ⟨course, hruns, hsteps, rfl⟩
    exact .matched (matchIn_sequence_eq_success_iff.2 ⟨course, hruns, hsteps, rfl⟩)

/-- A sequence of steps and further ones matches by a course for each. -/
theorem matchIn_append_eq_success_iff (hapart : StepsApart names front steps) :
    (sequence id (front ++ steps) config).matchIn rules c = some (.success m) ↔
      ∃ before course : Course, before.steps = front ∧ course.steps = steps ∧
        before.Runs (matchIn rules) config.skipsBlanks c ∧
        course.Runs (matchIn rules) config.skipsBlanks (before.ready config.skipsBlanks c) ∧
        m = Course.toMatch id config.skipsBlanks c (before ++ course) := by
  rw [matchIn_sequence_eq_success_iff]
  constructor
  · rintro ⟨whole, hruns, hwhole, rfl⟩
    obtain ⟨before, course, rfl, rfl, rfl⟩ := List.map_eq_append_iff.1 hwhole
    obtain ⟨hbefore, hcourse⟩ := (Course.runs_append_iff hapart).1 hruns
    exact ⟨before, course, rfl, rfl, hbefore, hcourse, rfl⟩
  · rintro ⟨before, course, rfl, rfl, hbefore, hcourse, rfl⟩
    exact ⟨_, (Course.runs_append_iff hapart).2 ⟨hbefore, hcourse⟩,
      Course.steps_append before course, rfl⟩

/-- A sequence whose last step is a sequence matches by a course for the steps before, and one for
the steps of that sequence. -/
theorem matchIn_concat_sequence_eq_success_iff :
    (sequence id (front ++ [.take name (sequence inner steps config)]) config).matchIn rules c =
        some (.success m) ↔
      ∃ before course : Course, before.steps = front ∧ course.steps = steps ∧
        before.Runs (matchIn rules) config.skipsBlanks c ∧
        course.Runs (matchIn rules) config.skipsBlanks (before.ready config.skipsBlanks c) ∧
        m = Course.toMatch id config.skipsBlanks c (before ++
          [(.take name (sequence inner steps config), .matched ((course.toMatch inner
            config.skipsBlanks (before.ready config.skipsBlanks c)).withName name))]) := by
  rw [matchIn_sequence_eq_success_iff]
  constructor
  · rintro ⟨whole, hruns, hwhole, rfl⟩
    obtain ⟨before, last, rfl, rfl, hlast⟩ := List.map_eq_append_iff.1 hwhole
    obtain ⟨⟨step, result⟩, rfl, rfl⟩ := List.map_eq_singleton_iff.1 hlast
    obtain ⟨hbefore, hstep⟩ := Course.runs_concat_iff.1 hruns
    obtain ⟨course, hcourse, hsteps, rfl⟩ := comesTo_sequence_iff.1 hstep
    exact ⟨before, course, rfl, hsteps, hbefore, hcourse, rfl⟩
  · rintro ⟨before, course, rfl, hsteps, hbefore, hcourse, rfl⟩
    have hstep : ComesTo (matchIn rules) (before.ready config.skipsBlanks c) before.fields
        (.take name (sequence inner steps config)) _ :=
      comesTo_sequence_iff.2 ⟨course, hcourse, hsteps, rfl⟩
    exact ⟨_, Course.runs_concat_iff.2 ⟨hbefore, hstep⟩, Course.steps_concat _ _ _, rfl⟩

end Matcher

/-- One match has the text of another, and its fields, but that the last of these are bundled under
a name in the other. -/
structure Match.Splices (name : String) (m nested : Match) : Prop where
  matched_eq : m.matched = nested.matched
  context_eq : ∃ before fields : Fields, m.context = some (before ++ fields) ∧
    nested.context = some (before ++ [(name, .map fields)])

namespace Matcher

variable {rules : Rules} {id id' inner name : String} {front steps : List (Step Matcher)}
  {config : Config} {c : Cursor} {names : List String}

/-- Two courses make such matches, be it one behind the other or one as a part behind the other. -/
theorem splices_toMatch {before course : Course}
    (hapart : StepsApart names before.steps course.steps)
    (hfresh : name ∉ before.steps.map Step.name)
    (hcourse : course.Runs (matchIn rules) config.skipsBlanks (before.ready config.skipsBlanks c))
    (m : Matcher) :
    (Course.toMatch id config.skipsBlanks c (before ++ course)).Splices name
      (Course.toMatch id' config.skipsBlanks c (before ++
        [(.take name m, .matched ((course.toMatch inner config.skipsBlanks
          (before.ready config.skipsBlanks c)).withName name))])) := by
  have hfields : before.fields = before.entries := Course.fields_eq_entries hapart.nodup_front
  have hnew : name ∉ Fields.keys before.entries := fun hmem =>
    hfresh (before.keys_entries_sublist.subset hmem)
  refine ⟨?_, before.entries, course.entries, congrArg some (Course.fields_append hapart), ?_⟩
  · show c.textTo (Course.place config.skipsBlanks c (before ++ course)) =
      c.textTo (Course.place config.skipsBlanks c (before ++ [_]))
    rw [Course.place_append, Course.place_concat]
    exact congrArg c.textTo (Course.behindPart_of_runs (matchIn_stands rules) hcourse rfl).symm
  · show some (Course.fields (before ++ [_])) = _
    rw [Course.fields_concat, hfields]
    show some (Fields.insert before.entries name (.map course.fields)) = _
    rw [Fields.insert_of_not_mem hnew, Course.fields_eq_entries hapart.nodup]

/-- With steps that look only at fields of their own it makes no difference whether they stand at
the end of a sequence or are a sequence there, but for the name that bundles their fields. -/
theorem spliced_iff_nested (hapart : StepsApart names front steps)
    (hfresh : name ∉ front.map Step.name) :
    (∀ m, (sequence id (front ++ steps) config).matchIn rules c = some (.success m) →
      ∃ m', (sequence id' (front ++ [.take name (sequence inner steps config)]) config).matchIn
        rules c = some (.success m') ∧ m.Splices name m') ∧
    ∀ m', (sequence id' (front ++ [.take name (sequence inner steps config)]) config).matchIn
        rules c = some (.success m') →
      ∃ m, (sequence id (front ++ steps) config).matchIn rules c = some (.success m) ∧
        m.Splices name m' := by
  constructor
  · intro m hm
    obtain ⟨before, course, rfl, rfl, hbefore, hcourse, rfl⟩ :=
      (matchIn_append_eq_success_iff hapart).1 hm
    exact ⟨_, matchIn_concat_sequence_eq_success_iff.2
      ⟨before, course, rfl, rfl, hbefore, hcourse, rfl⟩, splices_toMatch hapart hfresh hcourse _⟩
  · intro m' hm'
    obtain ⟨before, course, rfl, rfl, hbefore, hcourse, rfl⟩ :=
      matchIn_concat_sequence_eq_success_iff.1 hm'
    exact ⟨_, (matchIn_append_eq_success_iff hapart).2
      ⟨before, course, rfl, rfl, hbefore, hcourse, rfl⟩, splices_toMatch hapart hfresh hcourse _⟩

end Matcher

end Excerpt
