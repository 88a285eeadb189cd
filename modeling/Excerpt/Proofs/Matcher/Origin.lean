import Excerpt.Proofs.Fields
import Excerpt.Proofs.Matcher.Build
import Excerpt.Proofs.Matcher.Success
import Excerpt.Proofs.Sequence.Course

/-!
# Where values come from

A match has fields for its value if a sequence has bound them, under step names, or if an `alter`
step has computed a value of this kind.  What a step computes is a field of its sequence at first;
it becomes the value of a match only where an optional matcher pulls this field up.  `Origin` says
so of values and `Match.Traced` of matches, and `matchIn_traced` shows it of all that is matched.

The matchers that an attempt can come to are those in its matcher, in the rules in force and in the
closures of both.  They are named by `among`, of which `WellBuilt` asks that its sequences have been
built and that what steps compute binds no name twice.
-/

namespace Excerpt

open Matcher

/-! ## Origins -/

section

variable (among : Matcher → Prop)

/-- An optional matcher among some matchers pulls a field up. -/
def PullsUp (field : String) : Prop := ∃ inner, among (.optional inner (some field))

/-- A sequence among some matchers computes a value under a name. -/
def Computes (name : String) (value : Fields → Value) : Prop :=
  ∃ id steps config, among (.sequence id steps config) ∧ .alter name value ∈ steps

/-- The sequences among some matchers have been built, and what they compute from fields binds no
name twice, if the fields do not. -/
structure WellBuilt : Prop where
  sequences : ∀ {id steps config}, among (.sequence id steps config) →
    ∃ given, sequence? given steps config = .ok (.sequence id steps config)
  values : ∀ {name value}, Computes among name value →
    ∀ fields, (Value.map fields).Distinct → (value fields).Distinct

/-- If a value is fields, it binds step names. -/
def Value.HasStepNames (v : Value) : Prop :=
  ∀ entries, v = .map entries → ∀ key ∈ Fields.keys entries, validateStepName key = .ok ()

/-- Where the value of a match comes from. -/
inductive Origin : Value → Prop
  | steps {v : Value} (hnames : v.HasStepNames) : Origin v
  | pulledUp {field : String} {value : Fields → Value} (hpulls : PullsUp among field)
    (hcomputes : Computes among field value) (given : Fields) : Origin (value given)

/-- Where the value of a field comes from. -/
inductive FieldOrigin (name : String) : Value → Prop
  | taken {v : Value} (horigin : Origin among v) : FieldOrigin name v
  | computed {value : Fields → Value} (hcomputes : Computes among name value) (given : Fields) :
    FieldOrigin name (value given)

/-- Fields that are bound by steps. -/
structure FieldsTraced (fields : Fields) : Prop where
  distinct : (Value.map fields).Distinct
  names : ∀ key ∈ Fields.keys fields, validateStepName key = .ok ()
  origins : ∀ name v, (name, v) ∈ fields → FieldOrigin among name v

/-- The value of a match comes from where it may, and so do its fields if it is that of a
sequence. -/
structure Match.Traced (m : Match) : Prop where
  distinct : m.value.Distinct
  origin : Origin among m.value
  fields : ∀ fields, m.context = some fields → FieldsTraced among fields

/-- The matches of an attempt are traced. -/
def Attempt.Traces (a : Attempt) : Prop := ∀ c m, a c = some (.success m) → m.Traced among

end

variable {among : Matcher → Prop}

/-! ## Single matches -/

/-- A field that is pulled up has the origin of a match. -/
theorem FieldOrigin.origin {field : String} {v : Value} (h : FieldOrigin among field v)
    (hpulls : PullsUp among field) : Origin among v := by
  cases h with
  | taken horigin => exact horigin
  | computed hcomputes given => exact .pulledUp hpulls hcomputes given

theorem FieldsTraced.insert {fields : Fields} {name : String} {value : Value}
    (h : FieldsTraced among fields) (hvalid : validateStepName name = .ok ())
    (hdistinct : value.Distinct) (horigin : FieldOrigin among name value) :
    FieldsTraced among (Fields.insert fields name value) where
  distinct := h.distinct.insert hdistinct name
  names := by
    intro key hkey
    obtain ⟨entry, hentry, rfl⟩ := List.mem_map.1 hkey
    rcases Fields.mem_of_mem_insert hentry with hold | rfl
    · exact h.names _ (List.mem_map_of_mem hold)
    · exact hvalid
  origins := by
    intro name' v hentry
    rcases Fields.mem_of_mem_insert hentry with hold | hnew
    · exact h.origins name' v hold
    · cases hnew
      exact horigin

namespace Match

theorem traced_leaf (id : String) (matched : Text) (offset : Nat) (s : String) :
    (leaf id matched offset (.string s)).Traced among where
  distinct := .string s
  origin := .steps fun entries h => by cases h
  fields := fun fields h => by cases h

/-- A match under another name has the same value and fields. -/
theorem Traced.withName {m : Match} (h : m.Traced among) (name : String) :
    (m.withName name).Traced among :=
  ⟨h.distinct, h.origin, h.fields⟩

/-- The match of a sequence has its fields for its value. -/
theorem traced_ofSequence {fields : Fields} (h : FieldsTraced among fields) (id : String)
    (matched : Text) (offset : Nat) (parts : List Match) :
    (ofSequence id matched offset parts fields).Traced among where
  distinct := h.distinct
  origin := .steps fun entries heq => by
    cases heq
    exact h.names
  fields := fun fields' heq => by
    cases heq
    exact h

/-- The match of a repetition has a list for its value. -/
theorem traced_ofElements {parts : List Match} (h : ∀ m ∈ parts, m.Traced among) (id : String)
    (matched : Text) (offset : Nat) : (ofElements id matched offset parts).Traced among where
  distinct := .list fun v hv => by
    obtain ⟨m, hm, rfl⟩ := List.mem_map.1 hv
    exact (h m hm).distinct
  origin := .steps fun entries heq => by cases heq
  fields := fun fields heq => by cases heq

/-- A match that is traced is so with a pulled-up field for its value. -/
theorem Traced.pullUp {m : Match} (h : m.Traced among) {field : String}
    (hpulls : PullsUp among field) :
    (m.withValue ((m.context.bind fun fields => Fields.get? fields field).getD .nil)).Traced
      among := by
  have hvalue : ∀ v, v = (m.context.bind fun fields => Fields.get? fields field).getD .nil →
      v.Distinct ∧ Origin among v := by
    intro v hv
    cases hfound : m.context.bind fun fields => Fields.get? fields field with
    | none =>
      rw [hfound] at hv
      subst hv
      exact ⟨.nil, .steps fun entries heq => by cases heq⟩
    | some found =>
      rw [hfound] at hv
      subst hv
      obtain ⟨fields, hcontext, hget⟩ := Option.bind_eq_some_iff.1 hfound
      have hfields := h.fields fields hcontext
      have hentry := Fields.mem_of_get? hget
      refine ⟨?_, (hfields.origins field _ hentry).origin hpulls⟩
      cases hfields.distinct with
      | map _ hvalues => exact hvalues _ hentry
  obtain ⟨hdistinct, horigin⟩ := hvalue _ rfl
  exact ⟨hdistinct, horigin, fun fields heq => by cases heq⟩

end Match

/-! ## Sequences and repetitions -/

section Sequences

variable {attempt : Matcher → Attempt} {id : String} {steps : List (Step Matcher)}
  {config : Config}

/-- The value that a step of a built sequence binds is distinct and comes from where it may. -/
theorem ComesTo.origin (hbuilt : WellBuilt among) (hamong : among (.sequence id steps config))
    (htraces : ∀ name m, .take name m ∈ steps → (attempt m).Traces among) {ready : Cursor}
    {fields : Fields} (hfields : FieldsTraced among fields) {step : Step Matcher}
    (hmem : step ∈ steps) {result : StepResult} (h : ComesTo attempt ready fields step result)
    {v : Value} (hvalue : result.value? = some v) :
    v.Distinct ∧ FieldOrigin among step.name v := by
  cases h with
  | @matched name m found hattempt =>
    cases hvalue
    have hfound := htraces name m hmem _ _ hattempt
    exact ⟨hfound.distinct, .taken hfound.origin⟩
  | computed name value =>
    cases hvalue
    have hcomputes : Computes among name value := ⟨id, steps, config, hamong, hmem⟩
    exact ⟨hbuilt.values hcomputes fields hfields.distinct, .computed hcomputes fields⟩
  | absent _ => cases hvalue
  | accepted _ => cases hvalue

/-- The fields that a course of a built sequence binds are traced. -/
theorem Course.Runs.fieldsTraced (hbuilt : WellBuilt among)
    (hamong : among (.sequence id steps config))
    (htraces : ∀ name m, .take name m ∈ steps → (attempt m).Traces among) {skipsBlanks : Bool}
    {start : Cursor} {course : Course} (h : course.Runs attempt skipsBlanks start)
    (hsteps : ∀ step ∈ course.steps, step ∈ steps) : FieldsTraced among course.fields := by
  induction h with
  | nil =>
    refine ⟨.map List.nodup_nil ?_, ?_, ?_⟩
    · intro entry hentry
      cases hentry
    · intro key hkey
      cases hkey
    · intro name v hentry
      cases hentry
  | @concat course step result _ hstep ih =>
    rw [steps_concat] at hsteps
    have hfields := ih fun step hmem => hsteps step (List.mem_append_left _ hmem)
    have hmem : step ∈ steps := hsteps step (List.mem_append_right _ (List.mem_singleton.2 rfl))
    rw [fields_concat]
    cases hvalue : result.value? with
    | none => exact hfields
    | some v =>
      obtain ⟨hdistinct, horigin⟩ := hstep.origin hbuilt hamong htraces hfields hmem hvalue
      obtain ⟨_, hgiven⟩ := hbuilt.sequences hamong
      have hvalid := (sequence?_eq_ok hgiven).2.2 step hmem
      exact hfields.insert hvalid hdistinct horigin

end Sequences

/-! ## All matchers -/

namespace Matcher

variable {admits : Admission} {call : Call}

/-- All that stands in a matcher or in the rules in force is among some matchers. -/
structure Inside (among : Matcher → Prop) (rules : Rules) (m : Matcher) : Prop where
  parts : ∀ part, m.Part part → among part
  rules : ∀ rule ∈ rules, ∀ part, rule.2.Part part → among part

/-- What is inside a part of a matcher is inside the matcher. -/
theorem Inside.below {rules : Rules} {m inner : Matcher} (h : Inside among rules m)
    (hinner : ∀ part, inner.Part part → m.Part part) : Inside among rules inner :=
  ⟨fun part hpart => h.parts part (hinner part hpart), h.rules⟩

/-- The matches of all matchers are traced, if those of the called rules are. -/
theorem attempt_traces (hbuilt : WellBuilt among)
    (hstands : ∀ own definition, Attempt.Stands (call own definition))
    (hcall : ∀ own definition, Inside among own definition →
      Attempt.Traces among (call own definition)) (m : Matcher) :
    ∀ rules, Inside among rules m → Attempt.Traces among (m.attempt admits call rules) := by
  induction m using Matcher.induct with
  | literal _ | pattern _ | upTo _ _ | remainder | balanced _ _ =>
    intro rules _ c found h
    obtain ⟨_, _, _, _, rfl⟩ := attempt_eq_leaf rfl h
    exact Match.traced_leaf ..
  | sequence id steps config ih =>
    intro rules hinside c found h
    have hamong : among (sequence id steps config) := hinside.parts _ (.self _)
    have htraces : ∀ name m, .take name m ∈ steps →
        Attempt.Traces among (m.attempt admits call rules) := by
      intro name m hm
      exact ih name m hm rules (hinside.below fun part hpart => .sequence hm hpart)
    rw [attempt_sequence_eq_some_iff fun m => attempt_stands hstands m rules] at h
    cases h with
    | through hruns hsteps =>
      have hfields := hruns.fieldsTraced hbuilt hamong htraces fun step hmem => hsteps ▸ hmem
      exact Match.traced_ofSequence hfields ..
  | choice alternatives ih =>
    intro rules hinside c found h
    obtain ⟨m, hm, hattempt⟩ := attempt_choice_eq_success h
    exact ih m hm rules (hinside.below fun part hpart => .choice hm hpart) c found hattempt
  | optional inner pulledUp ih =>
    intro rules hinside c found h
    obtain ⟨m, hattempt, ⟨_, rfl⟩ | ⟨field, rfl, rfl⟩⟩ := attempt_optional_eq_success h
    · exact ih rules (hinside.below fun part hpart => .optional hpart) c _ hattempt
    · have hinner := ih rules (hinside.below fun part hpart => .optional hpart) c m hattempt
      exact hinner.pullUp ⟨inner, hinside.parts _ (.self _)⟩
  | repetition element separator least skipsBlanks ihe _ =>
    intro rules hinside c found h
    rw [attempt_repetition] at h
    obtain ⟨ms, last, hrounds, _, rfl⟩ := attemptRepetition_eq_success_iff.1 h
    refine Match.traced_ofElements (fun m hm => ?_) ..
    obtain ⟨place, hattempt⟩ := hrounds.exists_attempt m hm
    exact ihe rules (hinside.below fun part hpart => .element hpart) place m hattempt
  | named name inner ih =>
    intro rules hinside c found h
    obtain ⟨m, hattempt, rfl⟩ := attempt_named_eq_success h
    have hinner := ih rules (hinside.below fun part hpart => .named hpart) c m hattempt
    exact hinner.withName name
  | guarded inner test ih =>
    intro rules hinside c found h
    obtain ⟨hattempt, _⟩ := attempt_guarded_eq_success h
    exact ih rules (hinside.below fun part hpart => .guarded hpart) c found hattempt
  | reference index name =>
    intro rules hinside c found h
    obtain ⟨definition, hrule, hattempt⟩ := attempt_reference_eq_success h
    exact hcall rules definition ⟨hinside.rules _ hrule, hinside.rules⟩ c found hattempt
  | closed inner own ih _ =>
    intro rules hinside c found h
    rw [attempt] at h
    refine ih own ⟨fun part hpart => hinside.parts part (.closed hpart), ?_⟩ c found h
    exact fun rule hrule part hpart => hinside.parts part (.rule hrule hpart)

theorem follow_traces (hbuilt : WellBuilt among) (admits : Admission) (depth : Nat) :
    ∀ own definition, Inside among own definition →
      Attempt.Traces among (follow admits depth own definition) := by
  induction depth with
  | zero =>
    intro own definition _ c found h
    cases h
  | succ depth ih =>
    intro own definition hinside c found h
    rw [follow, matchWith_eq_attempt] at h
    exact attempt_traces hbuilt (follow_stands admits depth) ih definition own hinside c found h

/-- The value of a match is computed by a step only if it is pulled up, and otherwise binds step
names only. -/
theorem matchIn_traced (hbuilt : WellBuilt among) {rules : Rules} {m : Matcher}
    (hinside : Inside among rules m) {c : Cursor} {found : Match}
    (h : m.matchIn rules c = some (.success found)) : found.Traced among := by
  rw [matchIn, matchWith_eq_attempt] at h
  exact attempt_traces hbuilt (follow_stands _ _) (follow_traces hbuilt _ _) m rules hinside c
    found h

end Matcher

end Excerpt
