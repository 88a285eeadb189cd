import Excerpt.Matcher.Build

/-!
# Matchers that were built

What the checks of a construction leave behind.  `sequence?_eq_ok_iff` : a sequence is built
exactly if its steps have valid names and the names differ.
-/

namespace Excerpt

/-- Step names pass their checks if each is valid and they differ from one another and from those
before. -/
theorem validateStepNames_eq_ok_iff {owner : String} {seen names : List String} :
    validateStepNames owner seen names = .ok () ↔
      (∀ name ∈ names, validateStepName name = .ok ()) ∧ names.Nodup ∧
        ∀ name ∈ names, name ∉ seen := by
  induction names generalizing seen with
  | nil => simp [validateStepNames]
  | cons name rest ih =>
    rw [validateStepNames]
    cases hvalid : validateStepName name with
    | error error => simp [hvalid]
    | ok =>
      by_cases hseen : name ∈ seen
      · simp [hseen]
      · have hfresh : (∀ name' ∈ rest, name' ∉ name :: seen) ↔
            name ∉ rest ∧ ∀ name' ∈ rest, name' ∉ seen := by
          simp only [List.mem_cons, not_or]
          constructor
          · exact fun h => ⟨fun hmem => (h name hmem).1 rfl, fun name' hmem => (h name' hmem).2⟩
          · rintro ⟨hname, h⟩ name' hmem
            exact ⟨fun heq => hname (heq ▸ hmem), h name' hmem⟩
        simp only [List.contains_iff_mem, hseen, if_false, ih, hfresh, List.forall_mem_cons,
          List.nodup_cons, hvalid, true_and, not_false_eq_true]
        refine and_congr_right fun _ => ?_
        rw [and_assoc]
        exact and_left_comm

/-- A sequence whose step names pass their checks is built. -/
theorem Matcher.sequence?_of_valid {id : Option String} {steps : List (Step Matcher)}
    {config : Config}
    (h : validateStepNames (id.getD "sequence") [] (steps.map Step.name) = .ok ()) :
    Matcher.sequence? id steps config =
      .ok (.sequence (id.getD (defaultSequenceId (steps.map Step.name))) steps config) := by
  rw [Matcher.sequence?]
  simp only [h]

/-- A sequence is built exactly if its steps have valid names that differ. -/
theorem Matcher.sequence?_eq_ok_iff {id : Option String} {steps : List (Step Matcher)}
    {config : Config} {m : Matcher} :
    Matcher.sequence? id steps config = .ok m ↔
      (∀ name ∈ steps.map Step.name, validateStepName name = .ok ()) ∧
        (steps.map Step.name).Nodup ∧
        m = .sequence (id.getD (defaultSequenceId (steps.map Step.name))) steps config := by
  have hchecks : validateStepNames (id.getD "sequence") [] (steps.map Step.name) = .ok () ↔
      (∀ name ∈ steps.map Step.name, validateStepName name = .ok ()) ∧
        (steps.map Step.name).Nodup := by
    simp [validateStepNames_eq_ok_iff]
  constructor
  · intro h
    cases hvalid : validateStepNames (id.getD "sequence") [] (steps.map Step.name) with
    | error error =>
      rw [Matcher.sequence?] at h
      simp only [hvalid] at h
      cases h
    | ok =>
      rw [sequence?_of_valid hvalid] at h
      cases h
      obtain ⟨hnames, hnodup⟩ := hchecks.1 hvalid
      exact ⟨hnames, hnodup, rfl⟩
  · rintro ⟨hnames, hnodup, rfl⟩
    exact sequence?_of_valid (hchecks.2 ⟨hnames, hnodup⟩)

/-- A sequence that was built has its steps under valid names that differ. -/
theorem Matcher.sequence?_eq_ok {id : Option String} {steps : List (Step Matcher)} {config : Config}
    {m : Matcher} (h : Matcher.sequence? id steps config = .ok m) :
    (∃ id, m = .sequence id steps config) ∧ (steps.map Step.name).Nodup ∧
      ∀ step ∈ steps, validateStepName step.name = .ok () := by
  obtain ⟨hnames, hnodup, rfl⟩ := sequence?_eq_ok_iff.1 h
  exact ⟨⟨_, rfl⟩, hnodup, fun step hstep => hnames _ (List.mem_map_of_mem hstep)⟩

end Excerpt
