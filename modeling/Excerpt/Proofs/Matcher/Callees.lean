import Excerpt.Proofs.Matcher.Induction

/-!
# What an attempt can call

An attempt calls a definition when it follows a reference.  `Matcher.callees` lists the definitions
that the closures inside a matcher bring along, each with the rules that are in force in it, and
`Rules.callees` does so for rules.  `Matcher.calleesUnder` puts the two together: nothing else is
ever called by an attempt of a matcher under some rules, however long it goes on
(`calleesUnder_subset`), and there are as many as `Matcher.depthBound` counts
(`length_calleesUnder`).
-/

namespace Excerpt

mutual

/-- The definitions in the closures inside a matcher, with the rules in force in them. -/
def Matcher.callees : Matcher → List (Rules × Matcher)
  | .sequence _ steps _ => stepsCallees steps
  | .choice alternatives => listCallees alternatives
  | .optional inner _ => inner.callees
  | .repetition element none _ _ => element.callees
  | .repetition element (some separator) _ _ => element.callees ++ separator.callees
  | .named _ inner => inner.callees
  | .guarded inner _ => inner.callees
  | .upTo terminator => terminator.callees
  | .closed inner rules => inner.callees ++ definitionCallees rules rules
  | _ => []

/-- The definitions in the closures inside some steps. -/
def stepsCallees : List (Step Matcher) → List (Rules × Matcher)
  | [] => []
  | .take _ m :: rest => m.callees ++ stepsCallees rest
  | .veto .. :: rest => stepsCallees rest
  | .alter .. :: rest => stepsCallees rest

/-- The definitions in the closures inside some matchers. -/
def listCallees : List Matcher → List (Rules × Matcher)
  | [] => []
  | m :: rest => m.callees ++ listCallees rest

/-- Some of the definitions of the rules `own`, and those in the closures inside them. -/
def definitionCallees (own : Rules) : List (String × Matcher) → List (Rules × Matcher)
  | [] => []
  | (_, m) :: rest => (own, m) :: (m.callees ++ definitionCallees own rest)

end

/-- The definitions of some rules, and those in the closures inside them. -/
def Rules.callees (rules : Rules) : List (Rules × Matcher) := definitionCallees rules rules

/-- All that an attempt of a matcher under some rules can call. -/
def Matcher.calleesUnder (rules : Rules) (m : Matcher) : List (Rules × Matcher) :=
  m.callees ++ rules.callees

variable {x : Rules × Matcher}

/-- A part of a matcher calls, under the same rules, what the matcher calls. -/
theorem Matcher.calleesUnder_mono {m part : Matcher} (rules : Rules)
    (h : part.callees ⊆ m.callees) : part.calleesUnder rules ⊆ m.calleesUnder rules := by
  intro y hy
  rcases List.mem_append.1 hy with hy | hy
  · exact List.mem_append_left _ (h hy)
  · exact List.mem_append_right _ hy

/-! ## Membership -/

theorem mem_stepsCallees {steps : List (Step Matcher)} {name : String} {m : Matcher}
    (hm : .take name m ∈ steps) (hx : x ∈ m.callees) : x ∈ stepsCallees steps := by
  induction steps with
  | nil => cases hm
  | cons step steps ih =>
    rcases List.mem_cons.1 hm with rfl | hrest
    · rw [stepsCallees]
      exact List.mem_append_left _ hx
    · cases step with
      | take name' m' =>
        rw [stepsCallees]
        exact List.mem_append_right _ (ih hrest)
      | veto _ _ | alter _ _ => exact ih hrest

theorem exists_of_mem_stepsCallees {steps : List (Step Matcher)} (hx : x ∈ stepsCallees steps) :
    ∃ name m, .take name m ∈ steps ∧ x ∈ m.callees := by
  induction steps with
  | nil => cases hx
  | cons step steps ih =>
    have htail (hx : x ∈ stepsCallees steps) :
        ∃ name m, .take name m ∈ step :: steps ∧ x ∈ m.callees := by
      obtain ⟨name, m, hm, hx⟩ := ih hx
      exact ⟨name, m, List.mem_cons_of_mem _ hm, hx⟩
    cases step with
    | take name m =>
      rw [stepsCallees] at hx
      rcases List.mem_append.1 hx with hx | hx
      · exact ⟨name, m, List.mem_cons_self, hx⟩
      · exact htail hx
    | veto _ _ | alter _ _ => exact htail hx

theorem mem_listCallees_iff {ms : List Matcher} :
    x ∈ listCallees ms ↔ ∃ m ∈ ms, x ∈ m.callees := by
  induction ms with
  | nil => simp [listCallees]
  | cons m ms ih => simp [listCallees, ih]

theorem mem_definitionCallees_iff {own : Rules} {entries : List (String × Matcher)} :
    x ∈ definitionCallees own entries ↔
      ∃ rule ∈ entries, x = (own, rule.2) ∨ x ∈ rule.2.callees := by
  induction entries with
  | nil => simp [definitionCallees]
  | cons rule entries ih =>
    obtain ⟨name, m⟩ := rule
    simp [definitionCallees, ih, or_assoc]

/-- A rule can be called wherever it is in force. -/
theorem Rules.mem_callees {rules : Rules} {rule : String × Matcher} (h : rule ∈ rules) :
    (rules, rule.2) ∈ rules.callees :=
  mem_definitionCallees_iff.2 ⟨rule, h, Or.inl rfl⟩

/-- What a definition can call is among the callees of the rules that it comes from, if this holds
of the closures inside these rules. -/
theorem Rules.calleesUnder_subset_callees {rules : Rules}
    (ih : ∀ rule ∈ rules, ∀ {own : Rules} {definition : Matcher},
      (own, definition) ∈ rule.2.callees → definition.calleesUnder own ⊆ rule.2.callees)
    {own : Rules} {definition : Matcher} (h : (own, definition) ∈ rules.callees) :
    definition.calleesUnder own ⊆ rules.callees := by
  intro y hy
  obtain ⟨rule, hrule, h | h⟩ := mem_definitionCallees_iff.1 h
  · cases h
    rcases List.mem_append.1 hy with hy | hy
    · exact mem_definitionCallees_iff.2 ⟨rule, hrule, Or.inr hy⟩
    · exact hy
  · exact mem_definitionCallees_iff.2 ⟨rule, hrule, Or.inr (ih rule hrule h hy)⟩

/-- What a definition in a closure can call is in the same closure. -/
theorem Matcher.calleesUnder_subset_callees (m : Matcher) :
    ∀ {own : Rules} {definition : Matcher}, (own, definition) ∈ m.callees →
      definition.calleesUnder own ⊆ m.callees := by
  induction m using Matcher.induct with
  | sequence id steps config ih =>
    intro own definition h y hy
    rw [callees] at h ⊢
    obtain ⟨name, m, hm, h⟩ := exists_of_mem_stepsCallees h
    exact mem_stepsCallees hm (ih name m hm h hy)
  | choice alternatives ih =>
    intro own definition h y hy
    rw [callees] at h ⊢
    obtain ⟨m, hm, h⟩ := mem_listCallees_iff.1 h
    exact mem_listCallees_iff.2 ⟨m, hm, ih m hm h hy⟩
  | optional inner pulledUp ih => exact ih
  | repetition element separator least skipsBlanks ihe ihs =>
    intro own definition h y hy
    cases separator with
    | none => exact ihe h hy
    | some separator =>
      rw [callees] at h ⊢
      rcases List.mem_append.1 h with h | h
      · exact List.mem_append_left _ (ihe h hy)
      · exact List.mem_append_right _ (ihs separator rfl h hy)
  | named name inner ih => exact ih
  | guarded inner test ih => exact ih
  | upTo terminator ih => exact ih
  | closed inner rules ih ihr =>
    intro own definition h y hy
    rw [callees] at h ⊢
    rcases List.mem_append.1 h with h | h
    · exact List.mem_append_left _ (ih h hy)
    · exact List.mem_append_right _ (Rules.calleesUnder_subset_callees ihr h hy)
  | literal _ | pattern _ | remainder | balanced _ _ | reference _ _ =>
    intro own definition h
    cases h

/-- What is called calls nothing new. -/
theorem Matcher.calleesUnder_subset {rules : Rules} {m : Matcher} {own : Rules}
    {definition : Matcher} (h : (own, definition) ∈ m.calleesUnder rules) :
    definition.calleesUnder own ⊆ m.calleesUnder rules := by
  intro y hy
  rcases List.mem_append.1 h with h | h
  · exact List.mem_append_left _ (m.calleesUnder_subset_callees h hy)
  · have hrules := Rules.calleesUnder_subset_callees
      (fun rule _ => rule.2.calleesUnder_subset_callees) h
    exact List.mem_append_right _ (hrules hy)

/-! ## How many there are -/

theorem length_stepsCallees {steps : List (Step Matcher)}
    (h : ∀ name m, .take name m ∈ steps → m.callees.length = m.ruleCount) :
    (stepsCallees steps).length = stepsRuleCount steps := by
  induction steps with
  | nil => rfl
  | cons step steps ih =>
    have hrest := ih fun name m hm => h name m (List.mem_cons_of_mem _ hm)
    cases step with
    | take name m =>
      rw [stepsCallees, stepsRuleCount, List.length_append, hrest, h name m List.mem_cons_self]
    | veto _ _ | alter _ _ => exact hrest

theorem length_listCallees {ms : List Matcher}
    (h : ∀ m ∈ ms, m.callees.length = m.ruleCount) :
    (listCallees ms).length = listRuleCount ms := by
  induction ms with
  | nil => rfl
  | cons m ms ih =>
    have hrest := ih fun m hm => h m (List.mem_cons_of_mem _ hm)
    rw [listCallees, listRuleCount, List.length_append, hrest, h m List.mem_cons_self]

theorem length_definitionCallees {own : Rules} {entries : List (String × Matcher)}
    (h : ∀ rule ∈ entries, rule.2.callees.length = rule.2.ruleCount) :
    (definitionCallees own entries).length = rulesRuleCount entries := by
  induction entries with
  | nil => rfl
  | cons rule entries ih =>
    obtain ⟨name, m⟩ := rule
    have hrest := ih fun rule hrule => h rule (List.mem_cons_of_mem _ hrule)
    have hm : m.callees.length = m.ruleCount := h (name, m) List.mem_cons_self
    rw [definitionCallees, rulesRuleCount, List.length_cons, List.length_append, hrest, hm]
    omega

theorem Matcher.length_callees (m : Matcher) : m.callees.length = m.ruleCount := by
  induction m using Matcher.induct with
  | sequence id steps config ih => exact length_stepsCallees ih
  | choice alternatives ih => exact length_listCallees ih
  | optional inner pulledUp ih => exact ih
  | repetition element separator least skipsBlanks ihe ihs =>
    cases separator with
    | none => exact ihe
    | some separator => rw [callees, ruleCount, List.length_append, ihe, ihs separator rfl]
  | named name inner ih => exact ih
  | guarded inner test ih => exact ih
  | upTo terminator ih => exact ih
  | closed inner rules ih ihr =>
    rw [callees, ruleCount, List.length_append, ih, length_definitionCallees ihr]
  | literal _ | pattern _ | remainder | balanced _ _ | reference _ _ => rfl

theorem Matcher.length_calleesUnder (rules : Rules) (m : Matcher) :
    (m.calleesUnder rules).length = m.ruleCount + rulesRuleCount rules := by
  rw [calleesUnder, Rules.callees, List.length_append, length_callees,
    length_definitionCallees fun rule _ => rule.2.length_callees]

end Excerpt
