import Excerpt.Grammar
import Excerpt.Proofs.Fields
import Excerpt.Proofs.Matcher.LeftRecursion
import Excerpt.Proofs.Matcher.Steps
import Excerpt.Proofs.Scan.WholeText

/-!
# Sequences of literals

A grammar that is a sequence of literals accepts exactly the renderings of their texts
(`exists_exactMatch_literals_iff`), and extracts each text under the name of its step, structural
names apart (`fields_of_exactMatch_literals`).  The texts are tokens: a literal that began with
white space could not be told from the gap before it.
-/

namespace Excerpt

/-! ## Literal steps -/

/-- A step with a literal. -/
structure LiteralStep where
  name : String
  text : String

namespace LiteralStep

def step (s : LiteralStep) : Step Matcher := .take s.name (.literal s.text)

/-- The field that the step binds. -/
def field (s : LiteralStep) : String × Value := (s.name, .string s.text)

/-- The text as a token. -/
def token (s : LiteralStep) : Text := s.text.toList

end LiteralStep

section Attempts

variable {admits : Admission} {call : Call} {id : String} {config : Config} {start last : Cursor}
  {rules : Rules} {p : Progress} {found : Match} {steps : List LiteralStep}

/-- Literal steps match if a rendering of their texts stands at the cursor. -/
theorem exists_attemptSteps_literals (htokens : ∀ s ∈ steps, Text.IsToken s.token)
    (hreads : p.current.Reads config.skipsBlanks (steps.map LiteralStep.token) last) :
    ∃ found, attemptSteps admits call id config start (steps.map LiteralStep.step) rules p =
        some (.success found) ∧ found.matched = start.textTo last := by
  induction steps generalizing p with
  | nil =>
    rw [List.map_nil, Cursor.reads_nil_iff] at hreads
    subst hreads
    exact ⟨_, by rw [List.map_nil, attemptSteps]; rfl, rfl⟩
  | cons s steps ih =>
    have htoken := htokens s List.mem_cons_self
    rw [List.map_cons, Cursor.reads_cons_iff htoken] at hreads
    obtain ⟨next, hmoves, hreads⟩ := hreads
    obtain ⟨found, hfound, hmatched⟩ := ih (fun s hs => htokens s (List.mem_cons_of_mem _ hs))
      (p := p.behindLiteral s.name s.text (p.current.ready config.skipsBlanks) next) hreads
    exact ⟨found, (attemptSteps_literal_iff htoken.ne_nil).2 ⟨next, hmoves, hfound⟩, hmatched⟩

/-- Where literal steps match there stands a rendering of their texts, and each has bound its name
to its text. -/
theorem reads_of_attemptSteps_literals (htokens : ∀ s ∈ steps, Text.IsToken s.token)
    (hnames : (Fields.keys p.context ++ steps.map LiteralStep.name).Nodup)
    (h : attemptSteps admits call id config start (steps.map LiteralStep.step) rules p =
      some (.success found)) :
    ∃ last, p.current.Reads config.skipsBlanks (steps.map LiteralStep.token) last ∧
      found.matched = start.textTo last ∧
      found.value = .map (p.context ++ steps.map LiteralStep.field) := by
  induction steps generalizing p with
  | nil =>
    rw [List.map_nil, attemptSteps] at h
    cases h
    exact ⟨p.current, Cursor.reads_nil_iff.2 rfl, rfl, by rw [List.map_nil, List.append_nil]; rfl⟩
  | cons s steps ih =>
    have htoken := htokens s List.mem_cons_self
    obtain ⟨next, hmoves, h⟩ := (attemptSteps_literal_iff htoken.ne_nil).1 h
    -- the names differ, so the field of this step goes behind those of the steps before
    have hnew : s.name ∉ Fields.keys p.context := by
      intro hmem
      exact (List.nodup_append.1 hnames).2.2 s.name hmem s.name List.mem_cons_self rfl
    have hcontext :
        (p.behindLiteral s.name s.text (p.current.ready config.skipsBlanks) next).context =
          p.context ++ [s.field] :=
      Fields.insert_of_not_mem hnew
    obtain ⟨last, hreads, hmatched, hvalue⟩ :=
      ih (fun s hs => htokens s (List.mem_cons_of_mem _ hs)) (by
        rw [hcontext]
        simpa [Fields.keys, LiteralStep.field] using hnames) h
    refine ⟨last, (Cursor.reads_cons_iff htoken).2 ⟨next, hmoves, hreads⟩, hmatched, ?_⟩
    rw [hvalue, hcontext, List.append_assoc]
    rfl

end Attempts

/-! ## Grammars -/

theorem flattenedFields_literals (steps : List LiteralStep) :
    Value.flattenedFields (steps.map LiteralStep.field) =
      (steps.filter fun s => !isStructural s.name).map LiteralStep.field := by
  induction steps with
  | nil => rfl
  | cons s steps ih =>
    rw [List.map_cons, LiteralStep.field, Value.flattenedFields, ih, List.filter_cons]
    cases isStructural s.name <;> rfl

namespace Grammar

variable {g : Grammar} {id : String} {steps : List LiteralStep} {config : Config} {text : Text}
  {e : Extracted}

theorem attempt_literals (hmatcher : g.matcher = .sequence id (steps.map LiteralStep.step) config)
    (c : Cursor) :
    g.attempt c = attemptSteps Matcher.canStartWith Matcher.matching id config c
      (steps.map LiteralStep.step) g.rules ⟨c, [], []⟩ := by
  rw [attempt, hmatcher, Matcher.matchIn_eq_attempt, Matcher.attempt]

theorem reads_of_attempt_literals {c : Cursor} {found : Match}
    (hmatcher : g.matcher = .sequence id (steps.map LiteralStep.step) config)
    (htokens : ∀ s ∈ steps, Text.IsToken s.token) (hnames : (steps.map LiteralStep.name).Nodup)
    (hattempt : g.attempt c = some (.success found)) :
    ∃ last, c.Reads config.skipsBlanks (steps.map LiteralStep.token) last ∧
      found.matched = c.textTo last ∧ found.value = .map (steps.map LiteralStep.field) := by
  rw [attempt_literals hmatcher] at hattempt
  have hfresh : (Fields.keys ([] : Fields) ++ steps.map LiteralStep.name).Nodup := hnames
  exact reads_of_attemptSteps_literals (p := ⟨c, [], []⟩) htokens hfresh hattempt

/-- A sequence of literals accepts exactly the renderings of their texts. -/
theorem exists_exactMatch_literals_iff
    (hmatcher : g.matcher = .sequence id (steps.map LiteralStep.step) config)
    (htokens : ∀ s ∈ steps, Text.IsToken s.token) (hnames : (steps.map LiteralStep.name).Nodup)
    (hsteps : steps ≠ []) :
    (∃ e, g.exactMatch text = some (.ok e)) ↔
      Text.Renders config.skipsBlanks (steps.map LiteralStep.token) text := by
  constructor
  · rintro ⟨e, hexact⟩
    obtain ⟨m, hattempt, hmatched, _, rfl⟩ := exactMatch_eq_ok_iff.1 hexact
    obtain ⟨last, hreads, htext, _⟩ :=
      reads_of_attempt_literals hmatcher htokens hnames hattempt
    have hmoves := hreads.reaches.moves_textTo
    rw [← htext, hmatched] at hmoves
    exact Cursor.renders_iff_reads.2 ⟨last, hmoves, hreads⟩
  · intro hrenders
    obtain ⟨last, hmoves, hreads⟩ := Cursor.renders_iff_reads.1 hrenders
    obtain ⟨m, hattempt, htext⟩ : ∃ m, g.attempt (.start text) = some (.success m) ∧
        m.matched = (Cursor.start text).textTo last := by
      rw [attempt_literals hmatcher]
      exact exists_attemptSteps_literals (p := ⟨.start text, [], []⟩) htokens hreads
    have hmatched : m.matched = text := htext.trans hmoves.textTo_eq
    have hne : text ≠ [] := by
      obtain ⟨s, rest, rfl⟩ := List.exists_cons_of_ne_nil hsteps
      have hless := hreads.length_rest_lt (htokens s List.mem_cons_self)
      exact List.ne_nil_of_length_pos (Nat.lt_of_le_of_lt (Nat.zero_le _) hless)
    exact ⟨_, exactMatch_eq_ok_iff.2 ⟨m, hattempt, hmatched, hne, rfl⟩⟩

/-- The fields of an exact match are the texts under the names of their steps. -/
theorem fields_of_exactMatch_literals
    (hmatcher : g.matcher = .sequence id (steps.map LiteralStep.step) config)
    (htokens : ∀ s ∈ steps, Text.IsToken s.token) (hnames : (steps.map LiteralStep.name).Nodup)
    (hexact : g.exactMatch text = some (.ok e)) :
    e.fields = (steps.filter fun s => !isStructural s.name).map LiteralStep.field := by
  obtain ⟨m, hattempt, _, _, rfl⟩ := exactMatch_eq_ok_iff.1 hexact
  obtain ⟨_, _, _, hvalue⟩ := reads_of_attempt_literals hmatcher htokens hnames hattempt
  rw [← flattenedFields_literals]
  show (m.value.flattened.asFields?).getD [] = _
  rw [hvalue]
  rfl

end Grammar

end Excerpt
