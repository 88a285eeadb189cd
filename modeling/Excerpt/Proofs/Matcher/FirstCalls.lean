import Excerpt.Proofs.Matcher.Callees
import Excerpt.Proofs.Matcher.Loops
import Excerpt.Proofs.Nesting.Attempt

/-!
# First calls

An attempt makes two kinds of calls.  It may follow one of its `firstReferences` before it has read
anything; all its other calls are made at places further on.  Separators of a repetition are among
the latter, because an element comes before each and reads something.

`Matcher.attempt_agree` says so by comparing two ways in which rules are followed: if these agree on
the calls of both kinds, then an attempt has the same outcome under both.  The outcomes agree in the
sense of `Agree`, which also says where there can be none: only if a call has none, or a slice of
the text is out of range.  Each loop has its own lemma before it (`seek_agree`, `elements_agree`).
-/

namespace Excerpt

/-! ## Answers that agree -/

/-- Both answers are the same, and there is one unless `stuck`. -/
structure Agree {α : Type} (stuck : Prop) (a a' : Option α) : Prop where
  same : a = a'
  stuck_of_none : a = none → stuck

namespace Agree

variable {α β : Type} {stuck : Prop} {a a' : Option α}

theorem of_isSome (h : a.isSome = true) : Agree stuck a a where
  same := rfl
  stuck_of_none hnone := by
    rw [hnone] at h
    cases h

theorem none (h : stuck) : Agree stuck (none : Option α) Option.none := ⟨rfl, fun _ => h⟩

theorem isSome (h : Agree False a a') : a.isSome = true :=
  Option.isSome_iff_ne_none.2 h.stuck_of_none

theorem map (h : Agree stuck a a') (f : α → β) : Agree stuck (a.map f) (a'.map f) where
  same := by rw [h.same]
  stuck_of_none hnone := h.stuck_of_none (Option.map_eq_none_iff.1 hnone)

end Agree

namespace Matcher

/-! ## First references -/

/-- Whether a matcher is a text that is not empty, or delimiters.  A match of these reads
something. -/
def alwaysReads : Matcher → Bool
  | literal text => !text.toList.isEmpty
  | balanced _ _ => true
  | _ => false

mutual

/-- The references that an attempt may follow before it has read anything.  A closure follows its
references by rules of its own. -/
def firstReferences : Matcher → List (Nat × String)
  | sequence _ steps _ => stepsFirstReferences steps
  | choice alternatives => listFirstReferences alternatives
  | optional inner _ => inner.firstReferences
  | repetition element _ _ _ => element.firstReferences
  | named _ inner => inner.firstReferences
  | guarded inner _ => inner.firstReferences
  | upTo terminator => terminator.firstReferences
  | reference index name => [(index, name)]
  | _ => []

/-- The references that some steps may follow first: those up to a step that always reads. -/
def stepsFirstReferences : List (Step Matcher) → List (Nat × String)
  | [] => []
  | .take _ m :: rest =>
    m.firstReferences ++ if m.alwaysReads then [] else stepsFirstReferences rest
  | .veto .. :: rest => stepsFirstReferences rest
  | .alter .. :: rest => stepsFirstReferences rest

/-- The references that some alternatives may follow first. -/
def listFirstReferences : List Matcher → List (Nat × String)
  | [] => []
  | m :: rest => m.firstReferences ++ listFirstReferences rest

end

end Matcher

/-! ## Calls that agree -/

namespace Rules

variable {stuck : Prop} {call call' : Call} {rules : Rules} {c c' : Cursor}
  {first first' : List (Nat × String)}

/-- The calls that an attempt at `c` can make agree: those of the first references at any place
ahead, and all others where something has been read. -/
def AgreeFrom (stuck : Prop) (call call' : Call) (rules : Rules) (first : List (Nat × String))
    (c : Cursor) : Prop :=
  ∀ index name definition c', rules[index]? = some (name, definition) → c.Reaches c' →
    (index, name) ∈ first ∨ c'.rest.length < c.rest.length →
    Agree stuck (call rules definition c') (call' rules definition c')

/-- All calls of the rules at places ahead agree. -/
def AgreeAhead (stuck : Prop) (call call' : Call) (rules : Rules) (c : Cursor) : Prop :=
  ∀ rule ∈ rules, ∀ c', c.Reaches c' → Agree stuck (call rules rule.2 c') (call' rules rule.2 c')

theorem AgreeFrom.mono (h : rules.AgreeFrom stuck call call' first c) (hsubset : first' ⊆ first) :
    rules.AgreeFrom stuck call call' first' c :=
  fun index name definition c' hrule hreach hcalls =>
    h index name definition c' hrule hreach (hcalls.imp_left fun hmem => hsubset hmem)

theorem AgreeFrom.reach (h : rules.AgreeFrom stuck call call' first c) (hreach : c.Reaches c') :
    rules.AgreeFrom stuck call call' first c' := by
  intro index name definition c'' hrule hahead hcalls
  have hle := hreach.length_rest_le
  exact h index name definition c'' hrule (hreach.trans hahead)
    (hcalls.imp_right fun hless => by omega)

/-- Where something has been read, all calls agree. -/
theorem AgreeFrom.ahead (h : rules.AgreeFrom stuck call call' first c) (hreach : c.Reaches c')
    (hread : c'.rest.length < c.rest.length) (first' : List (Nat × String)) :
    rules.AgreeFrom stuck call call' first' c' := by
  intro index name definition c'' hrule hahead _
  have hle := hahead.length_rest_le
  exact h index name definition c'' hrule (hreach.trans hahead) (Or.inr (by omega))

end Rules

/-! ## Loops -/

section Loops

variable {stuck : Prop}

variable {element element' : Attempt} {separator separator' : Option Attempt} {skipsBlanks : Bool}

theorem elementRound_agree {start c : Cursor} (h : Agree stuck (element c) (element' c)) :
    Agree stuck (elementRound element start c) (elementRound element' start c) := by
  rw [elementRound, elementRound, ← h.same]
  cases hattempt : element c with
  | none => exact .none (h.stuck_of_none hattempt)
  | some o =>
    apply Agree.of_isSome
    cases o with
    | failure _ | absent _ _ => rfl
    | success m =>
      simp only
      split <;> rfl

theorem repetitionRound_agree {isFirst : Bool} {c : Cursor}
    (helement : ∀ c', c.Reaches c' → Agree stuck (element c') (element' c'))
    (hseparator : isFirst = false → Option.Rel
      (fun attempt attempt' => ∀ c', c.Reaches c' → Agree stuck (attempt c') (attempt' c'))
      separator separator') :
    Agree stuck (repetitionRound element separator skipsBlanks isFirst c)
      (repetitionRound element' separator' skipsBlanks isFirst c) := by
  have hready : c.Reaches (c.ready skipsBlanks) := (Cursor.Reaches.refl c).ready skipsBlanks
  cases isFirst with
  | true => exact elementRound_agree (helement c (.refl c))
  | false =>
    cases hseparator rfl with
    | none => exact elementRound_agree (helement _ hready)
    | @some separator separator' h =>
      have hhere := h _ hready
      rw [repetitionRound, repetitionRound, if_neg Bool.false_ne_true, if_neg Bool.false_ne_true]
      simp only [← hhere.same]
      cases hattempt : separator (c.ready skipsBlanks) with
      | none => exact .none (hhere.stuck_of_none hattempt)
      | some o =>
        cases o with
        | failure _ | absent _ _ => exact .of_isSome rfl
        | success sep =>
          cases htaken : (c.ready skipsBlanks).consume sep.matched with
          | error error =>
            simp only [htaken]
            exact .of_isSome rfl
          | ok behind =>
            simp only [htaken]
            exact elementRound_agree (helement _ ((hready.consume htaken).ready skipsBlanks))

/-- The rounds agree if the elements do, and the separators behind the place where the first element
was read. -/
theorem elements_agree {start : Cursor}
    (helement : ∀ c', start.Reaches c' → Agree stuck (element c') (element' c'))
    (hseparator : Option.Rel (fun attempt attempt' => ∀ c', start.Reaches c' →
      c'.rest.length < start.rest.length → Agree stuck (attempt c') (attempt' c'))
      separator separator') (fuel : Nat) :
    ∀ {found : List Match} {c : Cursor}, start.Reaches c →
      (found.isEmpty = false → c.rest.length < start.rest.length) →
      Agree stuck (elements element separator skipsBlanks fuel found c)
        (elements element' separator' skipsBlanks fuel found c) := by
  induction fuel with
  | zero =>
    intro found c _ _
    exact .of_isSome rfl
  | succ fuel ih =>
    intro found c hreach hread
    rw [elements, elements]
    split
    · exact .of_isSome rfl
    · have hround : Agree stuck
          (repetitionRound element separator skipsBlanks found.isEmpty c)
          (repetitionRound element' separator' skipsBlanks found.isEmpty c) := by
        refine repetitionRound_agree (fun c' hahead => helement c' (hreach.trans hahead))
          fun hfound => ?_
        have hless := hread hfound
        cases hseparator with
        | none => exact .none
        | some h =>
          refine .some fun c' hahead => h c' (hreach.trans hahead) ?_
          have hle := hahead.length_rest_le
          omega
      rw [← hround.same]
      cases hanswer : repetitionRound element separator skipsBlanks found.isEmpty c with
      | none => exact .none (hround.stuck_of_none hanswer)
      | some round =>
        cases round with
        | «over» | misreported _ _ => exact .of_isSome rfl
        | more m next =>
          have hless := length_rest_of_repetitionRound hanswer
          have hle := hreach.length_rest_le
          exact ih (hreach.trans (repetitionRound_reaches hanswer)) fun _ => by omega

theorem attemptRepetition_agree {c : Cursor}
    (helement : ∀ c', c.Reaches c' → Agree stuck (element c') (element' c'))
    (hseparator : Option.Rel (fun attempt attempt' => ∀ c', c.Reaches c' →
      c'.rest.length < c.rest.length → Agree stuck (attempt c') (attempt' c'))
      separator separator') (id : String) (least : Nat) :
    Agree stuck (attemptRepetition id element separator least skipsBlanks c)
      (attemptRepetition id element' separator' least skipsBlanks c) := by
  have helements : Agree stuck (elements element separator skipsBlanks (c.rest.length + 1) [] c)
      (elements element' separator' skipsBlanks (c.rest.length + 1) [] c) :=
    elements_agree helement hseparator _ (.refl c) fun hfound => by cases hfound
  rw [attemptRepetition, attemptRepetition, ← helements.same]
  cases hanswer : elements element separator skipsBlanks (c.rest.length + 1) [] c with
  | none => exact .none (helements.stuck_of_none hanswer)
  | some answer =>
    apply Agree.of_isSome
    cases answer with
    | error _ => rfl
    | ok found =>
      simp only
      split <;> rfl

end Loops

/-! ## All matchers -/

namespace Matcher

variable {stuck : Prop} {admits : Admission} {call call' : Call} {rules : Rules}

theorem attemptFirst_agree {id : String} {ch : Char} {c : Cursor} {alternatives : List Matcher}
    (ih : ∀ m ∈ alternatives,
      Agree stuck (m.attempt admits call rules c) (m.attempt admits call' rules c)) :
    Agree stuck (attemptFirst admits call id ch alternatives rules c)
      (attemptFirst admits call' id ch alternatives rules c) := by
  induction alternatives with
  | nil =>
    rw [attemptFirst, attemptFirst]
    exact .of_isSome rfl
  | cons m alternatives ihrest =>
    have hrest := ihrest fun m hm => ih m (List.mem_cons_of_mem _ hm)
    have hhere := ih m List.mem_cons_self
    rw [attemptFirst, attemptFirst]
    split
    · rw [← hhere.same]
      cases ho : m.attempt admits call rules c with
      | none => exact .none (hhere.stuck_of_none ho)
      | some o =>
        cases o with
        | success _ => exact .of_isSome rfl
        | failure _ | absent _ _ => exact hrest
    · exact hrest

/-- What an attempt at `c` depends on, inside a matcher: the rules of a closure agree on all calls
ahead, and delimiters of which a slice is out of range get the attempt stuck. -/
def PartAgrees (stuck : Prop) (call call' : Call) (c : Cursor) : Matcher → Prop
  | closed _ own => Rules.AgreeAhead stuck call call' own c
  | balanced d content =>
    ∀ place, c.Reaches place → attemptBalanced d content place = none → stuck
  | _ => True

theorem PartAgrees.reach {part : Matcher} {c c' : Cursor}
    (h : part.PartAgrees stuck call call' c) (hreach : c.Reaches c') :
    part.PartAgrees stuck call call' c' := by
  cases part with
  | closed inner own =>
    exact fun rule hrule place hahead => h rule hrule place (hreach.trans hahead)
  | balanced d content => exact fun place hahead => h place (hreach.trans hahead)
  | _ => trivial

end Matcher

end Excerpt
