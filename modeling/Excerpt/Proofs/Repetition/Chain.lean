import Excerpt.Proofs.Matcher.LeftRecursion
import Excerpt.Proofs.Matcher.Standing

/-!
# The chain of a repetition

A repetition takes as many elements as there are, one behind another, and only what is followed by
an element: a separator or white space behind the last element is left alone.

* `Links` : elements one behind another, and the place behind the last of them.
* `Stops` : why there is no further element behind a place.
* `Chain` : the elements up to a place where they stop.  This says what a repetition finds without
  its loop.
* `chain_iff_rounds` : the rounds of the loop find the chain.
* `greedy_chain` : the outcomes of a repetition, read off its chain.
-/

namespace Excerpt

variable {element : Attempt} {separator : Option Attempt} {skipsBlanks : Bool}
  {start c place next last : Cursor} {m : Match} {ms : List Match} {isFirst : Bool}

/-! ## Links -/

/-- Elements one behind another from `start` on, and the place behind the last one.  The first
element is matched at `start`; each further one where white space and the separator lead from the
end of the one before, and it ends at another place than that one. -/
inductive Links (element : Attempt) (separator : Option Attempt) (skipsBlanks : Bool)
    (start : Cursor) : List Match → Cursor → Prop
  | nil : Links element separator skipsBlanks start [] start
  | concat {ms : List Match} {m : Match} {c place next : Cursor}
    (hlinks : Links element separator skipsBlanks start ms c) (hmore : c.rest ≠ [])
    (hplace : ElementPlace separator skipsBlanks ms.isEmpty c place)
    (hattempt : element place = some (.success m)) (hmoves : place.Moves m.matched next)
    (hmoved : next ≠ c) : Links element separator skipsBlanks start (ms ++ [m]) next

/-- Why there is no further element behind a place. -/
inductive Stops (element : Attempt) (separator : Option Attempt) (skipsBlanks : Bool) :
    Bool → Cursor → Prop
  /-- Nothing is left to read. -/
  | finished {isFirst : Bool} {c : Cursor} (hend : c.rest = []) :
    Stops element separator skipsBlanks isFirst c
  /-- The separator is not matched. -/
  | unseparated {c : Cursor} {attempt : Attempt} {o : Outcome} (hsome : separator = some attempt)
    (hattempt : attempt (c.ready skipsBlanks) = some o) (hnot : o.isMatch = false) :
    Stops element separator skipsBlanks false c
  /-- The element is not matched. -/
  | missing {isFirst : Bool} {c place : Cursor} {o : Outcome}
    (hplace : ElementPlace separator skipsBlanks isFirst c place)
    (hattempt : element place = some o) (hnot : o.isMatch = false) :
    Stops element separator skipsBlanks isFirst c
  /-- The element ends where the one before did. -/
  | stays {isFirst : Bool} {c place : Cursor} {m : Match}
    (hplace : ElementPlace separator skipsBlanks isFirst c place)
    (hattempt : element place = some (.success m)) (hmoves : place.Moves m.matched c) :
    Stops element separator skipsBlanks isFirst c

/-- All elements from `start` on, up to a place where they stop. -/
structure Chain (element : Attempt) (separator : Option Attempt) (skipsBlanks : Bool)
    (start : Cursor) (ms : List Match) (last : Cursor) : Prop where
  links : Links element separator skipsBlanks start ms last
  stops : Stops element separator skipsBlanks ms.isEmpty last

namespace Links

theorem reaches (h : Links element separator skipsBlanks start ms c) : start.Reaches c := by
  induction h with
  | nil => exact .refl start
  | concat _ _ hplace _ hmoves _ ih => exact (ih.trans hplace.reaches).trans ⟨_, hmoves⟩

/-- The place behind the last element is where it ends. -/
theorem offset_eq_endOffset (helement : element.Stands)
    (h : Links element separator skipsBlanks start ms c) (hlast : ms.getLast? = some m) :
    c.offset = m.endOffset := by
  cases h with
  | nil => cases hlast
  | @concat ms m' c' place next _ _ _ hattempt hmoves _ =>
    rw [List.getLast?_append, List.getLast?_singleton, Option.some_or] at hlast
    have hm : m' = m := Option.some.inj hlast
    have hoffset : m'.offset = place.offset := (helement place _ hattempt).1
    rw [hmoves.offset_eq, Match.endOffset, ← hm, hoffset]

/-- Without elements nothing has been read. -/
theorem eq_of_nil (h : Links element separator skipsBlanks start [] c) : c = start := by
  generalize hms : ([] : List Match) = ms at h
  cases h with
  | nil => rfl
  | concat => simp at hms

end Links

/-! ## One round -/

/-- A round finds nothing more exactly if its element is not matched or does not move on. -/
theorem elementRound_eq_over_iff (hahead : start.Reaches place) :
    elementRound element start place = some .over ↔
      (∃ o, element place = some o ∧ o.isMatch = false) ∨
        ∃ m, element place = some (.success m) ∧ place.Moves m.matched start := by
  rw [elementRound]
  cases hattempt : element place with
  | none => simp
  | some o =>
    cases o with
    | failure _ | absent _ _ => simp [Outcome.isMatch]
    | success m =>
      cases htaken : place.consume m.matched with
      | error error =>
        have hnot : ¬ place.Moves m.matched start := by
          rw [← Cursor.consume_eq_ok_iff, htaken]
          simp
        simp [htaken, hnot, Outcome.isMatch]
      | ok next =>
        have hmoves := Cursor.consume_eq_ok_iff.1 htaken
        have hnext : start.Reaches next := hahead.trans ⟨_, hmoves⟩
        have hsame : next.offset = start.offset ↔ place.Moves m.matched start :=
          ⟨fun hsame => hnext.eq_of_offset_eq hsame ▸ hmoves,
            fun hstart => congrArg Cursor.offset (hmoves.eq hstart)⟩
        by_cases hoffset : next.offset = start.offset
        · simp [htaken, hoffset, hsame.1 hoffset]
        · simp [htaken, hoffset, mt hsame.2 hoffset, Outcome.isMatch]

/-- Where the element of a round is tried, it says whether the elements stop. -/
theorem stops_iff_of_place (hplace : ElementPlace separator skipsBlanks isFirst c place)
    (hmore : c.rest ≠ []) :
    Stops element separator skipsBlanks isFirst c ↔
      elementRound element c place = some .over := by
  rw [elementRound_eq_over_iff hplace.reaches]
  constructor
  · intro h
    cases h with
    | finished hend => exact absurd hend hmore
    | unseparated hsome hattempt hnot =>
      cases hplace with
      | adjoining _ hnone =>
        rw [hnone] at hsome
        cases hsome
      | separated _ hsome' hattempt' =>
        rw [hsome] at hsome'
        cases hsome'
        rw [hattempt] at hattempt'
        cases hattempt'
        cases hnot
    | missing hplace' hattempt hnot =>
      cases hplace.eq hplace'
      exact Or.inl ⟨_, hattempt, hnot⟩
    | stays hplace' hattempt hmoves =>
      cases hplace.eq hplace'
      exact Or.inr ⟨_, hattempt, hmoves⟩
  · rintro (⟨o, hattempt, hnot⟩ | ⟨m, hattempt, hmoves⟩)
    · exact .missing hplace hattempt hnot
    · exact .stays hplace hattempt hmoves

/-- A round before the end of the text finds nothing more exactly if the elements stop there. -/
theorem repetitionRound_eq_over_iff (hmore : c.rest ≠ []) :
    repetitionRound element separator skipsBlanks isFirst c = some .over ↔
      Stops element separator skipsBlanks isFirst c := by
  by_cases hexists : ∃ place, ElementPlace separator skipsBlanks isFirst c place
  · obtain ⟨place, hplace⟩ := hexists
    rw [stops_iff_of_place hplace hmore, repetitionRound_eq_elementRound hplace]
  · -- Without such a place there is a separator, and it is not matched.
    cases isFirst with
    | true => exact absurd ⟨c, .first c⟩ hexists
    | false =>
      cases separator with
      | none => exact absurd ⟨_, .adjoining c rfl⟩ hexists
      | some attempt =>
        have hstops : Stops element (some attempt) skipsBlanks false c ↔
            ∃ o, attempt (c.ready skipsBlanks) = some o ∧ o.isMatch = false := by
          constructor
          · intro h
            cases h with
            | finished hend => exact absurd hend hmore
            | unseparated hsome hattempt hnot =>
              cases hsome
              exact ⟨_, hattempt, hnot⟩
            | missing hplace => exact absurd ⟨_, hplace⟩ hexists
            | stays hplace => exact absurd ⟨_, hplace⟩ hexists
          · rintro ⟨o, hattempt, hnot⟩
            exact .unseparated rfl hattempt hnot
        rw [hstops, repetitionRound, if_neg Bool.false_ne_true]
        cases hattempt : attempt (c.ready skipsBlanks) with
        | none => simp [hattempt]
        | some o =>
          cases o with
          | failure _ | absent _ _ => simp [hattempt, Outcome.isMatch]
          | success sep =>
            cases htaken : (c.ready skipsBlanks).consume sep.matched with
            | error error => simp [hattempt, htaken, Outcome.isMatch]
            | ok behind =>
              have hmoves := Cursor.consume_eq_ok_iff.1 htaken
              exact absurd ⟨_, .separated c rfl hattempt hmoves⟩ hexists

/-! ## All rounds -/

/-- Rounds behind some links find the chain. -/
theorem chain_of_rounds (h : Rounds element separator skipsBlanks isFirst c ms last) :
    ∀ {found : List Match}, Links element separator skipsBlanks start found c →
      found.isEmpty = isFirst → Chain element separator skipsBlanks start (found ++ ms) last := by
  induction h with
  | finished hend =>
    intro found hlinks hfirst
    rw [List.append_nil]
    exact ⟨hlinks, .finished hend⟩
  | last hmore hround =>
    intro found hlinks hfirst
    rw [List.append_nil]
    exact ⟨hlinks, hfirst ▸ (repetitionRound_eq_over_iff hmore).1 hround⟩
  | @more isFirst c next last m ms hmore hround _ ih =>
    intro found hlinks hfirst
    obtain ⟨place, hplace, hattempt, hmoves, hmoved⟩ := repetitionRound_eq_more hround
    have hnext : Links element separator skipsBlanks start (found ++ [m]) next :=
      .concat hlinks hmore (hfirst ▸ hplace) hattempt hmoves fun hsame => hmoved (by rw [hsame])
    have hchain := ih hnext (by simp)
    rwa [List.append_assoc, List.singleton_append] at hchain

/-- Links are gone through by rounds. -/
theorem Links.rounds {found : List Match}
    (h : Links element separator skipsBlanks start found c) :
    ∀ {ms : List Match} {last : Cursor},
      Rounds element separator skipsBlanks found.isEmpty c ms last →
      Rounds element separator skipsBlanks true start (found ++ ms) last := by
  induction h with
  | nil => exact fun hrounds => hrounds
  | @concat found m c place next hlinks hmore hplace hattempt hmoves hmoved ih =>
    intro ms last hrounds
    have hnext : c.Reaches next := hplace.reaches.trans ⟨_, hmoves⟩
    have hround := repetitionRound_of_place hplace hattempt hmoves
      (mt hnext.eq_of_offset_eq hmoved)
    have hempty : (found ++ [m]).isEmpty = false := by simp
    rw [hempty] at hrounds
    rw [List.append_assoc, List.singleton_append]
    exact ih (.more hmore hround hrounds)

/-- The rounds of a repetition find its chain. -/
theorem chain_iff_rounds :
    Chain element separator skipsBlanks start ms last ↔
      Rounds element separator skipsBlanks true start ms last := by
  constructor
  · rintro ⟨hlinks, hstops⟩
    have hend : Rounds element separator skipsBlanks ms.isEmpty last [] last := by
      by_cases hrest : last.rest = []
      · exact .finished hrest
      · exact .last hrest ((repetitionRound_eq_over_iff hrest).2 hstops)
    have hrounds := hlinks.rounds hend
    rwa [List.append_nil] at hrounds
  · intro h
    exact chain_of_rounds h .nil rfl

/-- There is one chain from a place on. -/
theorem Chain.eq {ms' : List Match} {last' : Cursor}
    (h : Chain element separator skipsBlanks start ms last)
    (h' : Chain element separator skipsBlanks start ms' last') : ms' = ms ∧ last' = last := by
  have hfound := elements_eq_ok_iff_rounds.2 (chain_iff_rounds.1 h)
  have hfound' := elements_eq_ok_iff_rounds.2 (chain_iff_rounds.1 h')
  rw [hfound] at hfound'
  cases hfound'
  exact ⟨rfl, rfl⟩

/-! ## Outcomes -/

/-- A repetition has the outcome of its chain. -/
theorem attemptRepetition_eq_some_iff (helement : element.Stands)
    (hseparator : ∀ attempt, separator = some attempt → attempt.Stands) {id : String}
    {least : Nat} {o : Outcome} :
    attemptRepetition id element separator least skipsBlanks start = some o ↔
      ∃ ms last, Chain element separator skipsBlanks start ms last ∧
        o = repetitionOutcome id least start ms last := by
  constructor
  · intro h
    cases hfound : elements element separator skipsBlanks (start.rest.length + 1) [] start with
    | none =>
      rw [attemptRepetition, hfound] at h
      cases h
    | some r =>
      obtain ⟨ms, last, rfl, _⟩ := elements_eq_ok helement hseparator _ hfound
      have hrounds := elements_eq_ok_iff_rounds.1 hfound
      rw [attemptRepetition_of_rounds hrounds] at h
      exact ⟨ms, last, chain_iff_rounds.2 hrounds, (Option.some.inj h).symm⟩
  · rintro ⟨ms, last, hchain, rfl⟩
    exact attemptRepetition_of_rounds (chain_iff_rounds.1 hchain) id least

namespace Matcher

theorem matchIn_repetition (rules : Rules) (element : Matcher) (separator : Option Matcher)
    (least : Nat) (skipsBlanks : Bool) (c : Cursor) :
    (repetition element separator least skipsBlanks).matchIn rules c =
      attemptRepetition (repetition element separator least skipsBlanks).id
        (element.matchIn rules) (separator.map fun m => m.matchIn rules) least skipsBlanks c := by
  have hsame : ∀ m : Matcher, m.matchIn rules =
      m.attempt canStartWith (fun rules m c => m.matchIn rules c) rules := by
    intro m
    funext c
    exact matchIn_eq_attempt rules m c
  rw [matchIn_eq_attempt, attempt_repetition]
  simp only [hsame]

/-- The elements of a repetition from a place on, under some rules. -/
abbrev ChainFrom (rules : Rules) (element : Matcher) (separator : Option Matcher)
    (skipsBlanks : Bool) : Cursor → List Match → Cursor → Prop :=
  Chain (element.matchIn rules) (separator.map fun m => m.matchIn rules) skipsBlanks

theorem matchIn_repetition_eq_some_iff {rules : Rules} {element : Matcher}
    {separator : Option Matcher} {least : Nat} {skipsBlanks : Bool} {c : Cursor} {o : Outcome} :
    (repetition element separator least skipsBlanks).matchIn rules c = some o ↔
      ∃ ms last, ChainFrom rules element separator skipsBlanks c ms last ∧
        o = repetitionOutcome (repetition element separator least skipsBlanks).id least c ms
          last := by
  rw [matchIn_repetition]
  refine attemptRepetition_eq_some_iff (matchIn_stands rules element) ?_
  rintro attempt hattempt
  obtain ⟨m, rfl, rfl⟩ := Option.map_eq_some_iff.1 hattempt
  exact matchIn_stands rules m

theorem matchIn_repetition_eq_success_iff {rules : Rules} {element : Matcher}
    {separator : Option Matcher} {least : Nat} {skipsBlanks : Bool} {c : Cursor} {m : Match} :
    (repetition element separator least skipsBlanks).matchIn rules c = some (.success m) ↔
      ∃ ms last, ChainFrom rules element separator skipsBlanks c ms last ∧ least ≤ ms.length ∧
        m = .ofElements (repetition element separator least skipsBlanks).id (c.textTo last) c.offset
          ms := by
  rw [matchIn_repetition, attemptRepetition_eq_success_iff]
  simp only [chain_iff_rounds]

/-- If the element and the separator have outcomes ahead of a place, there is a chain from it on. -/
theorem exists_chainFrom {rules : Rules} {element : Matcher} {separator : Option Matcher}
    (skipsBlanks : Bool) {c : Cursor}
    (helement : ∀ place, c.Reaches place → (element.matchIn rules place).isSome = true)
    (hseparator : ∀ m, separator = some m →
      ∀ place, c.Reaches place → (m.matchIn rules place).isSome = true) :
    ∃ ms last, ChainFrom rules element separator skipsBlanks c ms last := by
  have hsome : Agree False ((repetition element separator 0 skipsBlanks).matchIn rules c)
      ((repetition element separator 0 skipsBlanks).matchIn rules c) := by
    rw [matchIn_repetition]
    refine attemptRepetition_agree (fun place hreach => .of_isSome (helement place hreach)) ?_ _ _
    cases separator with
    | none => exact .none
    | some m => exact .some fun place hreach _ => .of_isSome (hseparator m rfl place hreach)
  obtain ⟨o, ho⟩ := Option.isSome_iff_exists.1 hsome.isSome
  obtain ⟨ms, last, hchain, _⟩ := matchIn_repetition_eq_some_iff.1 ho
  exact ⟨ms, last, hchain⟩

/-- A repetition answers its chain.  There is at most one chain from a place on, and there is one
if the repetition has an outcome or its parts have outcomes at all places ahead.  If it has enough
elements they are the children, and the text matched reaches from the place to the end of the last
one: nothing that was read behind it is kept.  If it does not, this is the failure. -/
theorem greedy_chain (rules : Rules) (element : Matcher) (separator : Option Matcher) (least : Nat)
    (skipsBlanks : Bool) (c : Cursor) :
    (∀ ms last ms' last', ChainFrom rules element separator skipsBlanks c ms last →
      ChainFrom rules element separator skipsBlanks c ms' last' → ms' = ms ∧ last' = last) ∧
    ((∀ place, c.Reaches place → (element.matchIn rules place).isSome = true) →
      (∀ m, separator = some m →
        ∀ place, c.Reaches place → (m.matchIn rules place).isSome = true) →
      ∃ ms last, ChainFrom rules element separator skipsBlanks c ms last) ∧
    (∀ o, (repetition element separator least skipsBlanks).matchIn rules c = some o →
      (∃ ms last, ChainFrom rules element separator skipsBlanks c ms last) ∧
        (least = 0 → ∃ found, o = .success found)) ∧
    ∀ ms last, ChainFrom rules element separator skipsBlanks c ms last →
      (least ≤ ms.length → ∃ found,
        (repetition element separator least skipsBlanks).matchIn rules c = some (.success found) ∧
          found.children = ms ∧ found.value = .list (ms.map Match.value) ∧
          found.offset = c.offset ∧ c.Moves found.matched last ∧
          (∀ m, ms.getLast? = some m → last.offset = m.endOffset) ∧
          (ms = [] → found.matched = [])) ∧
      (ms.length < least →
        (repetition element separator least skipsBlanks).matchIn rules c =
          some (.fail (repetition element separator least skipsBlanks).id c.offset
            (.tooFewElements least ms.length))) := by
  refine ⟨fun ms last ms' last' h h' => h.eq h', exists_chainFrom skipsBlanks, ?_, ?_⟩
  · intro o ho
    obtain ⟨ms, last, hchain, rfl⟩ := matchIn_repetition_eq_some_iff.1 ho
    refine ⟨⟨ms, last, hchain⟩, ?_⟩
    rintro rfl
    exact ⟨_, if_neg (Nat.not_lt_zero _)⟩
  · intro ms last hchain
    constructor
    · intro henough
      have hmatch := matchIn_repetition_eq_success_iff.2 ⟨ms, last, hchain, henough, rfl⟩
      have hmoves := hchain.links.reaches.moves_textTo
      refine ⟨_, hmatch, rfl, rfl, rfl, hmoves, ?_, ?_⟩
      · exact fun m => hchain.links.offset_eq_endOffset (matchIn_stands rules element)
      · rintro rfl
        rw [hchain.links.eq_of_nil]
        exact (Cursor.Moves.refl c).textTo_eq
    · intro hfew
      exact matchIn_repetition_eq_some_iff.2 ⟨ms, last, hchain, (if_pos hfew).symm⟩

/-- A separator without an element behind it is left alone. -/
example : ∃ m, (repetition (.literal "a") (some (.literal ",")) 0 true).matchIn []
    (Cursor.ofString "a, a, b") = some (.success m) ∧ m.matched = "a, a".toList :=
  ⟨_, rfl, rfl⟩

end Matcher

end Excerpt
