import Excerpt.Proofs.Cursor

/-!
# The loops of matching

The search for a terminator (`seek`), the rounds of a repetition (`repetitionRound`) and the steps
of a sequence (`Progress.take`) only go forward.  `seek_cons` unfolds one step of the search;
`repetitionRound_eq_more` and `Progress.take_eq_ok` say all that a round with an element and a step
with a match do.  The lemmas in `reaches` follow: the loops answer places ahead of the one they are
given, whatever their parts do.

`Rounds` are the rounds of a repetition one after another.  Each reads some text, so the fuel of the
loop is never used up (`elements_eq_of_lt`), and the loop answers what its rounds find
(`elements_eq_ok_iff_rounds`).
-/

namespace Excerpt

/-! ## Searching -/

section Seek

variable {stops : Char → Cursor → Option Bool} {c last : Cursor}

theorem seek_nil (h : c.rest = []) : seek stops c = some c := by
  rw [seek]
  split
  · rfl
  · rename_i hcons
    rw [h] at hcons
    cases hcons

theorem seek_cons {ch : Char} {rest : Text} (h : c.rest = ch :: rest) :
    seek stops c =
      match stops ch c with
      | none => none
      | some true => some c
      | some false => seek stops c.advance := by
  rw [seek]
  split
  · rename_i hnil
    rw [h] at hnil
    cases hnil
  · rename_i hcons
    rw [h] at hcons
    cases hcons
    rfl

theorem seek_reaches (h : seek stops c = some last) : c.Reaches last := by
  induction c using Cursor.forward with
  | finished c hrest =>
    rw [seek_nil hrest] at h
    cases h
    exact .refl _
  | step c ch rest hrest ih =>
    rw [seek_cons hrest] at h
    cases hstops : stops ch c with
    | none =>
      rw [hstops] at h
      cases h
    | some stop =>
      rw [hstops] at h
      cases stop with
      | true =>
        cases h
        exact .refl _
      | false => exact (Cursor.reaches_advance c).trans (ih h)

end Seek

/-! ## Rounds -/

section Rounds

variable {element : Attempt} {separator : Option Attempt} {skipsBlanks : Bool} {m : Match}
  {start c next : Cursor}

theorem elementRound_eq_more (h : elementRound element start c = some (.more m next)) :
    element c = some (.success m) ∧ c.Moves m.matched next ∧ next.offset ≠ start.offset := by
  rw [elementRound] at h
  cases hattempt : element c with
  | none =>
    rw [hattempt] at h
    cases h
  | some o =>
    rw [hattempt] at h
    cases o with
    | failure _ | absent _ _ => cases h
    | success m' =>
      cases htaken : c.consume m'.matched with
      | error error =>
        simp only [htaken] at h
        cases h
      | ok next' =>
        simp only [htaken] at h
        by_cases hsame : next'.offset = start.offset
        · rw [if_pos hsame] at h
          cases h
        · rw [if_neg hsame] at h
          cases h
          exact ⟨rfl, Cursor.consume_eq_ok_iff.1 htaken, hsame⟩

/-- Where the element of a round is tried: at the start of the first round, and behind white space,
the separator and white space again in the others. -/
inductive ElementPlace (separator : Option Attempt) (skipsBlanks : Bool) :
    Bool → Cursor → Cursor → Prop
  | first (c : Cursor) : ElementPlace separator skipsBlanks true c c
  | adjoining (c : Cursor) (hnone : separator = none) :
    ElementPlace separator skipsBlanks false c (c.ready skipsBlanks)
  | separated (c : Cursor) {attempt : Attempt} {sep : Match} {behind : Cursor}
    (hsome : separator = some attempt)
    (hattempt : attempt (c.ready skipsBlanks) = some (.success sep))
    (hmoves : (c.ready skipsBlanks).Moves sep.matched behind) :
    ElementPlace separator skipsBlanks false c (behind.ready skipsBlanks)

theorem ElementPlace.reaches {isFirst : Bool} {place : Cursor}
    (h : ElementPlace separator skipsBlanks isFirst c place) : c.Reaches place := by
  cases h with
  | first => exact .refl _
  | adjoining => exact (Cursor.Reaches.refl c).ready skipsBlanks
  | separated _ _ _ hmoves =>
    have hready := (Cursor.Reaches.refl c).ready skipsBlanks
    exact (hready.trans ⟨_, hmoves⟩).ready skipsBlanks

/-- All that a round with an element does. -/
theorem repetitionRound_eq_more {isFirst : Bool}
    (h : repetitionRound element separator skipsBlanks isFirst c = some (.more m next)) :
    ∃ place, ElementPlace separator skipsBlanks isFirst c place ∧
      element place = some (.success m) ∧ place.Moves m.matched next ∧ next.offset ≠ c.offset := by
  cases isFirst with
  | true => exact ⟨c, .first c, elementRound_eq_more h⟩
  | false =>
    cases separator with
    | none => exact ⟨_, .adjoining c rfl, elementRound_eq_more h⟩
    | some separator =>
      rw [repetitionRound, if_neg Bool.false_ne_true] at h
      cases hattempt : separator (c.ready skipsBlanks) with
      | none =>
        simp only [hattempt] at h
        cases h
      | some o =>
        simp only [hattempt] at h
        cases o with
        | failure _ | absent _ _ => cases h
        | success sep =>
          cases htaken : (c.ready skipsBlanks).consume sep.matched with
          | error error =>
            simp only [htaken] at h
            cases h
          | ok behind =>
            simp only [htaken] at h
            have hmoves := Cursor.consume_eq_ok_iff.1 htaken
            exact ⟨_, .separated c rfl hattempt hmoves, elementRound_eq_more h⟩

/-- There is one place where the element of a round is tried. -/
theorem ElementPlace.eq {isFirst : Bool} {place place' : Cursor}
    (h : ElementPlace separator skipsBlanks isFirst c place)
    (h' : ElementPlace separator skipsBlanks isFirst c place') : place' = place := by
  cases h with
  | first =>
    cases h'
    rfl
  | adjoining _ hnone =>
    cases h' with
    | adjoining => rfl
    | separated _ hsome =>
      rw [hnone] at hsome
      cases hsome
  | separated _ hsome hattempt hmoves =>
    cases h' with
    | adjoining _ hnone =>
      rw [hnone] at hsome
      cases hsome
    | separated _ hsome' hattempt' hmoves' =>
      rw [hsome] at hsome'
      cases hsome'
      rw [hattempt] at hattempt'
      cases hattempt'
      rw [hmoves.eq hmoves']

/-- A round does what its element does at its place. -/
theorem repetitionRound_eq_elementRound {isFirst : Bool} {place : Cursor}
    (hplace : ElementPlace separator skipsBlanks isFirst c place) :
    repetitionRound element separator skipsBlanks isFirst c = elementRound element c place := by
  cases hplace with
  | first => rfl
  | adjoining _ hnone =>
    subst hnone
    rfl
  | separated _ hsome hseparator hsep =>
    subst hsome
    rw [repetitionRound, if_neg Bool.false_ne_true]
    simp only [hseparator, Cursor.consume_eq_ok_iff.2 hsep]

/-- An element that is matched at the place of its round, and behind the start of the round, makes
the round go on. -/
theorem repetitionRound_of_place {isFirst : Bool} {place : Cursor}
    (hplace : ElementPlace separator skipsBlanks isFirst c place)
    (hattempt : element place = some (.success m)) (hmoves : place.Moves m.matched next)
    (hmoved : next.offset ≠ c.offset) :
    repetitionRound element separator skipsBlanks isFirst c = some (.more m next) := by
  have htaken := Cursor.consume_eq_ok_iff.2 hmoves
  rw [repetitionRound_eq_elementRound hplace, elementRound]
  simp only [hattempt, htaken, if_neg hmoved]

theorem repetitionRound_reaches {isFirst : Bool}
    (h : repetitionRound element separator skipsBlanks isFirst c = some (.more m next)) :
    c.Reaches next := by
  obtain ⟨place, hplace, _, hmoves, _⟩ := repetitionRound_eq_more h
  exact hplace.reaches.trans ⟨_, hmoves⟩

/-- A round with an element reads some text. -/
theorem length_rest_of_repetitionRound {isFirst : Bool}
    (h : repetitionRound element separator skipsBlanks isFirst c = some (.more m next)) :
    next.rest.length < c.rest.length := by
  obtain ⟨place, hplace, _, hmatched, hmoved⟩ := repetitionRound_eq_more h
  obtain ⟨t, hmoves⟩ := hplace.reaches.trans ⟨_, hmatched⟩
  apply hmoves.length_rest_lt
  rintro rfl
  exact hmoved (congrArg Cursor.offset hmoves.eq_of_nil)

/-! ## All rounds -/

/-- The rounds of a repetition from a place on, with their elements and the place behind them. -/
inductive Rounds (element : Attempt) (separator : Option Attempt) (skipsBlanks : Bool) :
    Bool → Cursor → List Match → Cursor → Prop
  /-- Nothing is left to read. -/
  | finished {isFirst : Bool} {c : Cursor} (hend : c.rest = []) :
    Rounds element separator skipsBlanks isFirst c [] c
  /-- There are no more elements. -/
  | last {isFirst : Bool} {c : Cursor} (hmore : c.rest ≠ [])
    (hround : repetitionRound element separator skipsBlanks isFirst c = some .over) :
    Rounds element separator skipsBlanks isFirst c [] c
  /-- One more element, and the rounds behind it. -/
  | more {isFirst : Bool} {c next last : Cursor} {m : Match} {found : List Match}
    (hmore : c.rest ≠ [])
    (hround : repetitionRound element separator skipsBlanks isFirst c = some (.more m next))
    (hrounds : Rounds element separator skipsBlanks false next found last) :
    Rounds element separator skipsBlanks isFirst c (m :: found) last

theorem Rounds.reaches {isFirst : Bool} {c last : Cursor} {ms : List Match}
    (h : Rounds element separator skipsBlanks isFirst c ms last) : c.Reaches last := by
  induction h with
  | finished | last => exact .refl _
  | more _ hround _ ih => exact (repetitionRound_reaches hround).trans ih

/-- The elements of a repetition are matches of its element. -/
theorem Rounds.exists_attempt {isFirst : Bool} {c last : Cursor} {ms : List Match}
    (h : Rounds element separator skipsBlanks isFirst c ms last) :
    ∀ m ∈ ms, ∃ place, element place = some (.success m) := by
  induction h with
  | finished | last => simp
  | more _ hround _ ih =>
    intro m hm
    rcases List.mem_cons.1 hm with rfl | hm
    · obtain ⟨place, _, hattempt, _⟩ := repetitionRound_eq_more hround
      exact ⟨place, hattempt⟩
    · exact ih m hm

/-- The loop of a repetition goes through its rounds, and adds their elements to those it has. -/
theorem rounds_of_elements (fuel : Nat) : ∀ {found all : List Match} {c last : Cursor},
    c.rest.length < fuel →
      elements element separator skipsBlanks fuel found c = some (.ok (all, last)) →
      ∃ ms, all = found.reverse ++ ms ∧
        Rounds element separator skipsBlanks found.isEmpty c ms last := by
  induction fuel with
  | zero =>
    intro found all c last hfuel
    omega
  | succ fuel ih =>
    intro found all c last hfuel h
    rw [elements] at h
    split at h
    · rename_i hend
      cases h
      exact ⟨[], (List.append_nil _).symm, .finished (Cursor.exhausted_iff.1 hend)⟩
    · rename_i hmore
      replace hmore : c.rest ≠ [] := mt Cursor.exhausted_iff.2 hmore
      cases hround : repetitionRound element separator skipsBlanks found.isEmpty c with
      | none =>
        rw [hround] at h
        cases h
      | some round =>
        rw [hround] at h
        cases round with
        | misreported _ _ => cases h
        | «over» =>
          cases h
          exact ⟨[], (List.append_nil _).symm, .last hmore hround⟩
        | more m next =>
          have hless := length_rest_of_repetitionRound hround
          obtain ⟨ms, rfl, hrounds⟩ := ih (by omega) h
          exact ⟨m :: ms, by simp, .more hmore hround hrounds⟩

/-- The loop of a repetition answers what its rounds find, added to what it has. -/
theorem elements_of_rounds {isFirst : Bool} {c last : Cursor} {ms : List Match}
    (h : Rounds element separator skipsBlanks isFirst c ms last) :
    ∀ {fuel : Nat} {found : List Match}, c.rest.length < fuel → found.isEmpty = isFirst →
      elements element separator skipsBlanks fuel found c =
        some (.ok (found.reverse ++ ms, last)) := by
  induction h with
  | finished hend =>
    intro fuel found hfuel hfirst
    obtain ⟨fuel, rfl⟩ : ∃ n, fuel = n + 1 := ⟨fuel - 1, by omega⟩
    rw [elements, if_pos (Cursor.exhausted_iff.2 hend), List.append_nil]
  | last hmore hround =>
    intro fuel found hfuel hfirst
    obtain ⟨fuel, rfl⟩ : ∃ n, fuel = n + 1 := ⟨fuel - 1, by omega⟩
    rw [elements, if_neg (mt Cursor.exhausted_iff.1 hmore), hfirst, hround, List.append_nil]
  | more hmore hround _ ih =>
    intro fuel found hfuel hfirst
    obtain ⟨fuel, rfl⟩ : ∃ n, fuel = n + 1 := ⟨fuel - 1, by omega⟩
    have hless := length_rest_of_repetitionRound hround
    rw [elements, if_neg (mt Cursor.exhausted_iff.1 hmore), hfirst, hround]
    simp only
    rw [ih (by omega) rfl]
    simp

/-- A repetition finds what its rounds find. -/
theorem elements_eq_ok_iff_rounds {c last : Cursor} {ms : List Match} :
    elements element separator skipsBlanks (c.rest.length + 1) [] c = some (.ok (ms, last)) ↔
      Rounds element separator skipsBlanks true c ms last := by
  constructor
  · intro h
    obtain ⟨found, hms, hrounds⟩ := rounds_of_elements _ (Nat.lt_succ_self _) h
    rw [List.reverse_nil, List.nil_append] at hms
    exact hms ▸ hrounds
  · intro h
    exact elements_of_rounds h (Nat.lt_succ_self _) rfl

/-- The outcome of a repetition whose elements have been found. -/
def repetitionOutcome (id : String) (least : Nat) (start : Cursor) (ms : List Match)
    (last : Cursor) : Outcome :=
  if ms.length < least then .fail id start.offset (.tooFewElements least ms.length)
  else .success (.ofElements id (start.textTo last) start.offset ms)

theorem attemptRepetition_of_rounds {c last : Cursor} {ms : List Match}
    (h : Rounds element separator skipsBlanks true c ms last) (id : String) (least : Nat) :
    attemptRepetition id element separator least skipsBlanks c =
      some (repetitionOutcome id least c ms last) := by
  rw [attemptRepetition, elements_eq_ok_iff_rounds.2 h, repetitionOutcome]
  exact (apply_ite some _ _ _).symm

/-- A repetition matches exactly if its rounds find enough elements. -/
theorem attemptRepetition_eq_success_iff {id : String} {least : Nat} {c : Cursor} {m : Match} :
    attemptRepetition id element separator least skipsBlanks c = some (.success m) ↔
      ∃ ms last, Rounds element separator skipsBlanks true c ms last ∧ least ≤ ms.length ∧
        m = .ofElements id (c.textTo last) c.offset ms := by
  constructor
  · intro h
    cases hfound : elements element separator skipsBlanks (c.rest.length + 1) [] c with
    | none =>
      rw [attemptRepetition, hfound] at h
      cases h
    | some answer =>
      cases answer with
      | error error =>
        rw [attemptRepetition, hfound] at h
        cases h
      | ok answer =>
        obtain ⟨ms, last⟩ := answer
        have hrounds := elements_eq_ok_iff_rounds.1 hfound
        rw [attemptRepetition_of_rounds hrounds, repetitionOutcome] at h
        split at h
        · cases h
        · rename_i hleast
          cases h
          exact ⟨ms, last, hrounds, Nat.le_of_not_lt hleast, rfl⟩
  · rintro ⟨ms, last, hrounds, hleast, rfl⟩
    rw [attemptRepetition_of_rounds hrounds, repetitionOutcome, if_neg (Nat.not_lt.2 hleast)]

end Rounds

/-! ## Steps -/

/-- All that a step of a sequence does after its match. -/
theorem Progress.take_eq_ok {p p' : Progress} {name : String} {ready : Cursor} {m : Match}
    (h : p.take name ready m = .ok p') :
    (m.matched = [] ∧ p'.current = p.current ∨ m.matched ≠ [] ∧ ready.Moves m.matched p'.current) ∧
      p'.context = Fields.insert p.context name m.value ∧ p'.children = m :: p.children := by
  rw [Progress.take] at h
  by_cases hempty : m.matched.isEmpty = true
  · simp only [if_pos hempty] at h
    cases h
    exact ⟨Or.inl ⟨List.isEmpty_iff.1 hempty, rfl⟩, rfl, rfl⟩
  · simp only [if_neg hempty] at h
    cases htaken : ready.consume m.matched with
    | error error =>
      rw [htaken] at h
      cases h
    | ok next =>
      rw [htaken] at h
      cases h
      have hne : m.matched ≠ [] := mt List.isEmpty_iff.2 hempty
      exact ⟨Or.inr ⟨hne, Cursor.consume_eq_ok_iff.1 htaken⟩, rfl, rfl⟩

theorem Progress.reaches_of_take {c : Cursor} {p p' : Progress} {name : String} {ready : Cursor}
    {m : Match} (hcurrent : c.Reaches p.current) (hready : c.Reaches ready)
    (h : p.take name ready m = .ok p') : c.Reaches p'.current := by
  obtain ⟨⟨_, hsame⟩ | ⟨_, hmoves⟩, _⟩ := Progress.take_eq_ok h
  · rw [hsame]
    exact hcurrent
  · exact hready.trans ⟨_, hmoves⟩

end Excerpt
