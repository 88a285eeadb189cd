import Excerpt.Proofs.Repetition.Chain
import Excerpt.Proofs.Sequence.Consumption

/-!
# Elements without text

A repetition without a separator ends where its element ends up where the one before did.  That
place is not the one where the element was tried: white space lies between them if it is skipped.
So an element without text ends the repetition, except behind such white space.  There it is kept,
with the white space, and the next round ends the repetition.

* `EmptyBehindBlanks` : an element is matched in this way.
* `Links.withText_or` : all elements have some text, or the last one is such an element.
* `children_withText_iff` : when the elements of a repetition have text, and what it finds if one
  has none.
-/

namespace Excerpt

variable {element : Attempt} {skipsBlanks : Bool} {start c last : Cursor} {m : Match}
  {ms : List Match}

/-- Behind some elements white space is skipped, and an element is matched there without text. -/
structure EmptyBehindBlanks (element : Attempt) (skipsBlanks : Bool) (ms : List Match) (c : Cursor)
    (m : Match) : Prop where
  skips : skipsBlanks = true
  behind : ms ≠ []
  blanks : c.skipBlanks ≠ c
  attempt : element c.skipBlanks = some (.success m)
  noText : m.matched = []

/-- Without a separator further elements are tried behind the white space that is skipped. -/
theorem ElementPlace.eq_ready {place : Cursor} (h : ElementPlace none skipsBlanks false c place) :
    place = c.ready skipsBlanks := h.eq (.adjoining c rfl) |>.symm

/-- An element without text that moves on has white space before it. -/
theorem emptyBehindBlanks_of_moves {place next : Cursor}
    (hplace : ElementPlace none skipsBlanks ms.isEmpty c place)
    (hattempt : element place = some (.success m)) (hmoves : place.Moves m.matched next)
    (hmoved : next ≠ c) (hnoText : m.matched = []) :
    EmptyBehindBlanks element skipsBlanks ms c m ∧ next = c.skipBlanks := by
  rw [hnoText] at hmoves
  have hsame : next = place := hmoves.eq_of_nil
  rw [hsame] at hmoved
  cases hempty : ms.isEmpty with
  | true =>
    rw [hempty] at hplace
    exact absurd (hplace.eq (.first c)).symm hmoved
  | false =>
    rw [hempty] at hplace
    have hready := hplace.eq_ready
    have hbehind : ms ≠ [] := by
      rintro rfl
      cases hempty
    cases skipsBlanks with
    | false => exact absurd hready hmoved
    | true =>
      have hskipped : place = c.skipBlanks := hready
      rw [hskipped] at hmoved hattempt
      exact ⟨⟨rfl, hbehind, hmoved, hattempt, hnoText⟩, hsame.trans hskipped⟩

/-- Behind an element without text there is no further one: it would be matched at the same place,
and would be the same. -/
theorem EmptyBehindBlanks.eq_of_next {ms' : List Match} {m' : Match} {place next : Cursor}
    (h : EmptyBehindBlanks element skipsBlanks ms c m)
    (hplace : ElementPlace none skipsBlanks (ms' ++ [m]).isEmpty c.skipBlanks place)
    (hattempt : element place = some (.success m')) (hmoves : place.Moves m'.matched next) :
    next = c.skipBlanks := by
  have hfurther : (ms' ++ [m]).isEmpty = false := by simp
  rw [hfurther, h.skips] at hplace
  have hsame : place = c.skipBlanks := hplace.eq_ready.trans c.skipBlanks_skipBlanks
  rw [hsame, h.attempt] at hattempt
  cases hattempt
  rw [hsame, h.noText] at hmoves
  exact hmoves.eq_of_nil

/-- All of the elements have some text, or the last one is without text behind white space, and the
others have some. -/
theorem Links.withText_or (h : Links element none skipsBlanks start ms last) :
    (∀ m ∈ ms, m.matched ≠ []) ∨
      ∃ found c m, ms = found ++ [m] ∧ (∀ m ∈ found, m.matched ≠ []) ∧
        Links element none skipsBlanks start found c ∧
        EmptyBehindBlanks element skipsBlanks found c m ∧ last = c.skipBlanks := by
  induction h with
  | nil =>
    left
    intro m hm
    cases hm
  | @concat ms m c place next hlinks _ hplace hattempt hmoves hmoved ih =>
    rcases ih with htext | ⟨found, c', m', rfl, _, _, hempty, rfl⟩
    · by_cases hnoText : m.matched = []
      · obtain ⟨hempty, hnext⟩ :=
          emptyBehindBlanks_of_moves hplace hattempt hmoves hmoved hnoText
        exact Or.inr ⟨ms, c, m, rfl, htext, hlinks, hempty, hnext⟩
      · left
        intro m' hm'
        rcases List.mem_append.1 hm' with hm' | hm'
        · exact htext m' hm'
        · rw [List.mem_singleton.1 hm']
          exact hnoText
    · exact absurd (hempty.eq_of_next hplace hattempt hmoves) hmoved

/-- Elements do not stop where one is matched without text behind white space. -/
theorem EmptyBehindBlanks.not_stops (h : EmptyBehindBlanks element skipsBlanks ms c m) :
    ¬ Stops element none skipsBlanks ms.isEmpty c := by
  intro hstops
  have hfurther : ms.isEmpty = false := by
    rw [List.isEmpty_eq_false_iff]
    exact h.behind
  rw [hfurther] at hstops
  cases hstops with
  | finished hend =>
    refine h.blanks (c.moves_skipBlanks.eq_of_length_le ?_)
    rw [hend]
    exact Nat.zero_le _
  | unseparated hsome => cases hsome
  | missing hplace hattempt hnot =>
    rw [hplace.eq_ready, h.skips] at hattempt
    have hsame := hattempt.symm.trans h.attempt
    cases hsame
    cases hnot
  | stays hplace hattempt hmoves =>
    rw [hplace.eq_ready, h.skips] at hattempt hmoves
    have hsame := hattempt.symm.trans h.attempt
    cases hsame
    rw [h.noText] at hmoves
    exact h.blanks hmoves.eq_of_nil.symm

namespace Match

theorem texts_of_forall (h : ∀ m ∈ ms, m.matched ≠ []) : texts ms = ms := by
  rw [texts, List.filter_eq_self]
  intro m hm
  simpa using h m hm

end Match

namespace Matcher

/-- The elements of a repetition without a separator have some text, unless behind the last one that
has some there is white space that is skipped and then an element without text.  That element is
then kept behind the others, and the white space before it in the text matched. -/
theorem children_withText_iff {rules : Rules} {element : Matcher} {least : Nat} {skipsBlanks : Bool}
    {c : Cursor} {found : Match}
    (h : (repetition element none least skipsBlanks).matchIn rules c = some (.success found)) :
    ∃ last,
      Links (element.matchIn rules) none skipsBlanks c (Match.texts found.children) last ∧
      ((∀ m ∈ found.children, m.matched ≠ []) ↔
        ¬ ∃ m, EmptyBehindBlanks (element.matchIn rules) skipsBlanks (Match.texts found.children)
          last m) ∧
      ((∀ m ∈ found.children, m.matched ≠ []) →
        Chain (element.matchIn rules) none skipsBlanks c found.children last ∧
          c.Moves found.matched last) ∧
      ∀ m, EmptyBehindBlanks (element.matchIn rules) skipsBlanks (Match.texts found.children)
        last m →
        found.children = Match.texts found.children ++ [m] ∧
          c.Moves found.matched last.skipBlanks := by
  obtain ⟨ms, last, hchain, _, rfl⟩ := matchIn_repetition_eq_success_iff.1 h
  have hmoves := hchain.links.reaches.moves_textTo
  simp only [Match.ofElements]
  rcases hchain.links.withText_or with htext | ⟨found, c', m, rfl, htext, hlinks, hempty, rfl⟩
  · have hnone : ¬ ∃ m, EmptyBehindBlanks (element.matchIn rules) skipsBlanks ms last m := by
      rintro ⟨m, hempty⟩
      exact hempty.not_stops hchain.stops
    rw [Match.texts_of_forall htext]
    refine ⟨last, hchain.links, ⟨fun _ => hnone, fun _ => htext⟩, fun _ => ⟨hchain, hmoves⟩, ?_⟩
    exact fun m hempty => absurd ⟨m, hempty⟩ hnone
  · have hnoText : ¬ ∀ m' ∈ found ++ [m], m'.matched ≠ [] := fun hall =>
      hall m (by simp) hempty.noText
    rw [Match.texts_concat_of_nil hempty.noText, Match.texts_of_forall htext]
    refine ⟨c', hlinks, ⟨fun hall => absurd hall hnoText, fun hnone => absurd ⟨m, hempty⟩ hnone⟩,
      fun hall => absurd hall hnoText, fun m' hempty' => ⟨?_, hmoves⟩⟩
    have hsame := hempty.attempt.symm.trans hempty'.attempt
    cases hsame
    rfl

/-- Runs of a letter, with white space between them. -/
def letterRuns : Matcher := .repetition (.literal "x") none 0 false

theorem children_withText_iff_letterRuns :
    ∃ found, (repetition letterRuns none 0 true).matchIn [] (Cursor.ofString "x  y") =
        some (.success found) ∧
      ∃ last,
        Links (letterRuns.matchIn []) none true (Cursor.ofString "x  y")
          (Match.texts found.children) last ∧
        ((∀ m ∈ found.children, m.matched ≠ []) ↔
          ¬ ∃ m, EmptyBehindBlanks (letterRuns.matchIn []) true (Match.texts found.children)
            last m) ∧
        ((∀ m ∈ found.children, m.matched ≠ []) →
          Chain (letterRuns.matchIn []) none true (Cursor.ofString "x  y") found.children last ∧
            (Cursor.ofString "x  y").Moves found.matched last) ∧
        ∀ m, EmptyBehindBlanks (letterRuns.matchIn []) true (Match.texts found.children) last m →
          found.children = Match.texts found.children ++ [m] ∧
            (Cursor.ofString "x  y").Moves found.matched last.skipBlanks := by
  obtain ⟨found, hfound⟩ : ∃ found, (repetition letterRuns none 0 true).matchIn []
      (Cursor.ofString "x  y") = some (.success found) := ⟨_, rfl⟩
  exact ⟨found, hfound, children_withText_iff hfound⟩

/-- The run before the `y` is empty.  It is an element, and the white space before it is matched. -/
theorem letterRuns_keeps_empty :
    ∃ found, (repetition letterRuns none 0 true).matchIn [] (Cursor.ofString "x  y") =
        some (.success found) ∧
      found.children.map Match.matched = [['x'], []] ∧ found.matched = "x  ".toList :=
  ⟨_, rfl, rfl, rfl⟩

end Matcher

end Excerpt
