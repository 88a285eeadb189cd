import Excerpt.Proofs.Scan.Candidate

/-!
# Scanning without candidates

`Scan.plainFrom` is the scan that makes an attempt at every place.  `toList_eq_plainFrom` says that
the scan by candidates finds the same matches in the same order, if all sequences of the grammar
agree about white space.

The proof follows the scan.  A place where the matcher fails at once changes nothing for the plain
scan (`plainFrom_of_failsUpTo`), so it may begin at the candidate; there both make the same attempt
(`plainFrom_eq_advance`), and the loops around it make the same list (`plainFrom_eq_search`,
`collect_eq_plainFrom`).
-/

namespace Excerpt

theorem Grammar.attempt_of_failsAt {g : Grammar} {c : Cursor} (h : g.matcher.FailsAt c) :
    ∃ f, g.attempt c = some (.failure f) := by
  rw [Grammar.attempt, Matcher.matchIn_eq_attempt]
  exact h _ _ _

namespace Scan

/-- All matches from a cursor on, by an attempt at every place where some text is left: a match of
some text is kept and the scan goes on behind it; otherwise it moves over one character.  No answer
where an attempt has no outcome. -/
def plainFrom (g : Grammar) (c : Cursor) : Option (List Extracted) :=
  match _ : c.rest with
  | [] => some []
  | _ :: _ =>
    match g.attempt c with
    | none => none
    | some (.success m) =>
      if _ : m.matched = [] then plainFrom g c.advance
      else (plainFrom g (c.advanceBy m.matched.length)).map (Extracted.ofMatch m :: ·)
    | some _ => plainFrom g c.advance
termination_by c.rest.length
decreasing_by
  · exact Cursor.length_rest_advance (by simp [*])
  · exact Cursor.length_rest_advanceBy (List.length_pos_iff.2 ‹_›) (by simp [*])
  · exact Cursor.length_rest_advance (by simp [*])

section Steps

variable {g : Grammar} {c : Cursor}

theorem plainFrom_nil (h : c.rest = []) : plainFrom g c = some [] := by
  rw [plainFrom]
  split
  · rfl
  · rename_i hcons
    rw [h] at hcons
    cases hcons

theorem plainFrom_of_ne_nil (h : c.rest ≠ []) :
    plainFrom g c =
      match g.attempt c with
      | none => none
      | some (.success m) =>
        if m.matched = [] then plainFrom g c.advance
        else (plainFrom g (c.advanceBy m.matched.length)).map (Extracted.ofMatch m :: ·)
      | some _ => plainFrom g c.advance := by
  rw [plainFrom]
  split
  · rename_i hnil
    exact absurd hnil h
  · rfl

theorem plainFrom_stuck (hrest : c.rest ≠ []) (hattempt : g.attempt c = none) :
    plainFrom g c = none := by
  rw [plainFrom_of_ne_nil hrest, hattempt]

theorem plainFrom_found {m : Match} {next : Cursor} (hrest : c.rest ≠ [])
    (hattempt : g.attempt c = some (.success m)) (hne : m.matched ≠ [])
    (hmoves : c.Moves m.matched next) :
    plainFrom g c = (plainFrom g next).map (Extracted.ofMatch m :: ·) := by
  rw [plainFrom_of_ne_nil hrest, hattempt, hmoves.eq_advanceBy]
  exact if_neg hne

theorem plainFrom_missed {o : Outcome} (hrest : c.rest ≠ []) (hattempt : g.attempt c = some o)
    (hempty : ∀ m, o = .success m → m.matched = []) : plainFrom g c = plainFrom g c.advance := by
  rw [plainFrom_of_ne_nil hrest, hattempt]
  cases o with
  | failure _ | absent _ _ => rfl
  | success m => exact if_pos (hempty m rfl)

/-- The plain scan goes on from places where the matcher fails. -/
theorem plainFrom_of_failsUpTo {later : Cursor} (h : g.matcher.FailsUpTo c later) :
    plainFrom g c = plainFrom g later := by
  induction h with
  | here c => rfl
  | @ahead c _ ch rest hrest hfails _ ih =>
    obtain ⟨f, hattempt⟩ := Grammar.attempt_of_failsAt hfails
    have hne : c.rest ≠ [] := by
      rw [hrest]
      exact List.cons_ne_nil ch rest
    rw [plainFrom_missed hne hattempt fun m hm => by cases hm]
    exact ih

/-! ## The same steps -/

theorem length_rest_of_missed {next : Cursor} (h : advance g c = some (.missed next)) :
    next.rest.length < c.rest.length := by
  have hle := (candidatePlace_candidate g.matcher c).reaches.length_rest_le
  have hadvances := advances_advance g c
  rw [h] at hadvances
  cases hadvances with
  | missed hmore _ _ =>
    have hless := Cursor.length_rest_advance hmore
    omega

/-- A match that is found is that of an attempt at the first candidate or ahead of it. -/
theorem search_eq_found (fuel : Nat) :
    ∀ {c : Cursor} {m : Match} {next : Cursor}, search g fuel c = some (some m, next) →
      ∃ place, (candidate g.matcher c).Reaches place ∧ g.attempt place = some (.success m) ∧
        m.matched ≠ [] ∧ place.Moves m.matched next := by
  induction fuel with
  | zero =>
    intro c m next h
    cases h
  | succ fuel ih =>
    intro c m next h
    rw [search] at h
    have hadvances := advances_advance g c
    generalize advance g c = step at hadvances h
    cases hadvances with
    | finished _ | stuck _ _ => cases h
    | found _ hattempt hne hmoves =>
      cases h
      exact ⟨_, .refl _, hattempt, hne, hmoves⟩
    | missed _ _ _ =>
      obtain ⟨place, hreach, hfound⟩ := ih h
      refine ⟨place, ?_, hfound⟩
      have hcandidate :=
        (candidatePlace_candidate g.matcher (candidate g.matcher c).advance).reaches
      exact (Cursor.reaches_advance _).trans (hcandidate.trans hreach)

theorem length_rest_of_search {fuel : Nat} {m : Match} {next : Cursor}
    (h : search g fuel c = some (some m, next)) : next.rest.length < c.rest.length := by
  obtain ⟨place, hreach, _, hne, hmoves⟩ := search_eq_found fuel h
  have hle := ((candidatePlace_candidate g.matcher c).reaches.trans hreach).length_rest_le
  have hless := hmoves.length_rest_lt hne
  omega

/-- The plain scan, one step of the scan by candidates at a time. -/
theorem plainFrom_eq_advance (hblanks : g.matcher.AnnouncesBlanks) (c : Cursor) :
    plainFrom g c =
      match advance g c with
      | none => none
      | some .finished => some []
      | some (.found m next) => (plainFrom g next).map (Extracted.ofMatch m :: ·)
      | some (.missed next) => plainFrom g next := by
  rw [plainFrom_of_failsUpTo ((candidatePlace_candidate g.matcher c).failsUpTo hblanks)]
  have hadvances := advances_advance g c
  generalize advance g c = step at hadvances ⊢
  cases hadvances with
  | finished hend => exact plainFrom_nil hend
  | stuck hmore hnone => exact plainFrom_stuck hmore hnone
  | found hmore hattempt hne hmoves => exact plainFrom_found hmore hattempt hne hmoves
  | missed hmore hattempt hempty => exact plainFrom_missed hmore hattempt hempty

/-- The plain scan up to its first match. -/
theorem plainFrom_eq_search (hblanks : g.matcher.AnnouncesBlanks) (fuel : Nat) :
    ∀ c : Cursor, c.rest.length < fuel →
      plainFrom g c =
        match search g fuel c with
        | none => none
        | some (none, _) => some []
        | some (some m, next) => (plainFrom g next).map (Extracted.ofMatch m :: ·) := by
  induction fuel with
  | zero =>
    intro c hfuel
    omega
  | succ fuel ih =>
    intro c hfuel
    rw [plainFrom_eq_advance hblanks, search]
    cases hadvance : advance g c with
    | none => rfl
    | some step =>
      cases step with
      | finished => rfl
      | found m next => rfl
      | missed next =>
        have hless := length_rest_of_missed hadvance
        exact ih next (by omega)

end Steps

/-! ## The same matches -/

theorem collect_eq_plainFrom (fuel : Nat) :
    ∀ s : Scan, s.grammar.matcher.AnnouncesBlanks → s.cursor.rest.length < fuel →
      collect (fun _ => .emit) fuel s = plainFrom s.grammar s.cursor := by
  induction fuel with
  | zero =>
    intro s _ hfuel
    omega
  | succ fuel ih =>
    intro s hblanks hfuel
    rw [collect, next, plainFrom_eq_search hblanks _ s.cursor (Nat.lt_succ_self _)]
    cases hsearch : search s.grammar (s.cursor.rest.length + 1) s.cursor with
    | none => rfl
    | some result =>
      obtain ⟨found, cursor⟩ := result
      cases found with
      | none => rfl
      | some m =>
        have hless := length_rest_of_search hsearch
        have hrest := ih { s with cursor := cursor } hblanks (by simp only; omega)
        exact congrArg (Option.map (Extracted.ofMatch m :: ·)) hrest

/-- If the outermost sequence announces white space, only attempts without a match are left out. -/
theorem toList_eq_of_announcesBlanks {s : Scan} (h : s.grammar.matcher.AnnouncesBlanks) :
    s.toList = plainFrom s.grammar s.cursor :=
  collect_eq_plainFrom _ s h (Nat.lt_succ_self _)

/-- The plain scan ends if every attempt does. -/
theorem plainFrom_isSome {g : Grammar} (c : Cursor)
    (h : ∀ c', c.Reaches c' → (g.attempt c').isSome = true) : (plainFrom g c).isSome = true := by
  induction hlength : c.rest.length using Nat.strongRecOn generalizing c with
  | ind length ih =>
    by_cases hrest : c.rest = []
    · rw [plainFrom_nil hrest]
      rfl
    · have hmissed : (plainFrom g c.advance).isSome = true := by
        have hless := Cursor.length_rest_advance hrest
        refine ih _ (hlength ▸ hless) _ (fun c' hreach => h c' ?_) rfl
        exact (Cursor.reaches_advance c).trans hreach
      obtain ⟨o, hattempt⟩ := Option.isSome_iff_exists.1 (h c (.refl c))
      cases o with
      | failure _ | absent _ _ =>
        rw [plainFrom_missed hrest hattempt fun m hm => by cases hm]
        exact hmissed
      | success m =>
        by_cases hempty : m.matched = []
        · rw [plainFrom_missed hrest hattempt fun m' hm' => by cases hm'; exact hempty]
          exact hmissed
        · obtain ⟨next, hmoves⟩ :=
            (Matcher.matchIn_stands g.rules g.matcher).exists_moves hattempt
          have hless := hmoves.length_rest_lt hempty
          rw [plainFrom_found hrest hattempt hempty hmoves, Option.isSome_map]
          refine ih _ (hlength ▸ hless) _ (fun c' hreach => h c' ?_) rfl
          exact Cursor.Reaches.trans ⟨_, hmoves⟩ hreach

/-- The scan by candidates finds what the plain scan finds, if all sequences agree about white
space; and there is a list if every attempt ends. -/
theorem toList_eq_plainFrom (s : Scan) (hagree : s.grammar.matcher.SequencesAgree) :
    s.toList = plainFrom s.grammar s.cursor ∧
      ((∀ c, s.cursor.Reaches c → (s.grammar.attempt c).isSome = true) →
        s.toList.isSome = true) := by
  have hsame := toList_eq_of_announcesBlanks (Matcher.announcesBlanks_of_agree hagree)
  refine ⟨hsame, fun hends => ?_⟩
  rw [hsame]
  exact plainFrom_isSome _ hends

/-- Two letters, with white space before each. -/
def letterPair : Grammar :=
  .ofMatcher (.sequence "pair" [.take "a" (.literal "x"), .take "b" (.literal "y")] .relaxed)

/-- An attempt without rules ends. -/
theorem letterPair_ends (c : Cursor) : (letterPair.attempt c).isSome = true := by
  rw [Grammar.attempt, Matcher.matchIn_eq_attempt]
  simp only [letterPair, Grammar.ofMatcher, Matcher.attempt, attemptSteps, attemptLiteral]
  repeat' split
  all_goals first | rfl | contradiction

theorem toList_eq_plainFrom_letterPair :
    letterPair.matcher.SequencesAgree ∧
      (letterPair.scan " x y xx  y".toList).toList =
        plainFrom letterPair (.start " x y xx  y".toList) ∧
      (letterPair.scan " x y xx  y".toList).toList.isSome = true := by
  have hagree : letterPair.matcher.SequencesAgree := by decide
  obtain ⟨hsame, hends⟩ := toList_eq_plainFrom (letterPair.scan " x y xx  y".toList) hagree
  exact ⟨hagree, hsame, hends fun c _ => letterPair_ends c⟩

end Scan

end Excerpt
