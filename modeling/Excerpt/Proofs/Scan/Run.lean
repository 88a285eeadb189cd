import Excerpt.Proofs.Matcher.Tree
import Excerpt.Proofs.Scan.Plain

/-!
# Runs of a scan

`Scan.Yields` is a run of a scan: the matches that it finds one after another, and the scan as it is
then.  The loops behind it count down a fuel.  As long as that is above the number of characters
left it makes no difference (`search_eq_of_lt`, `collect_eq_of_lt`), so the loops may be read as
plain recursion (`next_eq`, `toList_eq`); and the list of all matches is that of the run to the end
of the text (`toList_eq_some_iff`).

The scan moves in four ways: to the next required front or the white space before it, past the
characters that no match begins with, past a match, and past one character.  None of them goes back,
so the matches of a run stand in a row (`Yields.row`).  `Scan.findMatches_ordered` says what follows
for a text: if every attempt ends, the scan comes to the end of the text, with matches of some text
that stand where they say, one behind the other.
-/

namespace Excerpt.Scan

/-! ## Loops without fuel -/

section Loops

variable {g : Grammar}

theorem search_eq_of_lt (fuel : Nat) : ∀ {fuel' : Nat} {c : Cursor},
    c.rest.length < fuel → c.rest.length < fuel' → search g fuel c = search g fuel' c := by
  induction fuel with
  | zero =>
    intro fuel' c hfuel
    omega
  | succ fuel ih =>
    intro fuel' c hfuel hfuel'
    obtain ⟨fuel', rfl⟩ : ∃ n, fuel' = n + 1 := ⟨fuel' - 1, by omega⟩
    rw [search, search]
    cases hadvance : advance g c with
    | none => rfl
    | some step =>
      cases step with
      | finished | found _ _ => rfl
      | missed next =>
        have hless := length_rest_of_missed hadvance
        exact ih (by omega) (by omega)

/-- A search without a match comes to the end of the text. -/
theorem rest_of_search (fuel : Nat) : ∀ {c last : Cursor},
    search g fuel c = some (none, last) → last.rest = [] := by
  induction fuel with
  | zero =>
    intro c last h
    cases h
  | succ fuel ih =>
    intro c last h
    rw [search] at h
    have hadvances := advances_advance g c
    generalize advance g c = step at hadvances h
    cases hadvances with
    | finished hend =>
      cases h
      exact hend
    | found _ _ _ _ | stuck _ _ => cases h
    | missed _ _ _ => exact ih h

/-- The next match of a scan, one attempt at a time. -/
theorem next_eq (s : Scan) :
    s.next =
      match advance s.grammar s.cursor with
      | none => none
      | some .finished => some (none, { s with cursor := candidate s.grammar.matcher s.cursor })
      | some (.found m next) => some (some (.ofMatch m), { s with cursor := next })
      | some (.missed next) => Scan.next { s with cursor := next } := by
  rw [next, search]
  cases hadvance : advance s.grammar s.cursor with
  | none => rfl
  | some step =>
    cases step with
    | finished | found _ _ => rfl
    | missed next =>
      have hless := length_rest_of_missed hadvance
      have hsame : search s.grammar s.cursor.rest.length next =
          search s.grammar (next.rest.length + 1) next :=
        search_eq_of_lt _ hless (Nat.lt_succ_self _)
      simp only [hsame]
      rfl

theorem grammar_of_next {s s' : Scan} {found : Option Extracted} (h : s.next = some (found, s')) :
    s'.grammar = s.grammar := by
  obtain ⟨_, _, hresult⟩ := Option.map_eq_some_iff.1 h
  cases hresult
  rfl

/-- A scan that finds no more is at the end of the text. -/
theorem rest_of_next {s s' : Scan} (h : s.next = some (none, s')) : s'.cursor.rest = [] := by
  obtain ⟨⟨found, cursor⟩, hsearch, hresult⟩ := Option.map_eq_some_iff.1 h
  cases found with
  | none =>
    cases hresult
    exact rest_of_search _ hsearch
  | some found => cases hresult

/-- All that a match of a scan says about where it was found. -/
theorem next_eq_found {s s' : Scan} {e : Extracted} (h : s.next = some (some e, s')) :
    ∃ place found, s.cursor.Reaches place ∧ s.grammar.attempt place = some (.success found) ∧
      found.matched ≠ [] ∧ e = .ofMatch found ∧ place.Moves found.matched s'.cursor := by
  obtain ⟨⟨found, cursor⟩, hsearch, hresult⟩ := Option.map_eq_some_iff.1 h
  cases found with
  | none => cases hresult
  | some found =>
    cases hresult
    obtain ⟨place, hreach, hattempt, hne, hmoves⟩ := search_eq_found _ hsearch
    have hcandidate := (candidatePlace_candidate s.grammar.matcher s.cursor).reaches
    exact ⟨place, found, hcandidate.trans hreach, hattempt, hne, rfl, hmoves⟩

theorem length_rest_of_next {s s' : Scan} {e : Extracted} (h : s.next = some (some e, s')) :
    s'.cursor.rest.length < s.cursor.rest.length := by
  obtain ⟨place, found, hreach, _, hne, _, hmoves⟩ := next_eq_found h
  have hle := hreach.length_rest_le
  have hless := hmoves.length_rest_lt hne
  omega

theorem collect_eq_of_lt (decide : Extracted → Decision) (fuel : Nat) : ∀ {fuel' : Nat} {s : Scan},
    s.cursor.rest.length < fuel → s.cursor.rest.length < fuel' →
      collect decide fuel s = collect decide fuel' s := by
  induction fuel with
  | zero =>
    intro fuel' s hfuel
    omega
  | succ fuel ih =>
    intro fuel' s hfuel hfuel'
    obtain ⟨fuel', rfl⟩ : ∃ n, fuel' = n + 1 := ⟨fuel' - 1, by omega⟩
    rw [collect, collect]
    cases hnext : s.next with
    | none => rfl
    | some result =>
      obtain ⟨found, s'⟩ := result
      cases found with
      | none => rfl
      | some e =>
        have hless := length_rest_of_next hnext
        have hsame : collect decide fuel s' = collect decide fuel' s' := ih (by omega) (by omega)
        simp only [hsame]

/-- The list of all matches, by the next one. -/
theorem toList_eq (s : Scan) :
    s.toList =
      match s.next with
      | none => none
      | some (none, _) => some []
      | some (some e, s') => s'.toList.map (e :: ·) := by
  rw [toList, filtered, collect]
  cases hnext : s.next with
  | none => rfl
  | some result =>
    obtain ⟨found, s'⟩ := result
    cases found with
    | none => rfl
    | some e =>
      have hless := length_rest_of_next hnext
      have hsame : collect (fun _ => .emit) s.cursor.rest.length s' = s'.toList :=
        collect_eq_of_lt _ _ hless (Nat.lt_succ_self _)
      simp only [hsame]

end Loops

/-! ## Runs -/

/-- A scan finds some matches one after another, and is then the scan at the end. -/
inductive Yields : Scan → List Extracted → Scan → Prop
  | nil (s : Scan) : Yields s [] s
  | cons {s s' last : Scan} {e : Extracted} {es : List Extracted}
    (hnext : s.next = some (some e, s')) (hrest : Yields s' es last) : Yields s (e :: es) last

/-- The scan has no more matches: it comes to the end of the text without one. -/
def Finished (s : Scan) : Prop := ∃ s', s.next = some (none, s') ∧ s'.cursor.rest = []

theorem Yields.grammar_eq {s last : Scan} {es : List Extracted} (h : s.Yields es last) :
    last.grammar = s.grammar := by
  induction h with
  | nil s => rfl
  | cons hnext _ ih => exact ih.trans (grammar_of_next hnext)

/-- The last match of a run is found by a scan that has found the others. -/
theorem Yields.exists_of_concat {s last : Scan} {es : List Extracted} {e : Extracted}
    (h : s.Yields (es ++ [e]) last) :
    ∃ before, s.Yields es before ∧ before.next = some (some e, last) := by
  induction es generalizing s with
  | nil =>
    cases h with
    | cons hnext hrest =>
      cases hrest
      exact ⟨s, .nil s, hnext⟩
  | cons first es ih =>
    cases h with
    | cons hnext hrest =>
      obtain ⟨before, hyields, hlast⟩ := ih hrest
      exact ⟨before, .cons hnext hyields, hlast⟩

/-- The matches of a run stand in a row, and each is that of an attempt at its place. -/
theorem Yields.row {s last : Scan} {es : List Extracted} (h : s.Yields es last) :
    s.cursor.Reaches last.cursor ∧
      Match.Row s.cursor.offset (es.map Extracted.tree) last.cursor.offset ∧
      ∀ e ∈ es, ∃ place found next, s.cursor.Reaches place ∧
        s.grammar.attempt place = some (.success found) ∧ found.matched ≠ [] ∧
        e = .ofMatch found ∧ place.Moves found.matched next := by
  induction h with
  | nil s => exact ⟨.refl _, .nil (Nat.le_refl _), by simp⟩
  | @cons s s' last e es hnext _ ih =>
    obtain ⟨hlast, hrow, hfound⟩ := ih
    obtain ⟨place, found, hreach, hattempt, hne, rfl, hmoves⟩ := next_eq_found hnext
    have hahead : s.cursor.Reaches s'.cursor := hreach.trans ⟨_, hmoves⟩
    have hoffset : found.offset = place.offset :=
      (Matcher.matchIn_stands s.grammar.rules s.grammar.matcher place _ hattempt).1
    refine ⟨hahead.trans hlast, .cons ?_ ?_, ?_⟩
    · show s.cursor.offset ≤ found.offset
      rw [hoffset]
      exact hreach.offset_le
    · show Match.Row found.endOffset (es.map Extracted.tree) last.cursor.offset
      rw [Match.endOffset, hoffset, ← hmoves.offset_eq]
      exact hrow
    · intro e he
      rcases List.mem_cons.1 he with rfl | he
      · exact ⟨place, found, s'.cursor, hreach, hattempt, hne, rfl, hmoves⟩
      · obtain ⟨place', found', next, hreach', hrest⟩ := hfound e he
        rw [grammar_of_next hnext] at hrest
        exact ⟨place', found', next, hahead.trans hreach', hrest⟩

/-- The list of all matches is that of a run to the end. -/
theorem toList_eq_some_iff {s : Scan} {es : List Extracted} :
    s.toList = some es ↔ ∃ last, s.Yields es last ∧ last.Finished := by
  constructor
  · intro h
    induction hlength : s.cursor.rest.length using Nat.strongRecOn generalizing s es with
    | ind length ih =>
      rw [toList_eq] at h
      cases hnext : s.next with
      | none =>
        rw [hnext] at h
        cases h
      | some result =>
        obtain ⟨found, s'⟩ := result
        rw [hnext] at h
        cases found with
        | none =>
          cases h
          exact ⟨s, .nil s, s', hnext, rest_of_next hnext⟩
        | some e =>
          obtain ⟨es', hrest, rfl⟩ := Option.map_eq_some_iff.1 h
          have hless := length_rest_of_next hnext
          obtain ⟨last, hyields, hfinished⟩ := ih _ (hlength ▸ hless) hrest rfl
          exact ⟨last, .cons hnext hyields, hfinished⟩
  · rintro ⟨last, hyields, s', hnone, _⟩
    induction hyields with
    | nil s => rw [toList_eq, hnone]
    | cons hnext _ ih =>
      rw [toList_eq, hnext]
      simp only [ih hnone, Option.map_some]

/-! ## Runs that end -/

/-- A scan goes on to its next match or to its end if every attempt ahead ends. -/
theorem next_isSome {s : Scan}
    (h : ∀ c, s.cursor.Reaches c → (s.grammar.attempt c).isSome = true) : s.next.isSome = true := by
  induction hlength : s.cursor.rest.length using Nat.strongRecOn generalizing s with
  | ind length ih =>
    rw [next_eq]
    have hplace := (candidatePlace_candidate s.grammar.matcher s.cursor).reaches
    have hadvances := advances_advance s.grammar s.cursor
    cases hadvance : advance s.grammar s.cursor with
    | none =>
      rw [hadvance] at hadvances
      cases hadvances with
      | stuck _ hnone =>
        have hsome := h _ hplace
        rw [hnone] at hsome
        cases hsome
    | some step =>
      cases step with
      | finished | found _ _ => rfl
      | missed next =>
        have hless := length_rest_of_missed hadvance
        rw [hadvance] at hadvances
        cases hadvances with
        | missed _ _ _ =>
          refine ih _ (hlength ▸ hless) (fun c hreach => h c ?_) rfl
          exact hplace.trans ((Cursor.reaches_advance _).trans hreach)

theorem toList_isSome {s : Scan}
    (h : ∀ c, s.cursor.Reaches c → (s.grammar.attempt c).isSome = true) :
    s.toList.isSome = true := by
  induction hlength : s.cursor.rest.length using Nat.strongRecOn generalizing s with
  | ind length ih =>
    rw [toList_eq]
    obtain ⟨⟨found, s'⟩, hnext⟩ := Option.isSome_iff_exists.1 (next_isSome h)
    rw [hnext]
    cases found with
    | none => rfl
    | some e =>
      have hless := length_rest_of_next hnext
      obtain ⟨place, found, hreach, _, _, _, hmoves⟩ := next_eq_found hnext
      simp only [Option.isSome_map]
      refine ih _ (hlength ▸ hless) (fun c hahead => ?_) rfl
      rw [grammar_of_next hnext]
      exact h c (hreach.trans (Cursor.Reaches.trans ⟨_, hmoves⟩ hahead))

/-- A scan of a text ends if every attempt does: it has a list of matches, which it would not have if
its fuel ran out, and behind these it comes to the end of the text.  The matches are of some text
inside the text, each where it says and as an attempt there answers it, and each behind the one
before. -/
theorem findMatches_ordered (g : Grammar) (text : Text)
    (hends : ∀ c, c.text = text → (g.attempt c).isSome = true) :
    ∃ es last, g.findMatches text = some es ∧ (g.scan text).Yields es last ∧ last.Finished ∧
      (∀ e ∈ es, e.matched ≠ [] ∧ e.tree.endOffset ≤ Text.byteLength text ∧
        Text.slice? text e.offset e.tree.endOffset = some e.matched ∧
        ∃ place found, place.text = text ∧ place.offset = e.offset ∧
          g.attempt place = some (.success found) ∧ e = .ofMatch found) ∧
      es.Pairwise fun e e' => e.tree.endOffset ≤ e'.offset := by
  have hsome : (g.scan text).toList.isSome = true :=
    toList_isSome fun c hreach => hends c hreach.text_eq
  obtain ⟨es, hes⟩ := Option.isSome_iff_exists.1 hsome
  obtain ⟨last, hyields, hfinished⟩ := toList_eq_some_iff.1 hes
  obtain ⟨_, hrow, hfound⟩ := hyields.row
  refine ⟨es, last, hes, hyields, hfinished, ?_, ?_⟩
  · intro e he
    obtain ⟨place, found, next, hreach, hattempt, hne, rfl, hmoves⟩ := hfound e he
    have htext : place.text = text := hreach.text_eq
    have hoffset : found.offset = place.offset :=
      (Matcher.matchIn_stands g.rules g.matcher place _ hattempt).1
    have hend : found.endOffset = next.offset := by
      rw [Match.endOffset, hoffset, hmoves.offset_eq]
    have hslice := hmoves.slice?_eq
    rw [← hmoves.offset_eq, htext, ← hoffset, ← hend] at hslice
    have hbound := next.offset_le_byteLength_text
    rw [hmoves.text_eq, htext, ← hend] at hbound
    exact ⟨hne, hbound, hslice, place, found, htext, hoffset.symm, hattempt, rfl⟩
  · have hpairwise := List.pairwise_map.1 hrow.pairwise
    refine hpairwise.imp_of_mem fun {e e'} he he' hordered => ?_
    obtain ⟨_, found, _, _, _, hne, rfl, _⟩ := hfound e he
    obtain ⟨_, found', _, _, _, hne', rfl, _⟩ := hfound e' he'
    exact hordered hne hne'

theorem findMatches_ordered_letterPair :
    (∀ c, c.text = " x y xx  y".toList → (letterPair.attempt c).isSome = true) ∧
      ∃ es last, letterPair.findMatches " x y xx  y".toList = some es ∧
        (letterPair.scan " x y xx  y".toList).Yields es last ∧ last.Finished ∧
        (∀ e ∈ es, e.matched ≠ [] ∧ e.tree.endOffset ≤ Text.byteLength " x y xx  y".toList ∧
          Text.slice? " x y xx  y".toList e.offset e.tree.endOffset = some e.matched ∧
          ∃ place found, place.text = " x y xx  y".toList ∧ place.offset = e.offset ∧
            letterPair.attempt place = some (.success found) ∧ e = .ofMatch found) ∧
        es.Pairwise fun e e' => e.tree.endOffset ≤ e'.offset := by
  have hends : ∀ c, c.text = " x y xx  y".toList → (letterPair.attempt c).isSome = true :=
    fun c _ => letterPair_ends c
  exact ⟨hends, findMatches_ordered letterPair " x y xx  y".toList hends⟩

end Excerpt.Scan
