import Excerpt.Proofs.Scan.Plain

/-!
# Whole texts

`Grammar.exactMatch` makes one attempt at the start of a text, and `Grammar.findMatches` scans the
text.  If the scan finds one match and it covers the text, it is the exact match
(`exactMatch_of_findMatches`).  The other way round this holds if the scan makes its first attempt
at the start (`findMatches_of_exactMatch`), and `candidate_eq_self` says when it does.

It does not if the match begins with white space that the grammar does not announce.
`exactMatch_iff_findMatches` has the exact condition, and `nestedBlanks` is a grammar that fails it.
-/

namespace Excerpt

/-! ## The first candidate -/

namespace Scan

variable {m : Matcher} {c : Cursor}

/-- The scan makes an attempt at once where a match can begin, unless the match would begin with
white space that is not announced. -/
theorem candidate_eq_self (hnot : ¬ m.FailsAt c)
    (hstands : ∀ front, m.requiredFront? = some front → m.skipsLeadingBlanks = false →
      front <+: c.rest) : candidate m c = c := by
  have hplace := candidatePlace_candidate m c
  by_cases hblanks : m.AnnouncesBlanks
  · exact (hplace.failsUpTo hblanks).eq_self hnot
  · simp only [Matcher.AnnouncesBlanks, not_forall, Bool.not_eq_true] at hblanks
    obtain ⟨front, hfront, hne, _, hskips⟩ := hblanks
    generalize candidate m c = place at hplace ⊢
    cases hplace with
    | @front front' _ hfront' _ _ hmoves =>
      rw [Text.before_eq_nil (hstands front' hfront' hskips)] at hmoves
      exact hmoves.eq_of_nil
    | blanks _ _ hskips' _ =>
      rw [hskips] at hskips'
      cases hskips'
    | character hnone _ => exact absurd (hnone front hfront) hne

/-- A scan whose first attempt is made at the start of a text begins with its required front, or
with white space that is announced. -/
theorem isPrefix_of_candidate_eq_self {front : Text} (hfront : m.requiredFront? = some front)
    (hskips : m.skipsLeadingBlanks = false) (hrest : c.rest ≠ []) (h : candidate m c = c) :
    front <+: c.rest := by
  have hplace := candidatePlace_candidate m c
  rw [h] at hplace
  cases hplace with
  | @front front' _ hfront' _ _ hmoves =>
    rw [hfront] at hfront'
    cases hfront'
    exact Text.isPrefix_of_before_eq_nil (hmoves.eq_nil_of_length_le (Nat.le_refl _)) hrest
  | blanks _ _ hskips' _ =>
    rw [hskips] at hskips'
    cases hskips'
  | character hnone _ =>
    rw [hnone front hfront]
    exact List.nil_prefix

/-- A match at the candidate is the next one. -/
theorem advance_eq_found {g : Grammar} {found : Match} {next : Cursor}
    (hattempt : g.attempt (candidate g.matcher c) = some (.success found))
    (hne : found.matched ≠ []) (hmoves : (candidate g.matcher c).Moves found.matched next) :
    advance g c = some (.found found next) := by
  have hadvances := advances_advance g c
  generalize advance g c = step at hadvances ⊢
  cases hadvances with
  | finished hend =>
    rw [hmoves.rest_eq] at hend
    exact absurd (List.append_eq_nil_iff.1 hend).1 hne
  | stuck _ hnone =>
    rw [hattempt] at hnone
    cases hnone
  | found _ hattempt' _ hmoves' =>
    rw [hattempt] at hattempt'
    cases hattempt'
    rw [hmoves.eq hmoves']
  | missed _ hattempt' hempty =>
    rw [hattempt] at hattempt'
    cases hattempt'
    exact absurd (hempty found rfl) hne

theorem search_nil {g : Grammar} (fuel : Nat) (h : c.rest = []) :
    search g (fuel + 1) c = some (none, candidate g.matcher c) := by
  obtain ⟨t, hmoves⟩ := (candidatePlace_candidate g.matcher c).reaches
  have hrest := hmoves.rest_eq
  rw [h] at hrest
  have hend : (candidate g.matcher c).rest = [] := (List.append_eq_nil_iff.1 hrest.symm).2
  rw [search, advance, if_pos (Cursor.exhausted_iff.2 hend)]

/-- The list of all matches, by its first one. -/
theorem toList_eq_search (s : Scan) :
    s.toList =
      match search s.grammar (s.cursor.rest.length + 1) s.cursor with
      | none => none
      | some (none, _) => some []
      | some (some found, next) =>
        (collect (fun _ => .emit) s.cursor.rest.length { s with cursor := next }).map
          (Extracted.ofMatch found :: ·) := by
  rw [toList, filtered, collect, Scan.next]
  cases search s.grammar (s.cursor.rest.length + 1) s.cursor with
  | none => rfl
  | some result =>
    obtain ⟨found, next⟩ := result
    cases found <;> rfl

end Scan

/-! ## Exact matches -/

namespace Grammar

variable {g : Grammar} {text : Text} {e : Extracted}

/-- A match is complete if it covers all that is left, and some. -/
theorem incomplete?_eq_none_iff {c : Cursor} {m : Match} (h : m.matched <+: c.rest) :
    incomplete? c m = none ↔ m.matched = c.rest ∧ c.rest ≠ [] := by
  obtain ⟨rest, hrest⟩ := h
  have hdrop : c.rest.drop m.matched.length = rest := by
    rw [← hrest]
    exact List.drop_left
  rw [incomplete?, hdrop]
  constructor
  · intro hnone
    split at hnone
    · cases hnone
    · rename_i hne
      simp only at hnone
      split at hnone
      · rename_i hnil
        rw [List.isEmpty_iff.1 hnil, List.append_nil] at hrest
        refine ⟨hrest, ?_⟩
        rw [← hrest]
        exact mt List.isEmpty_iff.2 hne
      · cases hnone
  · rintro ⟨hall, hne⟩
    rw [hall] at hrest ⊢
    have hnil : rest = [] := List.append_right_eq_self.1 hrest
    rw [if_neg (mt List.isEmpty_iff.1 hne), if_pos (List.isEmpty_iff.2 hnil)]

/-- An exact match is a match at the start that covers all of a text, and some. -/
theorem exactMatch_eq_ok_iff :
    g.exactMatch text = some (.ok e) ↔
      ∃ m, g.attempt (.start text) = some (.success m) ∧ m.matched = text ∧ text ≠ [] ∧
        e = .ofMatch m := by
  rw [exactMatch]
  cases hattempt : g.attempt (.start text) with
  | none => simp
  | some o =>
    cases o with
    | failure _ | absent _ _ => simp
    | success m =>
      have hcomplete :=
        incomplete?_eq_none_iff (Matcher.matchIn_stands g.rules g.matcher _ _ hattempt).2
      rw [Cursor.rest_start] at hcomplete
      rw [Option.map_some]
      cases hincomplete : incomplete? (.start text) m with
      | none =>
        obtain ⟨hmatched, hne⟩ := hcomplete.1 hincomplete
        simp [hincomplete, hmatched, hne, eq_comm]
      | some f =>
        have hnot : ¬ (m.matched = text ∧ text ≠ []) := by
          rw [← hcomplete, hincomplete]
          simp
        simp only [hincomplete]
        constructor
        · intro h
          cases h
        · rintro ⟨m', hm', hmatched, hne, _⟩
          cases hm'
          exact absurd ⟨hmatched, hne⟩ hnot

/-- If the scan makes its first attempt at the start, it finds the exact match and nothing else. -/
theorem findMatches_of_exactMatch (hexact : g.exactMatch text = some (.ok e))
    (hfirst : Scan.candidate g.matcher (.start text) = .start text) :
    g.findMatches text = some [e] ∧ e.matched = text := by
  obtain ⟨m, hattempt, hmatched, hne, rfl⟩ := exactMatch_eq_ok_iff.1 hexact
  refine ⟨?_, hmatched⟩
  obtain ⟨next, hmoves⟩ := (Matcher.matchIn_stands g.rules g.matcher).exists_moves hattempt
  have hend : next.rest = [] := by
    have hrest := hmoves.rest_eq
    rw [hmatched, Cursor.rest_start] at hrest
    exact List.append_right_eq_self.1 hrest.symm
  have hfound : Scan.advance g (.start text) = some (.found m next) := by
    apply Scan.advance_eq_found
    · rw [hfirst]
      exact hattempt
    · rw [hmatched]
      exact hne
    · rw [hfirst]
      exact hmoves
  obtain ⟨ch, rest, rfl⟩ := List.exists_cons_of_ne_nil hne
  have hlast : Scan.collect (fun _ => .emit) (rest.length + 1) ⟨g, next⟩ = some [] := by
    rw [Scan.collect, Scan.next, Scan.search_nil _ hend]
    rfl
  rw [findMatches, Scan.toList_eq_search, scan, Scan.search, hfound]
  exact congrArg (Option.map (Extracted.ofMatch m :: ·)) hlast

/-- One match that covers the text is the exact match, and the first attempt finds it. -/
theorem exactMatch_of_findMatches (hfind : g.findMatches text = some [e])
    (hmatched : e.matched = text) :
    g.exactMatch text = some (.ok e) ∧
      Scan.candidate g.matcher (.start text) = .start text := by
  rw [findMatches, Scan.toList_eq_search, scan] at hfind
  simp only at hfind
  cases hsearch : Scan.search g ((Cursor.start text).rest.length + 1) (.start text) with
  | none =>
    rw [hsearch] at hfind
    cases hfind
  | some result =>
    obtain ⟨found, next⟩ := result
    rw [hsearch] at hfind
    cases found with
    | none => cases hfind
    | some m =>
      obtain ⟨_, _, hlist⟩ := Option.map_eq_some_iff.1 hfind
      obtain ⟨rfl, _⟩ := List.cons.inj hlist
      replace hmatched : m.matched = text := hmatched
      obtain ⟨place, hreach, hattempt, hne, hmoves⟩ := Scan.search_eq_found _ hsearch
      have hcandidate := (Scan.candidatePlace_candidate g.matcher (.start text)).reaches
      -- The match covers the whole text, so it begins at the start, and the candidate is before it.
      have hstart : place = .start text := by
        apply (hcandidate.trans hreach).eq_start
        rw [← hmatched]
        exact hmoves.isPrefix
      rw [hstart] at hattempt hreach
      refine ⟨exactMatch_eq_ok_iff.2 ⟨m, hattempt, hmatched, ?_, rfl⟩, hreach.antisymm hcandidate⟩
      rw [← hmatched]
      exact hne

/-- Whether the scan finds an exact match depends on where it makes its first attempt. -/
theorem findMatches_iff :
    g.findMatches text = some [e] ∧ e.matched = text ↔
      g.exactMatch text = some (.ok e) ∧ Scan.candidate g.matcher (.start text) = .start text :=
  ⟨fun h => exactMatch_of_findMatches h.1 h.2, fun h => findMatches_of_exactMatch h.1 h.2⟩

/-- The matcher does not fail where there is an exact match. -/
theorem not_failsAt_of_exactMatch (h : g.exactMatch text = some (.ok e)) :
    ¬ g.matcher.FailsAt (.start text) := by
  obtain ⟨m, hattempt, _⟩ := exactMatch_eq_ok_iff.1 h
  intro hfails
  obtain ⟨f, hf⟩ := attempt_of_failsAt hfails
  rw [hf] at hattempt
  cases hattempt

/-- The exact match and the scan agree about a text unless the exact match begins with white space
that the outermost sequence does not announce.  If a grammar announces white space, they agree about
every text. -/
theorem exactMatch_iff_findMatches (g : Grammar) (text : Text) :
    (((∃ e, g.exactMatch text = some (.ok e)) ↔
        ∃ e, g.findMatches text = some [e] ∧ e.matched = text) ↔
      ∀ e front, g.exactMatch text = some (.ok e) → g.matcher.requiredFront? = some front →
        g.matcher.skipsLeadingBlanks = false → front <+: text) ∧
    (g.matcher.AnnouncesBlanks →
      ∀ e, g.exactMatch text = some (.ok e) ↔
        g.findMatches text = some [e] ∧ e.matched = text) := by
  simp only [findMatches_iff]
  refine ⟨⟨?_, ?_⟩, ?_⟩
  · intro hagree e front hexact hfront hskips
    obtain ⟨_, _, hfirst⟩ := hagree.1 ⟨e, hexact⟩
    obtain ⟨_, _, _, hne, _⟩ := exactMatch_eq_ok_iff.1 hexact
    exact Scan.isPrefix_of_candidate_eq_self hfront hskips hne hfirst
  · intro hstands
    constructor
    · rintro ⟨e, hexact⟩
      exact ⟨e, hexact, Scan.candidate_eq_self (not_failsAt_of_exactMatch hexact) fun front =>
        hstands e front hexact⟩
    · rintro ⟨e, hexact, _⟩
      exact ⟨e, hexact⟩
  · intro hblanks e
    constructor
    · intro hexact
      have hplace := Scan.candidatePlace_candidate g.matcher (.start text)
      exact ⟨hexact, (hplace.failsUpTo hblanks).eq_self (not_failsAt_of_exactMatch hexact)⟩
    · rintro ⟨hexact, _⟩
      exact hexact

/-- A sequence that does not skip white space around one that does. -/
def nestedBlanks : Grammar :=
  .ofMatcher (.sequence "outer" [.take "a" (.sequence "inner" [.take "b" (.literal "x")] .relaxed)]
    .strict)

/-- The exact match begins with the white space, and the scan begins behind it. -/
theorem nestedBlanks_disagrees :
    ¬ ((∃ e, nestedBlanks.exactMatch "  x".toList = some (.ok e)) ↔
      ∃ e, nestedBlanks.findMatches "  x".toList = some [e] ∧ e.matched = "  x".toList) := by
  intro hagree
  obtain ⟨e, hfind, hmatched⟩ := hagree.1 ⟨_, rfl⟩
  have hscan : (nestedBlanks.findMatches "  x".toList).map (List.map Extracted.matched) =
      some ["x".toList] := by
    decide +kernel
  rw [hfind, Option.map_some, List.map_singleton, hmatched] at hscan
  exact absurd hscan (by decide)

end Grammar

end Excerpt
