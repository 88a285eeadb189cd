import Excerpt.Proofs.Matcher.RequiredFront
import Excerpt.Proofs.Matcher.Standing
import Excerpt.Scan

/-!
# The next attempt of a scan

`Scan.candidate` passes over places without an attempt.  `CandidatePlace` lists the three ways in
which it finds its place: at the next required front, at the white space before it, or at the next
character that a match can begin with.  `CandidatePlace.failsUpTo` says that the matcher fails at
once at every place passed over.

For this the white space has to be announced: if a sequence on the way to the required front skips
white space, the scan has to back up over it (`Matcher.AnnouncesBlanks`).  To back up is enough:
white space that begins before the place ends before the required front too, where that does not
stand yet (`Cursor.PassesOver.skipBlanks`).

`Advances` lists what one attempt at a candidate comes to.
-/

namespace Excerpt

/-! ## Passing over -/

/-- The matcher fails at once at every place from one cursor on and before a later one. -/
inductive Matcher.FailsUpTo (m : Matcher) : Cursor → Cursor → Prop
  | here (c : Cursor) : FailsUpTo m c c
  | ahead {c later : Cursor} {ch : Char} {rest : Text} (hrest : c.rest = ch :: rest)
    (hfails : m.FailsAt c) (hahead : FailsUpTo m c.advance later) : FailsUpTo m c later

theorem Matcher.failsUpTo_of_moves {m : Matcher} {later : Cursor} {t : Text} :
    ∀ {c : Cursor}, c.Moves t later →
      (∀ front passed place, t = front ++ passed → passed ≠ [] → c.Moves front place →
        m.FailsAt place) → m.FailsUpTo c later := by
  induction t with
  | nil =>
    intro c hmoves _
    rw [hmoves.eq_of_nil]
    exact .here c
  | cons ch t ih =>
    intro c hmoves hfails
    have hhere : c.Moves [ch] c.advance := Cursor.moves_advance hmoves.rest_eq
    have hnext : c.advance.Moves t later := Cursor.Moves.right hmoves hhere
    refine .ahead hmoves.rest_eq (hfails [] _ c rfl (List.cons_ne_nil ch t) (.refl c)) ?_
    refine ih hnext fun front passed place hsplit hne hplace => ?_
    exact hfails (ch :: front) passed place (by rw [hsplit, List.cons_append]) hne
      (hhere.trans hplace)

theorem Matcher.FailsUpTo.eq_self {m : Matcher} {c later : Cursor} (h : m.FailsUpTo c later)
    (hnot : ¬ m.FailsAt c) : later = c := by
  cases h with
  | here => rfl
  | ahead _ hfails _ => exact absurd hfails hnot

/-- The place lies before the next one from `c` on where the pattern stands. -/
def Cursor.PassesOver (pattern : Text) (c place : Cursor) : Prop :=
  ∃ front passed, Text.before pattern c.rest = front ++ passed ∧ passed ≠ [] ∧ c.Moves front place

namespace Cursor.PassesOver

variable {pattern : Text} {c place : Cursor}

theorem not_isPrefix (h : PassesOver pattern c place) : ¬ pattern <+: place.rest := by
  obtain ⟨front, passed, hsplit, hne, hmoves⟩ := h
  rw [hmoves.rest_eq] at hsplit
  exact Text.not_prefix_of_before hsplit hne

/-- White space that begins before that in front of the pattern also ends before it. -/
theorem skipBlanks {front passed : Text}
    (hsplit : Text.trimEnd (Text.before pattern c.rest) = front ++ passed) (hne : passed ≠ [])
    (hmoves : c.Moves front place) : PassesOver pattern c place.skipBlanks := by
  obtain ⟨blanks, hblanks, _⟩ := Text.exists_eq_trimEnd_append (Text.before pattern c.rest)
  obtain ⟨rest, hrest, _⟩ := Text.exists_eq_before_append pattern c.rest
  obtain ⟨inner, last, rfl⟩ : ∃ inner last, passed = inner ++ [last] :=
    ⟨passed.dropLast, passed.getLast hne, (List.dropLast_concat_getLast hne).symm⟩
  rw [hsplit] at hblanks
  have hlast : Text.isBlank last = false := by
    rw [← List.append_assoc] at hsplit
    exact Text.not_isBlank_of_trimEnd hsplit
  have hplace : place.rest = inner ++ last :: (blanks ++ rest) := by
    have hsame : front ++ place.rest = front ++ (inner ++ last :: (blanks ++ rest)) := by
      rw [← hmoves.rest_eq, hrest, hblanks]
      simp
    exact List.append_cancel_left hsame
  have hskip := Cursor.moves_skipBlanks place
  obtain ⟨left, hleft⟩ := Text.exists_eq_takeWhile_append hlast inner (blanks ++ rest)
  rw [← hplace] at hleft
  generalize place.rest.takeWhile Text.isBlank = inside at hskip hleft
  subst hleft
  refine ⟨front ++ inside, left ++ last :: blanks, ?_, by simp, hmoves.trans hskip⟩
  rw [hblanks]
  simp

end Cursor.PassesOver

/-- A pattern that is not found stands at no place ahead. -/
theorem Cursor.Reaches.not_isPrefix_of_before_eq_self {pattern : Text} {c place : Cursor}
    (h : c.Reaches place) (hall : Text.before pattern c.rest = c.rest) (hne : pattern ≠ []) :
    ¬ pattern <+: place.rest := by
  obtain ⟨t, hmoves⟩ := h
  by_cases hend : place.rest = []
  · rw [hend, List.prefix_nil]
    exact hne
  · have hover : PassesOver pattern c place :=
      ⟨t, place.rest, hall.trans hmoves.rest_eq, hend, hmoves⟩
    exact hover.not_isPrefix

/-! ## Candidates -/

namespace Scan

/-- How the next candidate is found. -/
inductive CandidatePlace (m : Matcher) (c : Cursor) : Cursor → Prop
  /-- At the next required front, unless a match begins with the white space before it. -/
  | front {front : Text} {place : Cursor} (hfront : m.requiredFront? = some front)
    (hne : front ≠ []) (hplace : place.rest = [] ∨ m.skipsLeadingBlanks = false)
    (hmoves : c.Moves (Text.before front c.rest) place) : CandidatePlace m c place
  /-- At the white space before the next required front. -/
  | blanks {front : Text} {place : Cursor} (hfront : m.requiredFront? = some front)
    (hne : front ≠ []) (hskips : m.skipsLeadingBlanks = true)
    (hmoves : c.Moves (Text.trimEnd (Text.before front c.rest)) place) : CandidatePlace m c place
  /-- At the next character that a match can begin with. -/
  | character {place : Cursor} (hnone : ∀ front, m.requiredFront? = some front → front = [])
    (hmoves : c.Moves (c.rest.takeWhile fun ch => !m.canStartWith ch) place) :
    CandidatePlace m c place

/-- The text before the next required front can be taken without the white space at its end. -/
theorem exists_consume_trimEnd (c : Cursor) (front : Text) :
    ∃ place, c.consume (Text.trimEnd (c.skipTo front).1) = .ok place := by
  obtain ⟨blanks, hblanks, _⟩ := Text.exists_eq_trimEnd_append (Text.before front c.rest)
  have hmoves := Cursor.moves_skipTo c front
  rw [hblanks] at hmoves
  obtain ⟨place, hplace⟩ :=
    Cursor.exists_moves_of_isPrefix ((List.prefix_append _ blanks).trans hmoves.isPrefix)
  exact ⟨place, Cursor.consume_eq_ok_iff.2 hplace⟩

theorem candidatePlace_skipWhile {m : Matcher} {c : Cursor}
    (hnone : ∀ front, m.requiredFront? = some front → front = []) :
    CandidatePlace m c (c.skipWhile (fun ahead => ahead.all fun ch => !m.canStartWith ch) 1).2 := by
  have hmoves := Cursor.moves_skipWhile c (fun ahead => ahead.all fun ch => !m.canStartWith ch) 1
  rw [Cursor.skippable_one] at hmoves
  exact .character hnone hmoves

theorem candidatePlace_candidate (m : Matcher) (c : Cursor) :
    CandidatePlace m c (candidate m c) := by
  rw [candidate]
  split
  · rename_i first front hfront
    have hmoves := Cursor.moves_skipTo c (first :: front)
    simp only
    split
    · rename_i hplace
      rw [Bool.or_eq_true, Cursor.exhausted_iff, Bool.not_eq_true'] at hplace
      exact .front hfront (List.cons_ne_nil first front) hplace hmoves
    · rename_i hplace
      rw [Bool.or_eq_true, not_or, Bool.not_eq_true', Bool.not_eq_false] at hplace
      obtain ⟨place, htaken⟩ := exists_consume_trimEnd c (first :: front)
      rw [htaken]
      exact .blanks hfront (List.cons_ne_nil first front) hplace.2
        (Cursor.consume_eq_ok_iff.1 htaken)
  · rename_i hnone
    apply candidatePlace_skipWhile
    intro front hfront
    cases front with
    | nil => rfl
    | cons first front => exact absurd hfront (hnone first front)

theorem CandidatePlace.reaches {m : Matcher} {c place : Cursor} (h : CandidatePlace m c place) :
    c.Reaches place := by
  cases h with
  | front _ _ _ hmoves | blanks _ _ _ hmoves | character _ hmoves => exact ⟨_, hmoves⟩

/-- Every place passed over on the way to the candidate is one where the matcher fails. -/
theorem CandidatePlace.failsUpTo {m : Matcher} {c place : Cursor}
    (hblanks : m.AnnouncesBlanks) (h : CandidatePlace m c place) : m.FailsUpTo c place := by
  cases h with
  | @front front _ hfront hne hplace hmoves =>
    refine Matcher.failsUpTo_of_moves hmoves fun left passed here hsplit hpassed hhere => ?_
    have hover : Cursor.PassesOver front c here := ⟨left, passed, hsplit, hpassed, hhere⟩
    refine Matcher.failsAt_of_requiredFront? m hfront hover.not_isPrefix fun hskips => ?_
    rcases hplace with hend | hnoBlanks
    · have hall := hmoves.rest_eq
      rw [hend, List.append_nil] at hall
      have hahead : c.Reaches here.skipBlanks := ⟨_, hhere.trans (Cursor.moves_skipBlanks here)⟩
      exact hahead.not_isPrefix_of_before_eq_self hall.symm hne
    · rw [hblanks front hfront hne hskips] at hnoBlanks
      cases hnoBlanks
  | @blanks front _ hfront hne hskips hmoves =>
    refine Matcher.failsUpTo_of_moves hmoves fun left passed here hsplit hpassed hhere => ?_
    obtain ⟨behind, hbehind, _⟩ := Text.exists_eq_trimEnd_append (Text.before front c.rest)
    have hover : Cursor.PassesOver front c here := by
      refine ⟨left, passed ++ behind, ?_, by simp [hpassed], hhere⟩
      rw [hbehind, hsplit, List.append_assoc]
    have hoverBlanks := Cursor.PassesOver.skipBlanks hsplit hpassed hhere
    exact Matcher.failsAt_of_requiredFront? m hfront hover.not_isPrefix fun _ =>
      hoverBlanks.not_isPrefix
  | character hnone hmoves =>
    refine Matcher.failsUpTo_of_moves hmoves fun left passed here hsplit hpassed hhere => ?_
    obtain ⟨ch, passed, rfl⟩ := List.exists_cons_of_ne_nil hpassed
    have hrejects : m.canStartWith ch = false := by
      have hmem : ch ∈ c.rest.takeWhile fun ch => !m.canStartWith ch := by
        rw [hsplit]
        exact List.mem_append_right _ List.mem_cons_self
      simpa using List.mem_takeWhile_imp hmem
    have hnext : here.next? = some ch := by
      rw [hsplit] at hmoves
      exact Cursor.next?_eq_some_iff.2 ⟨_, (Cursor.Moves.right hmoves hhere).rest_eq⟩
    exact Matcher.failsAt_of_not_canStartWith m hnext hrejects

/-! ## Attempts -/

/-- What an attempt at a candidate comes to. -/
inductive Advances (g : Grammar) (place : Cursor) : Option Advance → Prop
  | finished (hend : place.rest = []) : Advances g place (some .finished)
  | stuck (hmore : place.rest ≠ []) (hnone : g.attempt place = none) : Advances g place none
  | found {m : Match} {next : Cursor} (hmore : place.rest ≠ [])
    (hattempt : g.attempt place = some (.success m)) (hne : m.matched ≠ [])
    (hmoves : place.Moves m.matched next) : Advances g place (some (.found m next))
  | missed {o : Outcome} (hmore : place.rest ≠ []) (hattempt : g.attempt place = some o)
    (hempty : ∀ m, o = .success m → m.matched = []) :
    Advances g place (some (.missed place.advance))

theorem advances_advance (g : Grammar) (c : Cursor) :
    Advances g (candidate g.matcher c) (advance g c) := by
  rw [advance]
  generalize candidate g.matcher c = place
  split
  · rename_i hend
    exact .finished (Cursor.exhausted_iff.1 hend)
  · rename_i hmore
    replace hmore : place.rest ≠ [] := mt Cursor.exhausted_iff.2 hmore
    cases hattempt : g.attempt place with
    | none => exact .stuck hmore hattempt
    | some o =>
      cases o with
      | failure _ | absent _ _ => exact .missed hmore hattempt (fun m hm => by cases hm)
      | success m =>
        rw [Option.map_some]
        simp only
        split
        · rename_i hempty
          refine .missed hmore hattempt fun m' hm' => ?_
          cases hm'
          exact List.isEmpty_iff.1 hempty
        · rename_i hne
          obtain ⟨next, hmoves⟩ :=
            (Matcher.matchIn_stands g.rules g.matcher).exists_moves hattempt
          rw [Cursor.consume_eq_ok_iff.2 hmoves]
          exact .found hmore hattempt (mt List.isEmpty_iff.2 hne) hmoves

end Scan

end Excerpt
