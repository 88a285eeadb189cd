import Excerpt.Proofs.Cursor
import Excerpt.Proofs.Nesting

/-!
# Attempts at balanced delimiters

`attemptBalanced` takes two slices of the text: the match, and what is between its delimiters.

* `attemptBalanced_of_front` : the first slice is always in range, because a balanced front is a
  front of the text.  What becomes of the attempt is up to the second one.
* `exists_attemptBalanced` : the second slice is in range as well if the content rules count the
  opening delimiter.  The balanced front is then enclosed in the two delimiters, and the closing one
  takes the one byte that is left out.
* `attemptBalanced_eq_none_iff` : under other rules the match is over with the opening delimiter, and
  what is between the delimiters would have to end before it begins.
* `encloses_of_attemptBalanced` : if there is an outcome, it is of the form that it should have.
-/

namespace Excerpt

/-! ## Slices -/

namespace Text

/-- The text between two delimiters is a slice of the text with them. -/
theorem slice?_enclosed (d : Delimiters) (inner : Text) :
    slice? (d.opener :: (inner ++ [d.closer])) d.opener.utf8Size
      (byteLength (d.opener :: (inner ++ [d.closer])) - 1) = some inner := by
  have hslice := slice?_append [d.opener] inner [d.closer]
  have hlast : byteLength (d.opener :: (inner ++ [d.closer])) - 1 =
      byteLength [d.opener] + byteLength inner := by
    rw [byteLength_cons, byteLength_cons, byteLength_append, byteLength_cons, byteLength_nil,
      d.utf8Size_closer]
    omega
  rw [hlast]
  exact hslice

/-- Without its last byte, an opening delimiter alone ends before it begins. -/
theorem slice?_opener (d : Delimiters) :
    slice? [d.opener] d.opener.utf8Size (byteLength [d.opener] - 1) = none := by
  have hsize : d.opener.utf8Size = 1 := by cases d <;> rfl
  rw [byteLength_cons, byteLength_nil, hsize]
  exact if_neg (Nat.not_succ_le_zero 0)

end Text

/-! ## Outcomes -/

/-- A failure, or a match that is enclosed in the two delimiters and has the text between them as
its value. -/
def Outcome.Encloses (d : Delimiters) : Outcome → Prop
  | .success found =>
    ∃ inner, found.matched = d.opener :: (inner ++ [d.closer]) ∧
      found.value = .string (String.ofList inner)
  | .failure _ => True
  | .absent _ _ => False

variable {d : Delimiters} {content : Content} {c : Cursor}

theorem attemptBalanced_of_not_opener (h : ¬ [d.opener] <+: c.rest) :
    attemptBalanced d content c =
      some (.fail (Matcher.balancedId d content) c.offset (.expectedOpener d.opener)) := by
  have hnot : ¬ c.startsWith [d.opener] = true := mt Cursor.startsWith_iff.1 h
  rw [attemptBalanced, if_neg hnot]

theorem attemptBalanced_of_unbalanced (h : [d.opener] <+: c.rest)
    (hfront : content.balancedFront? d c.rest = none) :
    attemptBalanced d content c =
      some (.fail (Matcher.balancedId d content) c.offset .unbalanced) := by
  rw [attemptBalanced, if_pos (Cursor.startsWith_iff.2 h), hfront]

/-- The match is the balanced front, if what is between the delimiters can be sliced out of it. -/
theorem attemptBalanced_of_front {front : Text} (h : [d.opener] <+: c.rest)
    (hfront : content.balancedFront? d c.rest = some front) :
    attemptBalanced d content c =
      (Text.slice? front d.opener.utf8Size (Text.byteLength front - 1)).map fun inner =>
        .success (.leaf (Matcher.balancedId d content) front c.offset
          (.string (String.ofList inner))) := by
  have hmatched := (Text.slice?_of_isPrefix (Content.balancedFront?_isPrefix hfront)).1
  rw [attemptBalanced, if_pos (Cursor.startsWith_iff.2 h), hfront]
  simp only [hmatched, Option.bind_some]

/-- An outcome is a failure, or a match of the balanced front. -/
theorem attemptBalanced_cases {o : Outcome} (h : attemptBalanced d content c = some o) :
    o = .fail (Matcher.balancedId d content) c.offset (.expectedOpener d.opener) ∨
      o = .fail (Matcher.balancedId d content) c.offset .unbalanced ∨
      ∃ front inner, [d.opener] <+: c.rest ∧ content.balancedFront? d c.rest = some front ∧
        o = .success (.leaf (Matcher.balancedId d content) front c.offset
          (.string (String.ofList inner))) := by
  by_cases hstands : [d.opener] <+: c.rest
  · right
    cases hfront : content.balancedFront? d c.rest with
    | none =>
      rw [attemptBalanced_of_unbalanced hstands hfront] at h
      cases h
      exact Or.inl rfl
    | some front =>
      rw [attemptBalanced_of_front hstands hfront] at h
      obtain ⟨inner, _, rfl⟩ := Option.map_eq_some_iff.1 h
      exact Or.inr ⟨front, inner, hstands, rfl, rfl⟩
  · rw [attemptBalanced_of_not_opener hstands] at h
    cases h
    exact Or.inl rfl

/-- If the opening delimiter counts, there is an outcome. -/
theorem exists_attemptBalanced (hcounts : content.countsOpener d = true) (c : Cursor) :
    ∃ o, attemptBalanced d content c = some o ∧ o.Encloses d := by
  by_cases hstands : [d.opener] <+: c.rest
  · cases hfront : content.balancedFront? d c.rest with
    | none => exact ⟨_, attemptBalanced_of_unbalanced hstands hfront, trivial⟩
    | some front =>
      obtain ⟨rest, hrest⟩ := hstands
      obtain ⟨inner, rfl⟩ := Content.exists_eq_enclosed hcounts (hrest ▸ hfront)
      have hattempt := attemptBalanced_of_front ⟨rest, hrest⟩ hfront
      rw [Text.slice?_enclosed, Option.map_some] at hattempt
      exact ⟨_, hattempt, inner, rfl, rfl⟩
  · exact ⟨_, attemptBalanced_of_not_opener hstands, trivial⟩

/-- A slice is out of range exactly at an opening delimiter that does not count. -/
theorem attemptBalanced_eq_none_iff :
    attemptBalanced d content c = none ↔
      [d.opener] <+: c.rest ∧ content.countsOpener d = false := by
  constructor
  · intro h
    refine ⟨?_, Bool.eq_false_iff.2 fun hcounts => ?_⟩
    · by_contra hstands
      rw [attemptBalanced_of_not_opener hstands] at h
      cases h
    · obtain ⟨o, ho, _⟩ := exists_attemptBalanced hcounts c
      rw [ho] at h
      cases h
  · rintro ⟨hstands, hcounts⟩
    obtain ⟨rest, hrest⟩ := hstands
    have hfront : content.balancedFront? d c.rest = some [d.opener] := by
      rw [← hrest]
      exact Content.balancedFront?_of_not_counts hcounts rest
    rw [attemptBalanced_of_front ⟨rest, hrest⟩ hfront, Text.slice?_opener, Option.map_none]

/-- A match is enclosed in the two delimiters, under any content rules. -/
theorem encloses_of_attemptBalanced {o : Outcome} (h : attemptBalanced d content c = some o) :
    o.Encloses d := by
  cases hcounts : content.countsOpener d with
  | true =>
    obtain ⟨o', ho', hencloses⟩ := exists_attemptBalanced hcounts c
    rw [h] at ho'
    cases ho'
    exact hencloses
  | false =>
    rcases attemptBalanced_cases h with rfl | rfl | ⟨_, _, hstands, _⟩
    · trivial
    · trivial
    · rw [attemptBalanced_eq_none_iff.2 ⟨hstands, hcounts⟩] at h
      cases h

/-- There is a match exactly at an opening delimiter that counts, if there is a balanced front. -/
theorem exists_attemptBalanced_success_iff :
    (∃ found, attemptBalanced d content c = some (.success found)) ↔
      [d.opener] <+: c.rest ∧ content.countsOpener d = true ∧
        ∃ front, content.balancedFront? d c.rest = some front := by
  constructor
  · rintro ⟨found, h⟩
    obtain h' | h' | ⟨front, _, hstands, hfront, _⟩ := attemptBalanced_cases h
    · cases h'
    · cases h'
    · refine ⟨hstands, eq_true_of_ne_false fun hcounts => ?_, front, hfront⟩
      rw [attemptBalanced_eq_none_iff.2 ⟨hstands, hcounts⟩] at h
      cases h
  · rintro ⟨hstands, hcounts, front, hfront⟩
    obtain ⟨o, ho, _⟩ := exists_attemptBalanced hcounts c
    have hattempt := attemptBalanced_of_front hstands hfront
    rw [ho] at hattempt
    obtain ⟨inner, _, hmatch⟩ := Option.map_eq_some_iff.1 hattempt.symm
    exact ⟨_, ho.trans (congrArg some hmatch.symm)⟩

end Excerpt
