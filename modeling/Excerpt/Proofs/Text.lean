import Excerpt.Text.Basic
import Mathlib.Data.List.TakeWhile

/-!
# Fronts, first occurrences and slices of a text

The facts about plain text that the proofs about cursors, matchers and scans rest on.

* `utf8ByteSize_ofList` : the byte length of a text is that of the string.
* `stripFront?_isSome_iff` : a known text can be taken off exactly where it stands.
* `exists_eq_before_append` and `not_prefix_of_before` : `before pattern` ends at the first place
  where `pattern` stands, and at the end of the text if there is none.
* `exists_eq_trimEnd_append` and `not_isBlank_of_trimEnd` : `trimEnd` leaves out the white space at
  the end, and nothing else.
* `slice?_append` : cutting a text at two byte offsets succeeds at the borders of its parts.
-/

namespace Excerpt.Text

/-! ## Byte lengths -/

theorem utf8ByteSize_ofList (t : Text) : (String.ofList t).utf8ByteSize = byteLength t := by
  induction t with
  | nil => rfl
  | cons c t ih => simp [String.ofList_cons, ih]

theorem byteLength_eq_zero_iff {t : Text} : byteLength t = 0 ↔ t = [] := by
  cases t with
  | nil => simp
  | cons c rest =>
    have hpos : 0 < c.utf8Size := Char.utf8Size_pos c
    rw [byteLength_cons]
    exact iff_of_false (by omega) (List.cons_ne_nil c rest)

/-! ## Fronts -/

theorem stripFront?_isSome_iff {front t : Text} : (stripFront? front t).isSome ↔ front <+: t := by
  rw [Option.isSome_iff_exists]
  constructor
  · rintro ⟨rest, hrest⟩
    exact ⟨rest, (stripFront?_eq_some_iff.1 hrest).symm⟩
  · rintro ⟨rest, hrest⟩
    exact ⟨rest, stripFront?_eq_some_iff.2 hrest.symm⟩

@[simp] theorem takeBytes_append (front back : Text) :
    takeBytes (byteLength front) (front ++ back) = front := by
  induction front with
  | nil =>
    cases back with
    | nil => rfl
    | cons c back =>
      have hpos : 0 < c.utf8Size := Char.utf8Size_pos c
      have hne : ¬ c.utf8Size ≤ 0 := by omega
      simp [takeBytes, hne]
  | cons c front ih => simp [takeBytes, ih]

/-! ## First occurrences -/

/-- Behind `before pattern` the pattern stands, or the text is at its end. -/
theorem exists_eq_before_append (pattern t : Text) :
    ∃ rest, t = before pattern t ++ rest ∧ (rest = [] ∨ pattern <+: rest) := by
  induction t with
  | nil => exact ⟨[], rfl, Or.inl rfl⟩
  | cons c t ih =>
    rw [before]
    split
    · rename_i hfront
      exact ⟨c :: t, rfl, Or.inr (stripFront?_isSome_iff.1 hfront)⟩
    · obtain ⟨rest, hrest, hstands⟩ := ih
      refine ⟨rest, ?_, hstands⟩
      rw [List.cons_append, ← hrest]

theorem before_eq_nil {pattern t : Text} (h : pattern <+: t) : before pattern t = [] := by
  cases t with
  | nil => rfl
  | cons c t =>
    rw [before, if_pos (stripFront?_isSome_iff.2 h)]

theorem isPrefix_of_before_eq_nil {pattern t : Text} (h : before pattern t = [])
    (hne : t ≠ []) : pattern <+: t := by
  obtain ⟨rest, hrest, hstands⟩ := exists_eq_before_append pattern t
  rw [h, List.nil_append] at hrest
  subst hrest
  exact hstands.resolve_left hne

/-- The pattern stands at no place that `before pattern` passes over. -/
theorem not_prefix_of_before {pattern passed behind : Text} :
    ∀ {front : Text}, before pattern (front ++ behind) = front ++ passed → passed ≠ [] →
      ¬ pattern <+: behind
  | [], hbefore, hpassed, hfront => by
    cases behind with
    | nil => exact hpassed hbefore.symm
    | cons c behind =>
      rw [List.nil_append, List.nil_append, before, if_pos (stripFront?_isSome_iff.2 hfront)]
        at hbefore
      exact hpassed hbefore.symm
  | c :: front, hbefore, hpassed, hfront => by
    rw [List.cons_append, List.cons_append, before] at hbefore
    split at hbefore
    · cases hbefore
    · exact not_prefix_of_before (List.cons.inj hbefore).2 hpassed hfront

/-! ## White space -/

/-- What `trimEnd` leaves out is white space. -/
theorem exists_eq_trimEnd_append (t : Text) :
    ∃ blanks, t = trimEnd t ++ blanks ∧ ∀ c ∈ blanks, isBlank c = true := by
  refine ⟨(t.reverse.takeWhile isBlank).reverse, ?_, ?_⟩
  · rw [trimEnd, ← List.reverse_append, List.takeWhile_append_dropWhile, List.reverse_reverse]
  · intro c hc
    exact List.mem_takeWhile_imp (List.mem_reverse.1 hc)

/-- `trimEnd` ends with a character that is no white space. -/
theorem not_isBlank_of_trimEnd {t front : Text} {c : Char} (h : trimEnd t = front ++ [c]) :
    isBlank c = false := by
  have hrev : t.reverse.dropWhile isBlank = c :: front.reverse := by
    rw [trimEnd] at h
    rw [← List.reverse_reverse (t.reverse.dropWhile isBlank), h]
    simp
  have hhead := List.head?_dropWhile_not isBlank t.reverse
  rw [hrev] at hhead
  simpa using hhead

/-- White space from the front on ends before a character that is none. -/
theorem exists_eq_takeWhile_append {c : Char} (h : isBlank c = false) (front rest : Text) :
    ∃ passed, front = (front ++ c :: rest).takeWhile isBlank ++ passed := by
  induction front with
  | nil => exact ⟨[], by simp [h]⟩
  | cons ch front ih =>
    rw [List.cons_append, List.takeWhile_cons]
    cases isBlank ch with
    | true =>
      obtain ⟨passed, hpassed⟩ := ih
      exact ⟨passed, congrArg (ch :: ·) hpassed⟩
    | false => exact ⟨ch :: front, rfl⟩

/-! ## Slices by bytes -/

theorem dropBytes?_append (front back : Text) :
    dropBytes? (byteLength front) (front ++ back) = some back := by
  induction front with
  | nil => cases back <;> rfl
  | cons c front ih =>
    have hpos : 0 < c.utf8Size := Char.utf8Size_pos c
    have hne : byteLength (c :: front) ≠ 0 := by rw [byteLength_cons]; omega
    rw [List.cons_append, dropBytes?, if_neg hne, byteLength_cons, if_pos (Nat.le_add_right _ _),
      Nat.add_sub_cancel_left, ih]

theorem takeBytes?_append (front back : Text) :
    takeBytes? (byteLength front) (front ++ back) = some front := by
  induction front with
  | nil => cases back <;> rfl
  | cons c front ih =>
    have hpos : 0 < c.utf8Size := Char.utf8Size_pos c
    have hne : byteLength (c :: front) ≠ 0 := by rw [byteLength_cons]; omega
    rw [List.cons_append, takeBytes?, if_neg hne, byteLength_cons, if_pos (Nat.le_add_right _ _),
      Nat.add_sub_cancel_left, ih, Option.map_some]

/-- A slice at the borders of the parts of a text is the part between them. -/
theorem slice?_append (front middle back : Text) :
    slice? (front ++ middle ++ back) (byteLength front) (byteLength front + byteLength middle) =
      some middle := by
  rw [slice?, if_pos (Nat.le_add_right _ _), Nat.add_sub_cancel_left, List.append_assoc,
    dropBytes?_append, Option.bind_some, takeBytes?_append]

/-- A text can be sliced behind a front of it. -/
theorem slice?_of_isPrefix {front t : Text} (h : front <+: t) :
    slice? t 0 (byteLength front) = some front ∧
      slice? t (byteLength front) (byteLength t) = some (t.drop front.length) := by
  obtain ⟨back, rfl⟩ := h
  refine ⟨?_, ?_⟩
  · have hslice := slice?_append [] front back
    rwa [List.nil_append, byteLength_nil, Nat.zero_add] at hslice
  · have hslice := slice?_append front back []
    rw [List.append_nil, ← byteLength_append] at hslice
    rw [List.drop_left]
    exact hslice

/-- An offset inside a character is the border of no slice. -/
example : slice? ['é', 'a'] 2 3 = some ['a'] ∧ slice? ['é', 'a'] 1 3 = none := by decide

end Excerpt.Text
