import Excerpt.Proofs.Template.Cut

/-!
# Openings in a template

Where the openings of a template stand, which of them begin a placeholder, and which are stray.  A
place in a template is given by the text in front of it.

The lemmas say what `cut` does with them:

* an opening stands in the text before the first placeholder, begins that placeholder, or stands
  behind it, but never across one of its ends (`opensAt_iff`);
* the pieces are the placeholders (`exists_placeholderAt_iff`, `names_nodup_iff`);
* the stray openings are those in the texts between placeholders (`exists_strayAt_iff`);
* those in the trailing text are the ones behind all placeholders (`trailingStrayAt_iff`).
-/

namespace Excerpt

namespace Text

/-- What comes before a text is at most what comes before any occurrence of it. -/
theorem length_before_le {pattern t front behind : Text} (h : t = front ++ (pattern ++ behind)) :
    (before pattern t).length ≤ front.length := by
  induction t generalizing front with
  | nil => exact Nat.zero_le _
  | cons c t ih =>
    rw [before]
    by_cases hhere : (stripFront? pattern (c :: t)).isSome = true
    · rw [if_pos hhere]
      exact Nat.zero_le _
    · rw [if_neg hhere]
      cases front with
      | nil =>
        have hfront : stripFront? pattern (c :: t) = some behind := stripFront?_eq_some_iff.2 h
        rw [hfront] at hhere
        exact absurd rfl hhere
      | cons first front => exact Nat.succ_le_succ (ih (List.cons.inj h).2)

end Text

namespace Template

open Text

/-! ## Places -/

/-- A name that a placeholder can have: one or more word characters. -/
def IsName (name : Text) : Prop := name ≠ [] ∧ ∀ ch ∈ name, isStepChar ch = true

/-- An opening stands behind `front`. -/
def OpensAt (t front : Text) : Prop := ∃ behind, t = front ++ (opening.toList ++ behind)

/-- The placeholder of a name stands behind `front`. -/
def PlaceholderAt (t front name : Text) : Prop :=
  IsName name ∧ ∃ behind, t = front ++ (placeholderText name ++ behind)

/-- An opening that begins no placeholder stands behind `front`. -/
def StrayAt (t front : Text) : Prop := OpensAt t front ∧ ∀ name, ¬ PlaceholderAt t front name

/-- A stray opening behind which no placeholder begins. -/
def TrailingStrayAt (t front : Text) : Prop :=
  StrayAt t front ∧
    ∀ front' name, PlaceholderAt t front' name → front'.length < front.length

theorem placeholderAt_iff_placeholderFront? {t u front name : Text} (ht : t = front ++ u) :
    PlaceholderAt t front name ↔ ∃ behind, placeholderFront? u = some (name, behind) := by
  simp only [PlaceholderAt, ht, List.append_cancel_left_eq, placeholderFront?_eq_some_iff]
  exact exists_and_left.symm

theorem PlaceholderAt.opensAt {t front name : Text} (h : PlaceholderAt t front name) :
    OpensAt t front := by
  obtain ⟨_, behind, rfl⟩ := h
  exact ⟨name ++ '\x7d' :: behind, by simp [placeholderText]⟩

theorem OpensAt.length_lt {t front : Text} (h : OpensAt t front) : front.length < t.length := by
  obtain ⟨behind, rfl⟩ := h
  have hopening : opening.toList.length = 2 := rfl
  simp only [List.length_append, hopening]
  omega

theorem placeholderAt_append_left {t u front name : Text} :
    PlaceholderAt (u ++ t) (u ++ front) name ↔ PlaceholderAt t front name := by
  simp only [PlaceholderAt, List.append_assoc, List.append_cancel_left_eq]

theorem opensAt_cons_cons {ch first : Char} {t front : Text} :
    OpensAt (ch :: t) (first :: front) ↔ first = ch ∧ OpensAt t front := by
  simp only [OpensAt, List.cons_append, List.cons.injEq, exists_and_left, eq_comm]

/-- An opening at the front takes two characters. -/
theorem opensAt_cons_nil {ch : Char} {t : Text} :
    OpensAt (ch :: t) [] ↔ ch = '$' ∧ t.head? = some '\x7b' := by
  have hopening : opening.toList = ['$', '\x7b'] := rfl
  simp only [OpensAt, hopening, List.nil_append, List.cons_append, List.cons.injEq, exists_and_left]
  cases t <;> simp

/-- No opening begins in a text without a dollar sign, whatever is behind it. -/
theorem opensAt_append_of_not_mem {t u front : Text} (h : '$' ∉ u) :
    OpensAt (u ++ t) front ↔ ∃ front', front = u ++ front' ∧ OpensAt t front' := by
  induction u generalizing front with
  | nil => simp
  | cons ch u ih =>
    rw [List.mem_cons, not_or] at h
    cases front with
    | nil => simp [opensAt_cons_nil, Ne.symm h.1]
    | cons first front =>
      rw [List.cons_append, opensAt_cons_cons, ih h.2]
      simp [and_assoc]

/-- The dollar sign of a placeholder is its first character only. -/
theorem not_mem_of_isName {name : Text} (h : IsName name) : '$' ∉ '\x7b' :: name ++ ['\x7d'] := by
  have hdollar : isStepChar '$' = false := by decide
  intro hmem
  simp only [List.cons_append, List.mem_cons, List.mem_append] at hmem
  rcases hmem with hopen | hname | hclose
  · cases hopen
  · rw [h.2 _ hname] at hdollar
    cases hdollar
  · simp at hclose

/-- An opening stands in the text before a placeholder, begins the placeholder, or stands behind
it. -/
theorem opensAt_iff {front name behind f : Text} (hname : IsName name) :
    OpensAt (front ++ (placeholderText name ++ behind)) f ↔
      OpensAt front f ∨ f = front ∨
        ∃ f', f = front ++ (placeholderText name ++ f') ∧ OpensAt behind f' := by
  induction front generalizing f with
  | nil =>
    have htext : placeholderText name = '$' :: ('\x7b' :: name ++ ['\x7d']) := rfl
    have hnone : ¬ OpensAt [] f := fun h => Nat.not_lt_zero _ h.length_lt
    simp only [List.nil_append, hnone, false_or, htext]
    rw [List.cons_append]
    cases f with
    | nil => simp [opensAt_cons_nil]
    | cons first f =>
      rw [opensAt_cons_cons, opensAt_append_of_not_mem (not_mem_of_isName hname)]
      simp [and_assoc]
  | cons ch front ih =>
    rw [List.cons_append]
    cases f with
    | nil =>
      -- the placeholder does not begin with the second character of an opening
      have hhead : (front ++ (placeholderText name ++ behind)).head? = some '\x7b' ↔
          front.head? = some '\x7b' := by
        cases front <;> simp [placeholderText, opening]
      rw [opensAt_cons_nil, opensAt_cons_nil, hhead]
      simp
    | cons first f =>
      rw [opensAt_cons_cons, opensAt_cons_cons, ih]
      simp [and_or_left, and_assoc]

/-! ## The first placeholder -/

section First

variable {t front name behind : Text}

theorem isName_of_firstPlaceholder? (h : firstPlaceholder? t = some (front, name, behind)) :
    IsName name := by
  induction t generalizing front with
  | nil => cases h
  | cons ch t ih =>
    rw [firstPlaceholder?] at h
    cases hhere : placeholderFront? (ch :: t) with
    | some found =>
      rw [hhere] at h
      cases h
      exact (placeholderFront?_eq_some_iff.1 hhere).1
    | none =>
      rw [hhere] at h
      obtain ⟨⟨front', _, _⟩, hfound, hsame⟩ := Option.map_eq_some_iff.1 h
      cases hsame
      exact ih hfound

theorem not_placeholderAt_of_firstPlaceholder? (h : firstPlaceholder? t = none) (f n : Text) :
    ¬ PlaceholderAt t f n := by
  intro hplaceholder
  induction t generalizing f with
  | nil => exact Nat.not_lt_zero _ hplaceholder.opensAt.length_lt
  | cons ch t ih =>
    rw [firstPlaceholder?] at h
    cases hhere : placeholderFront? (ch :: t) with
    | some found =>
      rw [hhere] at h
      cases h
    | none =>
      rw [hhere] at h
      cases f with
      | nil =>
        obtain ⟨_, hfound⟩ := (placeholderAt_iff_placeholderFront? (List.nil_append _).symm).1
          hplaceholder
        rw [hhere] at hfound
        cases hfound
      | cons first f =>
        obtain ⟨rfl, _⟩ := opensAt_cons_cons.1 hplaceholder.opensAt
        exact ih (Option.map_eq_none_iff.1 h) f
          (placeholderAt_append_left (u := [first]).1 hplaceholder)

/-- The placeholders of a text are the first one and those behind it. -/
theorem placeholderAt_iff (h : firstPlaceholder? t = some (front, name, behind)) {f n : Text} :
    PlaceholderAt t f n ↔ (f = front ∧ n = name) ∨
      ∃ f', f = front ++ (placeholderText name ++ f') ∧ PlaceholderAt behind f' n := by
  have hname := isName_of_firstPlaceholder? h
  have ht := eq_of_firstPlaceholder? h
  have hbehind (f' : Text) :
      PlaceholderAt t (front ++ (placeholderText name ++ f')) n ↔ PlaceholderAt behind f' n := by
    rw [ht, placeholderAt_append_left, placeholderAt_append_left]
  constructor
  · intro hplaceholder
    have hopens := hplaceholder.opensAt
    rw [ht, opensAt_iff hname] at hopens
    rcases hopens with ⟨rest, hfront⟩ | rfl | ⟨f', rfl, _⟩
    · -- before the first placeholder there is none
      have hleftmost := leftmost_of_firstPlaceholder? h hfront (by simp [opening])
      rw [ht, hfront, List.append_assoc] at hplaceholder
      obtain ⟨_, hfound⟩ := (placeholderAt_iff_placeholderFront? rfl).1 hplaceholder
      rw [hleftmost] at hfound
      cases hfound
    · obtain ⟨_, hfound⟩ := (placeholderAt_iff_placeholderFront? ht).1 hplaceholder
      rw [placeholderFront?_eq_some_iff.2 ⟨hname, rfl⟩] at hfound
      cases hfound
      exact Or.inl ⟨rfl, rfl⟩
    · exact Or.inr ⟨f', rfl, (hbehind f').1 hplaceholder⟩
  · rintro (⟨rfl, rfl⟩ | ⟨f', rfl, hplaceholder⟩)
    · exact ⟨hname, behind, ht⟩
    · exact (hbehind f').2 hplaceholder

/-- The stray openings of a text are the openings before its first placeholder, and the stray ones
behind it. -/
theorem strayAt_iff (h : firstPlaceholder? t = some (front, name, behind)) {f : Text} :
    StrayAt t f ↔ OpensAt front f ∨
      ∃ f', f = front ++ (placeholderText name ++ f') ∧ StrayAt behind f' := by
  have hname := isName_of_firstPlaceholder? h
  have ht := eq_of_firstPlaceholder? h
  have hopens : OpensAt t f ↔ _ := ht ▸ opensAt_iff hname
  rw [StrayAt, hopens]
  constructor
  · rintro ⟨hbefore | rfl | ⟨f', rfl, hopens'⟩, hstray⟩
    · exact Or.inl hbefore
    · exact absurd ((placeholderAt_iff h).2 (Or.inl ⟨rfl, rfl⟩)) (hstray name)
    · exact Or.inr ⟨f', rfl, hopens', fun n hn =>
        hstray n ((placeholderAt_iff h).2 (Or.inr ⟨f', rfl, hn⟩))⟩
  · rintro (hbefore | ⟨f', rfl, hopens', hstray⟩)
    · refine ⟨Or.inl hbefore, fun n hn => ?_⟩
      have hlength := hbefore.length_lt
      rcases (placeholderAt_iff h).1 hn with ⟨rfl, _⟩ | ⟨f', rfl, _⟩
      · omega
      · simp only [List.length_append] at hlength
        omega
    · refine ⟨Or.inr (Or.inr ⟨f', rfl, hopens'⟩), fun n hn => hstray n ?_⟩
      rw [ht] at hn
      exact placeholderAt_append_left.1 (placeholderAt_append_left.1 hn)

end First

/-! ## Pieces -/

/-- The text that pieces take up. -/
def piecesText (pieces : List Piece) : Text :=
  pieces.flatMap fun piece => piece.text ++ placeholderText piece.name

theorem piecesText_cons (piece : Piece) (rest : List Piece) :
    piecesText (piece :: rest) = piece.text ++ (placeholderText piece.name ++ piecesText rest) := by
  rw [piecesText, List.flatMap_cons, List.append_assoc]
  rfl

/-- The pieces of a template are its placeholders. -/
theorem exists_placeholderAt_iff {t name : Text} :
    (∃ front, PlaceholderAt t front name) ↔ name ∈ (cut t).1.map Piece.name := by
  induction t using cut.induct with
  | case1 t hnone =>
    rw [cut_of_none hnone]
    simp [not_placeholderAt_of_firstPlaceholder? hnone]
  | case2 t front first behind hfirst ih =>
    rw [cut_of_some hfirst, List.map_cons, List.mem_cons, ← ih]
    simp only [placeholderAt_iff hfirst, exists_or, exists_and_right, exists_eq, true_and]
    refine or_congr_right ⟨?_, ?_⟩
    · rintro ⟨_, f', _, hbehind⟩
      exact ⟨f', hbehind⟩
    · rintro ⟨f', hbehind⟩
      exact ⟨_, f', rfl, hbehind⟩

/-- The names of the pieces differ if no name has two placeholders. -/
theorem names_nodup_iff {t : Text} :
    ((cut t).1.map Piece.name).Nodup ↔ ∀ front front' name,
      PlaceholderAt t front name → PlaceholderAt t front' name → front = front' := by
  induction t using cut.induct with
  | case1 t hnone =>
    rw [cut_of_none hnone]
    simp [not_placeholderAt_of_firstPlaceholder? hnone]
  | case2 t front first behind hfirst ih =>
    rw [cut_of_some hfirst, List.map_cons, List.nodup_cons, ← exists_placeholderAt_iff, ih]
    constructor
    · rintro ⟨hnew, hbehind⟩ f f' n hf hf'
      rcases (placeholderAt_iff hfirst).1 hf with ⟨rfl, rfl⟩ | ⟨g, rfl, hg⟩
      · rcases (placeholderAt_iff hfirst).1 hf' with ⟨rfl, _⟩ | ⟨g', rfl, hg'⟩
        · rfl
        · exact absurd ⟨g', hg'⟩ hnew
      · rcases (placeholderAt_iff hfirst).1 hf' with ⟨rfl, rfl⟩ | ⟨g', rfl, hg'⟩
        · exact absurd ⟨g, hg⟩ hnew
        · rw [hbehind g g' n hg hg']
    · intro hsame
      have hlater {f n : Text} (h : PlaceholderAt behind f n) :=
        (placeholderAt_iff hfirst).2 (Or.inr ⟨f, rfl, h⟩)
      refine ⟨fun ⟨f, hf⟩ => ?_, fun f f' n hf hf' => ?_⟩
      · have hplace := hsame _ _ _ ((placeholderAt_iff hfirst).2 (Or.inl ⟨rfl, rfl⟩)) (hlater hf)
        simp [placeholderText] at hplace
      · have hplace := hsame _ _ _ (hlater hf) (hlater hf')
        simpa using hplace

theorem occursIn_opening_iff {t : Text} :
    occursIn opening.toList t = true ↔ ∃ front, OpensAt t front := by
  constructor
  · intro h
    exact ⟨_, isPrefix_behind_before h⟩
  · rintro ⟨front, behind, rfl⟩
    induction front with
    | nil => rfl
    | cons ch front ih => rw [List.cons_append, occursIn, ih, Bool.or_true]

/-- The stray openings of a template are the openings in its literal text. -/
theorem exists_strayAt_iff {t : Text} :
    (∃ front, StrayAt t front) ↔
      (∃ piece ∈ (cut t).1, occursIn opening.toList piece.text = true) ∨
        occursIn opening.toList (cut t).2 = true := by
  simp only [occursIn_opening_iff]
  induction t using cut.induct with
  | case1 t hnone =>
    rw [cut_of_none hnone]
    simp [StrayAt, not_placeholderAt_of_firstPlaceholder? hnone]
  | case2 t front first behind hfirst ih =>
    rw [cut_of_some hfirst]
    simp only [strayAt_iff hfirst, exists_or, List.mem_cons, exists_eq_or_imp, or_assoc, ← ih]
    refine or_congr_right ⟨?_, ?_⟩
    · rintro ⟨_, f', _, hstray⟩
      exact ⟨f', hstray⟩
    · rintro ⟨f', hstray⟩
      exact ⟨_, f', rfl, hstray⟩

/-- The stray openings behind all placeholders are the openings in the trailing text. -/
theorem trailingStrayAt_iff {t f : Text} :
    TrailingStrayAt t f ↔ ∃ f', f = piecesText (cut t).1 ++ f' ∧ OpensAt (cut t).2 f' := by
  induction t using cut.induct generalizing f with
  | case1 t hnone =>
    rw [cut_of_none hnone]
    simp [TrailingStrayAt, StrayAt, not_placeholderAt_of_firstPlaceholder? hnone, piecesText]
  | case2 t front first behind hfirst ih =>
    rw [cut_of_some hfirst]
    simp only [piecesText_cons]
    constructor
    · rintro ⟨hstray, hlast⟩
      rcases (strayAt_iff hfirst).1 hstray with hbefore | ⟨f', rfl, hstray'⟩
      · have hlength := hlast _ _ ((placeholderAt_iff hfirst).2 (Or.inl ⟨rfl, rfl⟩))
        have hlength' := hbefore.length_lt
        omega
      · have hlast' : TrailingStrayAt behind f' := by
          refine ⟨hstray', fun g n hg => ?_⟩
          have hlength := hlast _ _ ((placeholderAt_iff hfirst).2 (Or.inr ⟨g, rfl, hg⟩))
          simpa using hlength
        obtain ⟨f'', rfl, hopens⟩ := ih.1 hlast'
        exact ⟨f'', by simp, hopens⟩
    · rintro ⟨f', rfl, hopens⟩
      obtain ⟨hstray, hlast⟩ := ih.2 ⟨f', rfl, hopens⟩
      refine ⟨(strayAt_iff hfirst).2 (Or.inr ⟨_, by simp, hstray⟩), fun g n hg => ?_⟩
      rcases (placeholderAt_iff hfirst).1 hg with ⟨rfl, _⟩ | ⟨g', rfl, hg'⟩
      · simp [placeholderText, opening]
      · have hlength := hlast _ _ hg'
        simp only [List.length_append] at hlength ⊢
        omega

end Template

end Excerpt
