import Excerpt.Text.Basic
import Mathlib.Data.List.Infix

/-!
# First fronts

A machine reads a text character by character until it is in a state that is asked for.  What it has
read then is the first front of the text with that property; it has at least one character, so the
state in which the machine begins does not count.

`isFirstFront_cons_iff` goes one character further, and `exists_isFirstFront_iff` says that there is
a first front as soon as there is any front behind which the state is asked for.
-/

namespace Excerpt.Text

variable {σ : Type} {step : σ → Char → σ} {asked : σ → Prop} {s : σ} {c : Char}
  {rest front : Text}

/-- From the state `s` on, `front` is the shortest front of `text`, of at least one character,
behind which the state is asked for. -/
structure IsFirstFront (step : σ → Char → σ) (asked : σ → Prop) (s : σ) (text front : Text) :
    Prop where
  isPrefix : front <+: text
  ne_nil : front ≠ []
  reached : asked (front.foldl step s)
  first : ∀ shorter, shorter <+: front → shorter ≠ [] → asked (shorter.foldl step s) →
    shorter = front

theorem not_isFirstFront_nil : ¬ IsFirstFront step asked s [] front :=
  fun h => h.ne_nil (List.prefix_nil.1 h.isPrefix)

/-- Behind one character the machine is done, or the front goes on from the state there. -/
theorem isFirstFront_cons_iff :
    IsFirstFront step asked s (c :: rest) front ↔
      asked (step s c) ∧ front = [c] ∨
        ¬ asked (step s c) ∧
          ∃ front', front = c :: front' ∧ IsFirstFront step asked (step s c) rest front' := by
  have hone : [c] <+: c :: rest := List.prefix_cons_inj c |>.2 List.nil_prefix
  constructor
  · rintro ⟨hstands, hne, hreached, hfirst⟩
    rcases List.prefix_cons_iff.1 hstands with rfl | ⟨front', rfl, hstands'⟩
    · exact absurd rfl hne
    · by_cases hasked : asked (step s c)
      · have hshort : [c] <+: c :: front' := List.prefix_cons_inj c |>.2 List.nil_prefix
        exact Or.inl ⟨hasked, (hfirst [c] hshort (List.cons_ne_nil c []) hasked).symm⟩
      · refine Or.inr ⟨hasked, front', rfl, hstands', ?_, hreached, ?_⟩
        · rintro rfl
          exact hasked hreached
        · intro shorter hshorter hnil hshort
          have hsame := hfirst (c :: shorter) (List.prefix_cons_inj c |>.2 hshorter)
            (List.cons_ne_nil c shorter) hshort
          exact (List.cons.inj hsame).2
  · rintro (⟨hasked, rfl⟩ | ⟨hasked, front', rfl, h⟩)
    · refine ⟨hone, List.cons_ne_nil c [], hasked, fun shorter hshorter hne _ => ?_⟩
      rcases List.prefix_cons_iff.1 hshorter with rfl | ⟨shorter', rfl, hshorter'⟩
      · exact absurd rfl hne
      · rw [List.prefix_nil.1 hshorter']
    · refine ⟨List.prefix_cons_inj c |>.2 h.isPrefix, List.cons_ne_nil c front', h.reached, ?_⟩
      intro shorter hshorter hne hshort
      rcases List.prefix_cons_iff.1 hshorter with rfl | ⟨shorter', rfl, hshorter'⟩
      · exact absurd rfl hne
      · have hnil : shorter' ≠ [] := by
          rintro rfl
          exact hasked hshort
        rw [h.first shorter' hshorter' hnil hshort]

theorem IsFirstFront.eq {text front front' : Text} (h : IsFirstFront step asked s text front)
    (h' : IsFirstFront step asked s text front') : front = front' := by
  rcases List.prefix_or_prefix_of_prefix h.isPrefix h'.isPrefix with hshorter | hshorter
  · exact h'.first front hshorter h.ne_nil h.reached
  · exact (h.first front' hshorter h'.ne_nil h'.reached).symm

theorem exists_isFirstFront_iff {text : Text} :
    (∃ front, IsFirstFront step asked s text front) ↔
      ∃ front, front <+: text ∧ front ≠ [] ∧ asked (front.foldl step s) := by
  constructor
  · rintro ⟨front, h⟩
    exact ⟨front, h.isPrefix, h.ne_nil, h.reached⟩
  · rintro ⟨front, hstands, hne, hreached⟩
    induction text generalizing front s with
    | nil => exact absurd (List.prefix_nil.1 hstands) hne
    | cons c rest ih =>
      by_cases hasked : asked (step s c)
      · exact ⟨[c], isFirstFront_cons_iff.2 (Or.inl ⟨hasked, rfl⟩)⟩
      · rcases List.prefix_cons_iff.1 hstands with rfl | ⟨front', rfl, hstands'⟩
        · exact absurd rfl hne
        · have hnil : front' ≠ [] := by
            rintro rfl
            exact hasked hreached
          obtain ⟨found, hfound⟩ := ih front' hstands' hnil hreached
          exact ⟨c :: found, isFirstFront_cons_iff.2 (Or.inr ⟨hasked, found, rfl, hfound⟩)⟩

end Excerpt.Text
