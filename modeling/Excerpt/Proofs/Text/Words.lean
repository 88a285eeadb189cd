import Excerpt.Text.Basic

/-!
# Words

`Text.words` reads a text character by character and gathers the word that it is in.

* `HasWords` : what the words of a text are, said of the text alone: its longest runs free of white
  space, in their order.  All that is left out is white space.
* `words_eq_iff` : these are what `words` answers.
-/

namespace Excerpt.Text

/-- The words of a text, in their order.  A word is as long as it can be: behind it the text goes on
with white space, or is at its end. -/
inductive HasWords : Text → List Text → Prop
  | nil : HasWords [] []
  | blank {c : Char} {rest : Text} {ws : List Text} (hblank : isBlank c = true)
    (hrest : HasWords rest ws) : HasWords (c :: rest) ws
  | word {w rest : Text} {ws : List Text} (hne : w ≠ []) (hword : ∀ c ∈ w, isBlank c = false)
    (hend : ∀ c ∈ rest.head?, isBlank c = true) (hrest : HasWords rest ws) :
    HasWords (w ++ rest) (w :: ws)

variable {t w : Text} {ws : List Text}

theorem HasWords.of_mem (h : HasWords t ws) (hmem : w ∈ ws) :
    w ≠ [] ∧ ∀ c ∈ w, isBlank c = false := by
  induction h with
  | nil => cases hmem
  | blank _ _ ih => exact ih hmem
  | word hne hword _ _ ih =>
    rcases List.mem_cons.1 hmem with rfl | hrest
    · exact ⟨hne, hword⟩
    · exact ih hrest

/-- The word being read is made of what has been gathered and of what is left. -/
theorem hasWords_wordsFrom (t : Text) : ∀ pending : Text, (∀ c ∈ pending, isBlank c = false) →
    HasWords (pending.reverse ++ t) (wordsFrom pending t) := by
  induction t with
  | nil =>
    intro pending hpending
    rw [wordsFrom]
    cases pending with
    | nil => exact .nil
    | cons c pending =>
      exact .word (by simp) (fun c' hc' => hpending c' (List.mem_reverse.1 hc')) (by simp) .nil
  | cons c t ih =>
    intro pending hpending
    rw [wordsFrom]
    cases hblank : isBlank c with
    | true =>
      have hrest : HasWords (c :: t) (wordsFrom [] t) := .blank hblank (ih [] (by simp))
      cases pending with
      | nil => exact hrest
      | cons c' pending =>
        exact .word (by simp) (fun c' hc' => hpending c' (List.mem_reverse.1 hc'))
          (by simp [hblank]) hrest
    | false =>
      have hrest := ih (c :: pending) (List.forall_mem_cons.2 ⟨hblank, hpending⟩)
      rwa [List.reverse_cons, List.append_assoc] at hrest

/-- A run free of white space is gathered. -/
theorem wordsFrom_append (hword : ∀ c ∈ w, isBlank c = false) (pending t : Text) :
    wordsFrom pending (w ++ t) = wordsFrom (w.reverse ++ pending) t := by
  induction w generalizing pending with
  | nil => rfl
  | cons c w ih =>
    obtain ⟨hblank, hword⟩ := List.forall_mem_cons.1 hword
    rw [List.cons_append, wordsFrom, hblank, if_neg Bool.false_ne_true, ih hword,
      List.reverse_cons, List.append_assoc]
    rfl

theorem words_blank {c : Char} (hblank : isBlank c = true) (t : Text) :
    words (c :: t) = words t := by
  rw [words, wordsFrom, if_pos hblank]
  rfl

theorem HasWords.words_eq (h : HasWords t ws) : words t = ws := by
  induction h with
  | nil => rfl
  | blank hblank _ ih => rw [words_blank hblank, ih]
  | @word w rest ws hne hword hend _ ih =>
    have hgathered : w.reverse.isEmpty = false := by simpa using hne
    rw [words, wordsFrom_append hword, List.append_nil]
    cases rest with
    | nil =>
      rw [wordsFrom, hgathered, if_neg Bool.false_ne_true, List.reverse_reverse, ← ih]
      rfl
    | cons c rest =>
      have hblank : isBlank c = true := hend c rfl
      rw [wordsFrom, if_pos hblank, hgathered, if_neg Bool.false_ne_true, List.reverse_reverse,
        ← ih, words_blank hblank]
      rfl

theorem words_eq_iff : words t = ws ↔ HasWords t ws := by
  constructor
  · rintro rfl
    exact hasWords_wordsFrom t [] (by simp)
  · exact HasWords.words_eq

/-- Words of two lines. -/
example : words " a $b\n\tc".toList = [['a'], ['$', 'b'], ['c']] := by decide

end Excerpt.Text
