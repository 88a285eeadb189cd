import Excerpt.Proofs.Text
import Excerpt.Proofs.Text.Words
import Excerpt.Template

/-!
# Templates without a grammar

What a template means, said directly and without the matchers that read it.  `cut` takes a template
apart at its placeholders, from the left, and `Text.splitAtBlanks` the text between them at its white
space; `direct` makes definitions of the parts.

* `placeholderFront?_eq_some_iff` : what counts as a placeholder.
* `leftmost_of_firstPlaceholder?` : the template is cut at its leftmost placeholders.
* `eq_of_cut` : the parts make up the template.
* `Text.splitAtBlanks_eq_words` : what splitting leaves are the words that `Text.words` reads.
* `beforeOpening?_eq` : an opening in the text behind the last placeholder is found at its first
  occurrence.
-/

namespace Excerpt

namespace Text

/-- A text that occurs stands behind what comes before it. -/
theorem isPrefix_behind_before {pattern t : Text} (h : occursIn pattern t = true) :
    ∃ rest, t = before pattern t ++ (pattern ++ rest) := by
  induction t with
  | nil =>
    rw [occursIn, List.isEmpty_iff] at h
    exact ⟨[], by rw [h]; rfl⟩
  | cons c t ih =>
    rw [before]
    split
    · rename_i hfront
      obtain ⟨rest, hrest⟩ := stripFront?_isSome_iff.1 hfront
      exact ⟨rest, hrest.symm⟩
    · rename_i hfront
      rw [occursIn, Bool.eq_false_iff.2 hfront, Bool.false_or] at h
      obtain ⟨rest, hrest⟩ := ih h
      exact ⟨rest, by rw [List.cons_append, ← hrest]⟩

/-- The parts of a text that are left when it is split at every white-space character, without the
empty ones. -/
def splitAtBlanks (t : Text) : List Text := (t.splitOnP isBlank).filter fun part => !part.isEmpty

theorem splitAtBlanks_blank {c : Char} (hblank : isBlank c = true) (t : Text) :
    splitAtBlanks (c :: t) = splitAtBlanks t := by
  have hsplit : List.splitOnP isBlank (c :: t) = [] :: List.splitOnP isBlank t :=
    List.splitOnP_append_cons_of_forall_mem (List.forall_mem_nil _) c hblank t
  rw [splitAtBlanks, hsplit]
  rfl

/-- Splitting leaves the longest runs free of white space. -/
theorem HasWords.splitAtBlanks_eq {t : Text} {ws : List Text} (h : HasWords t ws) :
    splitAtBlanks t = ws := by
  induction h with
  | nil => rfl
  | blank hblank _ ih => rw [splitAtBlanks_blank hblank, ih]
  | @word w rest ws hne hword hend _ ih =>
    cases rest with
    | nil =>
      rw [List.append_nil, splitAtBlanks, List.splitOnP_eq_singleton hword, ← ih]
      simp [splitAtBlanks, hne]
    | cons c rest =>
      have hblank : isBlank c = true := hend c rfl
      rw [splitAtBlanks, List.splitOnP_append_cons_of_forall_mem hword c hblank, ← ih,
        splitAtBlanks_blank hblank]
      simp [splitAtBlanks, hne]

theorem splitAtBlanks_eq_words (t : Text) : splitAtBlanks t = words t :=
  (words_eq_iff.1 rfl).splitAtBlanks_eq

end Text

namespace Template

open Text

/-! ## Placeholders -/

/-- The placeholder of a name. -/
def placeholderText (name : Text) : Text := opening.toList ++ name ++ ['\x7d']

theorem byteLength_placeholderText (name : Text) :
    byteLength (placeholderText name) = 2 + byteLength name + 1 := by
  rw [placeholderText, byteLength_append, byteLength_append]
  rfl

/-- The name of the placeholder that a text begins with, and the text behind it. -/
def placeholderFront? (t : Text) : Option (Text × Text) :=
  (stripFront? opening.toList t).bind fun inner =>
    match inner.takeWhile isStepChar, inner.dropWhile isStepChar with
    | ch :: name, '\x7d' :: behind => some (ch :: name, behind)
    | _, _ => none

/-- A placeholder has a name of one or more word characters. -/
theorem placeholderFront?_eq_some_iff {t name behind : Text} :
    placeholderFront? t = some (name, behind) ↔
      (name ≠ [] ∧ ∀ ch ∈ name, isStepChar ch = true) ∧ t = placeholderText name ++ behind := by
  rw [placeholderFront?, Option.bind_eq_some_iff]
  constructor
  · rintro ⟨inner, hinner, h⟩
    have hsplit : inner.takeWhile isStepChar ++ inner.dropWhile isStepChar = inner :=
      List.takeWhile_append_dropWhile
    split at h
    · rename_i ch name' behind' hname hbehind
      cases h
      refine ⟨⟨List.cons_ne_nil _ _, fun ch hch => ?_⟩, ?_⟩
      · rw [← hname] at hch
        exact List.mem_takeWhile_imp hch
      · rw [hname, hbehind] at hsplit
        rw [stripFront?_eq_some_iff.1 hinner, ← hsplit]
        simp [placeholderText]
    · cases h
  · rintro ⟨⟨hne, hname⟩, rfl⟩
    refine ⟨name ++ '\x7d' :: behind, stripFront?_eq_some_iff.2 ?_, ?_⟩
    · simp [placeholderText]
    · -- the closing brace is no word character, so the longest run is the name
      have hclose : isStepChar '\x7d' = false := by decide
      rw [List.takeWhile_append_of_pos hname, List.dropWhile_append_of_pos hname,
        List.takeWhile_cons_of_neg (by simp [hclose]),
        List.dropWhile_cons_of_neg (by simp [hclose]), List.append_nil]
      cases name with
      | nil => exact absurd rfl hne
      | cons ch name => rfl

/-- The first placeholder of a text: what comes before it, its name, and what is behind it. -/
def firstPlaceholder? : Text → Option (Text × Text × Text)
  | [] => none
  | ch :: rest =>
    match placeholderFront? (ch :: rest) with
    | some (name, behind) => some ([], name, behind)
    | none => (firstPlaceholder? rest).map fun found => (ch :: found.1, found.2)

theorem eq_of_firstPlaceholder? {t front name behind : Text}
    (h : firstPlaceholder? t = some (front, name, behind)) :
    t = front ++ (placeholderText name ++ behind) := by
  induction t generalizing front with
  | nil => cases h
  | cons ch t ih =>
    rw [firstPlaceholder?] at h
    cases hfront : placeholderFront? (ch :: t) with
    | some found =>
      obtain ⟨name', behind'⟩ := found
      rw [hfront] at h
      cases h
      exact (placeholderFront?_eq_some_iff.1 hfront).2
    | none =>
      rw [hfront] at h
      obtain ⟨⟨front, _, _⟩, hfound, hsame⟩ := Option.map_eq_some_iff.1 h
      cases hsame
      rw [List.cons_append, ← ih hfound]

/-- No placeholder begins before the first one. -/
theorem leftmost_of_firstPlaceholder? {t front name behind u v : Text}
    (h : firstPlaceholder? t = some (front, name, behind)) (hfront : front = u ++ v)
    (hbefore : v ≠ []) : placeholderFront? (v ++ (placeholderText name ++ behind)) = none := by
  induction t generalizing front u with
  | nil => cases h
  | cons ch t ih =>
    have hwhole := eq_of_firstPlaceholder? h
    rw [firstPlaceholder?] at h
    cases hhere : placeholderFront? (ch :: t) with
    | some found =>
      rw [hhere] at h
      cases h
      exact absurd (List.append_eq_nil_iff.1 hfront.symm).2 hbefore
    | none =>
      rw [hhere] at h
      obtain ⟨⟨front', _, _⟩, hfound, hsame⟩ := Option.map_eq_some_iff.1 h
      cases hsame
      cases u with
      | nil =>
        rw [List.nil_append] at hfront
        rw [← hfront, ← hwhole, hhere]
      | cons first u => exact ih hfound (List.cons.inj hfront).2

/-- An opening that does not make a placeholder is text before the next one. -/
example :
    firstPlaceholder? "$\x7ba $\x7bb\x7d;".toList = some ("$\x7ba ".toList, ['b'], [';']) := by
  decide

theorem length_of_firstPlaceholder? {t front name behind : Text}
    (h : firstPlaceholder? t = some (front, name, behind)) : behind.length < t.length := by
  rw [eq_of_firstPlaceholder? h]
  simp [placeholderText]
  omega

/-! ## Pieces -/

/-- Literal text, and the name of the placeholder behind it. -/
structure Piece where
  text : Text
  name : Text

/-- The pieces of a template, and the text behind its last placeholder. -/
def cut (t : Text) : List Piece × Text :=
  match _found : firstPlaceholder? t with
  | none => ([], t)
  | some (front, name, behind) => (⟨front, name⟩ :: (cut behind).1, (cut behind).2)
termination_by t.length
decreasing_by all_goals exact length_of_firstPlaceholder? _found

theorem cut_of_none {t : Text} (h : firstPlaceholder? t = none) : cut t = ([], t) := by
  rw [cut]
  split
  · rfl
  · rename_i hsome
    rw [h] at hsome
    cases hsome

theorem cut_of_some {t front name behind : Text}
    (h : firstPlaceholder? t = some (front, name, behind)) :
    cut t = (⟨front, name⟩ :: (cut behind).1, (cut behind).2) := by
  rw [cut]
  split
  · rename_i hnone
    rw [h] at hnone
    cases hnone
  · rename_i hsome
    rw [h] at hsome
    cases hsome
    rfl

/-- The parts make up the template. -/
theorem eq_of_cut (t : Text) :
    t = ((cut t).1.flatMap fun piece => piece.text ++ placeholderText piece.name) ++ (cut t).2 := by
  induction hlength : t.length using Nat.strongRecOn generalizing t with
  | ind n ih =>
    cases hfirst : firstPlaceholder? t with
    | none =>
      rw [cut_of_none hfirst]
      rfl
    | some found =>
      obtain ⟨front, name, behind⟩ := found
      have hbehind := ih _ (hlength ▸ length_of_firstPlaceholder? hfirst) behind rfl
      rw [cut_of_some hfirst, List.flatMap_cons]
      simp only [List.append_assoc]
      rw [← hbehind]
      exact eq_of_firstPlaceholder? hfirst

/-! ## Openings -/

/-- What comes before the first opening of a text, if there is one. -/
def beforeOpening? : Text → Option Text
  | [] => none
  | c :: rest =>
    if opening.toList <+: c :: rest then some [] else (beforeOpening? rest).map (c :: ·)

/-- The search for an opening finds it where the first one stands. -/
theorem beforeOpening?_eq (t : Text) :
    beforeOpening? t =
      if occursIn opening.toList t then some (before opening.toList t) else none := by
  induction t with
  | nil => rfl
  | cons c t ih =>
    rw [beforeOpening?, occursIn, before]
    by_cases hfront : opening.toList <+: c :: t
    · rw [if_pos hfront, stripFront?_isSome_iff.2 hfront]
      rfl
    · have hnot : (stripFront? opening.toList (c :: t)).isSome = false :=
        Bool.eq_false_iff.2 (mt stripFront?_isSome_iff.1 hfront)
      rw [if_neg hfront, hnot, ih, Bool.false_or, if_neg Bool.false_ne_true]
      split <;> rfl

/-! ## Definitions -/

/-- The steps of words, with running names from `next` on. -/
def wordEntries (next : Nat) (words : List Text) : List (Entry Definitions) :=
  words.mapIdx fun i word => .matcher s!"_{next + i}" (.literal (String.ofList word))

/-- The definitions of pieces and of the text behind them, after the steps in `entries`.  The first
piece begins at `offset`.  Also answers the next running number, or the one at which there was an
error. -/
def compilePieces (components : Components) (template : String) (trailing : Text)
    (offset next : Nat) (entries : List (Entry Definitions)) :
    List Piece → Except GrammarError Definitions × Nat
  | [] =>
    match beforeOpening? trailing with
    | some skipped =>
      let start := offset + byteLength skipped
      (.error ⟨.malformedTemplate template, some ⟨"template", template, start, 2⟩⟩, next)
    | none =>
      let words := splitAtBlanks trailing
      (.ok ⟨some template, entries ++ wordEntries next words, none⟩, next + words.length)
  | piece :: rest =>
    let words := splitAtBlanks piece.text
    let entries := entries ++ wordEntries next words
    let next := next + words.length
    let key := String.ofList piece.name
    let start := offset + byteLength piece.text + 2
    let span : SourceSpan := ⟨"template", template, start, byteLength piece.name⟩
    match components.get? key with
    | none => (.error ⟨.unresolvedPlaceholder key, some span⟩, next)
    | some m =>
      if key ∈ entries.map Entry.name then (.error ⟨.duplicateStep key template, some span⟩, next)
      else
        compilePieces components template trailing (start + byteLength piece.name + 1) next
          (entries ++ [.matcher key m]) rest

/-- The definitions that a template describes, with running names from `next` on, and the next
running number. -/
def direct (components : Components) (next : Nat) (template : String) :
    Except GrammarError Definitions × Nat :=
  let (pieces, trailing) := cut template.toList
  compilePieces components template trailing 0 next [] pieces

end Template

end Excerpt
