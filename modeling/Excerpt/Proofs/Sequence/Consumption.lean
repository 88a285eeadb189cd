import Excerpt.Proofs.Matcher.Tree
import Excerpt.Proofs.Sequence.Course
import Mathlib.Data.List.Induction

/-!
# What a sequence consumes

The text of a sequence is that of its parts in their order, with the white space before each of them
that the sequence skips.  A part without text contributes nothing, nor does the white space before
it, so a sequence ends where its last part with some text ends.

* `Laid` : parts stand one after another in this way, from one place to another.
* `Course.Runs.laid` : the parts of a course do.
* `consumes_in_order` says it of whole sequences.
* `matchIn_skipBlanks` : a sequence that skips white space does the same behind it as before it.
-/

namespace Excerpt

/-! ## Parts one after another -/

/-- The white space at a place, if it is skipped there. -/
def Cursor.gap (c : Cursor) (skipsBlanks : Bool) : Text :=
  if skipsBlanks then c.rest.takeWhile Text.isBlank else []

theorem Cursor.moves_gap (c : Cursor) (skipsBlanks : Bool) :
    c.Moves (c.gap skipsBlanks) (c.ready skipsBlanks) := by
  cases skipsBlanks with
  | false => exact .refl c
  | true => exact c.moves_skipBlanks

/-- There is no more white space to skip where it has been skipped. -/
theorem Cursor.gap_ready (c : Cursor) (skipsBlanks : Bool) :
    (c.ready skipsBlanks).gap skipsBlanks = [] := by
  have hmoves := (c.ready skipsBlanks).moves_gap skipsBlanks
  rw [ready_ready] at hmoves
  exact hmoves.eq_nil_of_length_le (Nat.le_refl _)

/-- From one place to another there stand some matches, each behind all of the white space that is
skipped before it, and nothing else.  The text is what stands between the places. -/
inductive Laid (skipsBlanks : Bool) : Cursor → List Match → Text → Cursor → Prop
  | nil (c : Cursor) : Laid skipsBlanks c [] [] c
  | cons {c place next last : Cursor} {m : Match} {ms : List Match} {t : Text}
    (hplace : c.Moves (c.gap skipsBlanks) place) (hoffset : m.offset = place.offset)
    (hmoves : place.Moves m.matched next) (hrest : Laid skipsBlanks next ms t last) :
    Laid skipsBlanks c (m :: ms) (c.gap skipsBlanks ++ m.matched ++ t) last

namespace Laid

variable {skipsBlanks : Bool} {c place next last : Cursor} {m : Match} {ms : List Match} {t : Text}

theorem moves (h : Laid skipsBlanks c ms t last) : c.Moves t last := by
  induction h with
  | nil c => exact .refl c
  | cons hplace _ hmoves _ ih => exact (hplace.trans hmoves).trans ih

theorem concat (h : Laid skipsBlanks c ms t last)
    (hplace : last.Moves (last.gap skipsBlanks) place) (hoffset : m.offset = place.offset)
    (hmoves : place.Moves m.matched next) :
    Laid skipsBlanks c (ms ++ [m]) (t ++ (last.gap skipsBlanks ++ m.matched)) next := by
  induction h with
  | nil c =>
    have hlaid := Laid.cons hplace hoffset hmoves (.nil next)
    rwa [List.append_nil] at hlaid
  | cons hplace' hoffset' hmoves' _ ih =>
    have hlaid := Laid.cons hplace' hoffset' hmoves' (ih hplace)
    rwa [← List.append_assoc] at hlaid

/-- The place behind the last match is where it ends. -/
theorem offset_eq_endOffset (h : Laid skipsBlanks c ms t last) (hlast : ms.getLast? = some m) :
    last.offset = m.endOffset := by
  induction h with
  | nil c => cases hlast
  | @cons c place next last first ms t _ hoffset hmoves hrest ih =>
    cases ms with
    | cons second ms => exact ih (by rwa [List.getLast?_cons_cons] at hlast)
    | nil =>
      have hm : first = m := Option.some.inj hlast
      cases hrest
      rw [hmoves.offset_eq, Match.endOffset, ← hm, hoffset]

/-- Where white space is skipped no match begins with it. -/
theorem not_isBlank (h : Laid skipsBlanks c ms t last) (hskips : skipsBlanks = true)
    (hm : m ∈ ms) {ch : Char} (hfirst : m.matched.head? = some ch) : Text.isBlank ch = false := by
  induction h with
  | nil c => cases hm
  | @cons c place next last first ms t hplace _ hmoves _ ih =>
    rcases List.mem_cons.1 hm with rfl | hm
    · have hready : place = c.ready skipsBlanks := hplace.eq (c.moves_gap skipsBlanks)
      have hgap : place.gap skipsBlanks = [] := by
        rw [hready]
        exact c.gap_ready skipsBlanks
      obtain ⟨rest, hmatched⟩ := List.head?_eq_some_iff.1 hfirst
      rw [Cursor.gap, hskips, if_pos rfl, hmoves.rest_eq, hmatched] at hgap
      simpa using hgap
    · exact ih hm

/-- Between the places there is some text if the first match has some. -/
theorem ne_nil (h : Laid skipsBlanks c (m :: ms) t last) (hne : m.matched ≠ []) : t ≠ [] := by
  cases h
  simp [hne]

end Laid

/-! ## The parts of a course -/

namespace Match

/-- The matches with some text. -/
def texts (ms : List Match) : List Match := ms.filter fun m => !m.matched.isEmpty

variable {m : Match} {ms : List Match}

theorem mem_texts_iff : m ∈ texts ms ↔ m ∈ ms ∧ m.matched ≠ [] := by
  simp [texts]

theorem texts_concat_of_nil (hempty : m.matched = []) : texts (ms ++ [m]) = texts ms := by
  simp [texts, hempty]

theorem texts_concat_of_ne_nil (hne : m.matched ≠ []) : texts (ms ++ [m]) = texts ms ++ [m] := by
  simp [texts, hne]

end Match

namespace Course

variable {attempt : Matcher → Attempt} {skipsBlanks : Bool} {start : Cursor} {course : Course}

/-- The parts of a course with some text stand one after another, from where it began to where it
has come. -/
theorem Runs.laid (hstands : ∀ m, (attempt m).Stands) (h : course.Runs attempt skipsBlanks start) :
    ∃ t, Laid skipsBlanks start (Match.texts course.parts) t (course.place skipsBlanks start) := by
  induction h with
  | nil => exact ⟨[], .nil start⟩
  | @concat course step result _ hstep ih =>
    obtain ⟨t, hlaid⟩ := ih
    rw [parts_concat, place_concat]
    cases hpart : result.part? with
    | none =>
      rw [Option.toList_none, List.append_nil]
      exact ⟨t, hlaid⟩
    | some part =>
      rw [Option.toList_some, Option.elim_some]
      obtain ⟨hoffset, hprefix⟩ := hstep.stands hstands hpart
      by_cases hempty : part.matched = []
      · rw [behindPart_of_nil hempty, Match.texts_concat_of_nil hempty]
        exact ⟨t, hlaid⟩
      · have hmoves := behindPart_moves hprefix hempty
        rw [Match.texts_concat_of_ne_nil hempty]
        exact ⟨_, hlaid.concat (Cursor.moves_gap _ _) hoffset hmoves⟩

end Course

namespace Matcher

/-- What a sequence consumes: its parts with some text, each behind the white space that is skipped
before it, up to the end of the last one.  Where white space is skipped no part begins with it. -/
theorem consumes_in_order {rules : Rules} {id : String} {steps : List (Step Matcher)}
    {config : Config} {c : Cursor} {m : Match}
    (h : (sequence id steps config).matchIn rules c = some (.success m)) :
    (∃ last, Laid config.skipsBlanks c (Match.texts m.children) m.matched last) ∧
      (config.skipsBlanks = true → ∀ part ∈ m.children, ∀ ch, part.matched.head? = some ch →
        Text.isBlank ch = false) ∧
      ∀ part, (Match.texts m.children).getLast? = some part → m.endOffset = part.endOffset := by
  have hm := (matchIn_stands rules _ _ _ h).1
  rw [matchIn_sequence_eq_some_iff] at h
  cases h with
  | @through course hruns hsteps =>
    obtain ⟨t, hlaid⟩ := hruns.laid (matchIn_stands rules)
    have hmatched : (course.toMatch id config.skipsBlanks c).matched = t :=
      hlaid.moves.textTo_eq
    rw [hmatched]
    refine ⟨⟨_, hlaid⟩, ?_, ?_⟩
    · intro hskips part hpart ch hfirst
      have hne : part.matched ≠ [] := by
        intro hnil
        rw [hnil] at hfirst
        cases hfirst
      exact hlaid.not_isBlank hskips (Match.mem_texts_iff.2 ⟨hpart, hne⟩) hfirst
    · intro part hlast
      rw [Match.endOffset, hm, hmatched, ← hlaid.moves.offset_eq]
      exact hlaid.offset_eq_endOffset hlast

/-- A list of words in brackets, with a mark behind them that need not be there. -/
def bracketedWords : List (Step Matcher) :=
  [.take "_open" (.literal "["), .take "words" (.repetition (.literal "x") none 0 true),
    .take "_close" (.literal "]"), .take "mark" (.optional (.literal "!") none)]

theorem consumes_in_order_bracketedWords :
    ∃ found, (sequence "bracketed" bracketedWords .relaxed).matchIn []
        (Cursor.ofString "  [  ] ?") = some (.success found) ∧
      (∃ last, Laid true (Cursor.ofString "  [  ] ?") (Match.texts found.children) found.matched
        last) ∧
      (∀ part ∈ found.children, ∀ ch, part.matched.head? = some ch → Text.isBlank ch = false) ∧
      ∀ part, (Match.texts found.children).getLast? = some part →
        found.endOffset = part.endOffset := by
  have hmatches : ((sequence "bracketed" bracketedWords .relaxed).matchIn []
      (Cursor.ofString "  [  ] ?")).any Outcome.isMatch = true := by
    decide +kernel
  obtain ⟨o, ho, hsuccess⟩ := (Option.any_eq_true _ _).1 hmatches
  cases o with
  | failure _ | absent _ _ => cases hsuccess
  | success found =>
    obtain ⟨hlaid, hblank, hend⟩ := consumes_in_order ho
    exact ⟨found, ho, hlaid, hblank rfl, hend⟩

end Matcher

/-! ## White space before a sequence -/

/-- The outcome that an attempt at `offset` has if this is its outcome behind a gap.  The gap
belongs to the text of a match that has some. -/
def Outcome.behindGap (gap : Text) (offset : Nat) : Outcome → Outcome
  | .success m =>
    .success
      { m with
        matched := if m.matched.isEmpty then [] else gap ++ m.matched
        offset := offset }
  | .failure f => .failure (.mk f.id offset f.context f.reason)
  | .absent id _ => .absent id offset

namespace Course

variable {attempt : Matcher → Attempt} {c : Cursor}

theorem behindPart_skipBlanks {part : Match} (hne : part.matched ≠ []) :
    behindPart true c.skipBlanks part = behindPart true c part := by
  have hready : c.skipBlanks.ready true = c.ready true := Cursor.skipBlanks_skipBlanks c
  rw [behindPart, behindPart, hready, if_neg (mt List.isEmpty_iff.1 hne),
    if_neg (mt List.isEmpty_iff.1 hne)]

/-- Until there is some text a sequence stays where it began, and from then on it makes no
difference whether white space was skipped before. -/
theorem place_skipBlanks (course : Course) (c : Cursor) :
    (Match.texts course.parts = [] ∧ course.place true c = c ∧
        course.place true c.skipBlanks = c.skipBlanks) ∨
      (Match.texts course.parts ≠ [] ∧
        course.place true c.skipBlanks = course.place true c) := by
  simp only [place]
  induction course.parts using List.reverseRecOn with
  | nil => exact Or.inl ⟨rfl, rfl, rfl⟩
  | append_singleton parts part ih =>
    rw [List.foldl_append, List.foldl_append]
    by_cases hempty : part.matched = []
    · rw [Match.texts_concat_of_nil hempty]
      simp only [List.foldl_cons, List.foldl_nil, behindPart_of_nil hempty]
      exact ih
    · rw [Match.texts_concat_of_ne_nil hempty]
      refine Or.inr ⟨by simp, ?_⟩
      simp only [List.foldl_cons, List.foldl_nil]
      rcases ih with ⟨_, hstays, hstays'⟩ | ⟨_, hsame⟩
      · rw [hstays, hstays', behindPart_skipBlanks hempty]
      · rw [hsame]

/-- Steps are tried at the same places, whether or not white space was skipped before. -/
theorem ready_skipBlanks (course : Course) (c : Cursor) :
    course.ready true c.skipBlanks = course.ready true c := by
  rw [ready, ready]
  rcases course.place_skipBlanks c with ⟨_, hstays, hstays'⟩ | ⟨_, hsame⟩
  · rw [hstays, hstays']
    exact Cursor.skipBlanks_skipBlanks c
  · rw [hsame]

/-- The courses of a sequence are the same, whether or not white space was skipped before. -/
theorem runs_skipBlanks_iff {course : Course} :
    course.Runs attempt true c.skipBlanks ↔ course.Runs attempt true c := by
  constructor
  · intro h
    induction h with
    | nil => exact .nil
    | concat _ hstep ih =>
      rw [ready_skipBlanks] at hstep
      exact ih.concat hstep
  · intro h
    induction h with
    | nil => exact .nil
    | concat _ hstep ih =>
      rw [← ready_skipBlanks] at hstep
      exact ih.concat hstep

/-- The match of a course with the white space before it, if it has some text. -/
theorem toMatch_skipBlanks (hstands : ∀ m, (attempt m).Stands) {course : Course}
    (h : course.Runs attempt true c.skipBlanks) (id : String) :
    Outcome.success (course.toMatch id true c) =
      (Outcome.success (course.toMatch id true c.skipBlanks)).behindGap (c.gap true) c.offset := by
  have htext : c.textTo (course.place true c) =
      if (c.skipBlanks.textTo (course.place true c.skipBlanks)).isEmpty then []
      else c.gap true ++ c.skipBlanks.textTo (course.place true c.skipBlanks) := by
    rcases course.place_skipBlanks c with ⟨_, hstays, hstays'⟩ | ⟨htexts, hsame⟩
    · rw [hstays, hstays', (Cursor.Moves.refl c).textTo_eq,
        (Cursor.Moves.refl c.skipBlanks).textTo_eq]
      rfl
    · obtain ⟨t, hlaid⟩ := h.laid hstands
      obtain ⟨first, rest, hfirst⟩ := List.exists_cons_of_ne_nil htexts
      have hmem : first ∈ Match.texts course.parts := hfirst ▸ List.mem_cons_self
      rw [hfirst] at hlaid
      have hne : t ≠ [] := hlaid.ne_nil (Match.mem_texts_iff.1 hmem).2
      have hmoves := hlaid.moves
      have hwhole := (c.moves_gap true).trans hmoves
      rw [hsame] at hmoves hwhole
      rw [hsame, hmoves.textTo_eq, hwhole.textTo_eq, if_neg (mt List.isEmpty_iff.1 hne)]
  rw [toMatch, htext]
  rfl

end Course

namespace Matcher

/-- A sequence that skips white space does the same in front of white space as behind it, but that
the white space belongs to its text, if that is not empty. -/
theorem matchIn_skipBlanks (rules : Rules) (id : String) (steps : List (Step Matcher))
    (c : Cursor) :
    (sequence id steps .relaxed).matchIn rules c =
      ((sequence id steps .relaxed).matchIn rules c.skipBlanks).map
        (Outcome.behindGap (c.gap true) c.offset) := by
  apply Option.ext
  intro o
  rw [Option.map_eq_some_iff, matchIn_sequence_eq_some_iff]
  simp only [matchIn_sequence_eq_some_iff]
  constructor
  · intro h
    cases h with
    | @through course hruns hsteps =>
      have hruns' := Course.runs_skipBlanks_iff.2 hruns
      have hmatch := Course.toMatch_skipBlanks (matchIn_stands rules) hruns' id
      exact ⟨_, .through hruns' hsteps, hmatch.symm⟩
    | @stopped course step rest reason hruns hsteps hstep =>
      have hruns' := Course.runs_skipBlanks_iff.2 hruns
      have hready : course.ready true c.skipBlanks = course.ready true c :=
        course.ready_skipBlanks c
      refine ⟨_, .stopped hruns' hsteps ?_, rfl⟩
      exact hready.symm ▸ hstep
  · rintro ⟨o', h, rfl⟩
    cases h with
    | @through course hruns hsteps =>
      have hruns' := Course.runs_skipBlanks_iff.1 hruns
      rw [show Config.relaxed.skipsBlanks = true from rfl] at hruns
      have hmatch := Course.toMatch_skipBlanks (matchIn_stands rules) hruns id
      exact hmatch ▸ .through hruns' hsteps
    | @stopped course step rest reason hruns hsteps hstep =>
      have hruns' := Course.runs_skipBlanks_iff.1 hruns
      have hready : course.ready true c.skipBlanks = course.ready true c :=
        course.ready_skipBlanks c
      exact .stopped hruns' hsteps (hready ▸ hstep)

end Matcher

end Excerpt
