import Excerpt.Proofs.Matcher.Shift
import Excerpt.Proofs.Scan.Run

/-!
# The rest of a scan

A scan goes on from where it is as if the text began there.  With `front` before the text, the next
candidate, the next match and all matches are the same but for their offsets (`candidate_after`,
`next_after`, `filtered_after`), and so are runs of any length (`yields_after_iff`).  Behind a match
the scan is therefore that of the remaining text with `front` before it (`eq_scan_after`).

`Scan.sees_ahead_only` puts this together with what holds of single attempts.
-/

namespace Excerpt

/-- No test in the grammar answers otherwise for a match whose offsets are all larger. -/
def Grammar.IgnoresOffsets (g : Grammar) : Prop := g.rules.IgnoreOffsets ∧ g.matcher.IgnoresOffsets

theorem Grammar.IgnoresOffsets.attempt_shifts {g : Grammar} (h : g.IgnoresOffsets) (front : Text) :
    Attempt.Shifts front g.attempt :=
  Matcher.matchIn_shifts h.1 h.2 front

namespace Scan

/-! ## One attempt -/

theorem candidate_after (front : Text) (m : Matcher) (c : Cursor) :
    candidate m (c.after front) = (candidate m c).after front := by
  rw [candidate, candidate]
  cases m.requiredFront? with
  | none => exact congrArg Prod.snd (Cursor.skipWhile_after front c _ 1)
  | some required =>
    cases required with
    | nil => exact congrArg Prod.snd (Cursor.skipWhile_after front c _ 1)
    | cons first required =>
      simp only [Cursor.skipTo_after, Cursor.exhausted_after, Cursor.consume_after]
      split
      · rfl
      · cases c.consume (Text.trimEnd (c.skipTo (first :: required)).1) <;> rfl

/-- What the scan does at the place with `front` before the text. -/
def Advance.after (front : Text) : Advance → Advance
  | finished => finished
  | found m next => found (m.shift (Text.byteLength front)) (next.after front)
  | missed next => missed (next.after front)

variable {g : Grammar}

theorem advance_after (hg : g.IgnoresOffsets) (front : Text) (c : Cursor) :
    advance g (c.after front) = (advance g c).map (Advance.after front) := by
  rw [advance, advance]
  simp only [candidate_after, Cursor.exhausted_after]
  generalize candidate g.matcher c = place
  split
  · rfl
  · rw [hg.attempt_shifts front place, Option.map_map, Option.map_map]
    congr 1
    funext o
    cases o with
    | failure _ | absent _ _ =>
      simp only [Function.comp_apply, Outcome.shift, Cursor.advance_after]
      rfl
    | success m =>
      simp only [Function.comp_apply, Outcome.shift, Match.matched_shift, Cursor.consume_after,
        Cursor.advance_after]
      split
      · rfl
      · cases place.consume m.matched <;> rfl

/-! ## All matches -/

/-- The same scan with `front` before the text. -/
def after (front : Text) (s : Scan) : Scan := { s with cursor := s.cursor.after front }

theorem search_after (hg : g.IgnoresOffsets) (front : Text) (fuel : Nat) (c : Cursor) :
    search g fuel (c.after front) =
      (search g fuel c).map
        (Prod.map (Option.map (Match.shift (Text.byteLength front))) (Cursor.after front)) := by
  induction fuel generalizing c with
  | zero => rfl
  | succ fuel ih =>
    rw [search, search, advance_after hg, candidate_after]
    cases advance g c with
    | none => rfl
    | some step =>
      cases step with
      | finished | found _ _ => rfl
      | missed next => exact ih next

theorem next_after {s : Scan} (hg : s.grammar.IgnoresOffsets) (front : Text) :
    (s.after front).next =
      s.next.map
        (Prod.map (Option.map (Extracted.shift (Text.byteLength front))) (Scan.after front)) := by
  have hsearch := search_after hg front (s.cursor.rest.length + 1) s.cursor
  rw [next, next]
  show (search s.grammar (s.cursor.rest.length + 1) (s.cursor.after front)).map _ = _
  rw [hsearch, Option.map_map, Option.map_map]
  congr 1
  funext result
  obtain ⟨found, last⟩ := result
  cases found with
  | none => rfl
  | some m =>
    have hm := Extracted.shift_ofMatch (Text.byteLength front) m
    simp only [Function.comp_apply, Prod.map, Option.map_some, hm]
    rfl

theorem collect_after {decide : Extracted → Decision} {front : Text}
    (hdecide : ∀ e, decide (e.shift (Text.byteLength front)) = decide e) (fuel : Nat) :
    ∀ {s : Scan}, s.grammar.IgnoresOffsets →
      collect decide fuel (s.after front) =
        (collect decide fuel s).map (List.map (Extracted.shift (Text.byteLength front))) := by
  induction fuel with
  | zero =>
    intro s _
    rfl
  | succ fuel ih =>
    intro s hg
    rw [collect, collect, next_after hg]
    cases hnext : s.next with
    | none => rfl
    | some result =>
      obtain ⟨found, s'⟩ := result
      cases found with
      | none => rfl
      | some e =>
        rw [← grammar_of_next hnext] at hg
        simp only [Option.map_some, Prod.map, hdecide, ih hg]
        cases decide e with
        | skip | emitAndStop | stop => rfl
        | emit =>
          simp only [Option.map_map]
          rfl

/-- What is kept of a scan does not depend on where the text begins, if the decisions do not. -/
theorem filtered_after {decide : Extracted → Decision} {front : Text}
    (hdecide : ∀ e, decide (e.shift (Text.byteLength front)) = decide e) {s : Scan}
    (hg : s.grammar.IgnoresOffsets) :
    (s.after front).filtered decide =
      (s.filtered decide).map (List.map (Extracted.shift (Text.byteLength front))) :=
  collect_after hdecide (s.cursor.rest.length + 1) hg

theorem toList_after {s : Scan} (hg : s.grammar.IgnoresOffsets) (front : Text) :
    (s.after front).toList =
      s.toList.map (List.map (Extracted.shift (Text.byteLength front))) :=
  filtered_after (fun _ => rfl) hg

/-! ## Runs -/

theorem yields_after_iff {s last : Scan} (hg : s.grammar.IgnoresOffsets) {front : Text}
    {es : List Extracted} :
    (s.after front).Yields es last ↔
      ∃ es' last', s.Yields es' last' ∧ es = es'.map (Extracted.shift (Text.byteLength front)) ∧
        last = last'.after front := by
  constructor
  · intro h
    generalize hs : s.after front = s' at h
    induction h generalizing s with
    | nil _ => exact ⟨[], s, .nil s, rfl, hs.symm⟩
    | cons hnext _ ih =>
      rw [← hs, next_after hg] at hnext
      obtain ⟨⟨found, next⟩, hfound, hresult⟩ := Option.map_eq_some_iff.1 hnext
      cases found with
      | none => cases hresult
      | some e =>
        cases hresult
        obtain ⟨es', last', hyields, rfl, rfl⟩ := ih ((grammar_of_next hfound).symm ▸ hg) rfl
        exact ⟨e :: es', last', .cons hfound hyields, rfl, rfl⟩
  · rintro ⟨es', last', hyields, rfl, rfl⟩
    induction hyields with
    | nil s => exact .nil _
    | cons hnext _ ih =>
      refine .cons ?_ (ih ((grammar_of_next hnext).symm ▸ hg))
      rw [next_after hg, hnext]
      rfl

/-- Behind a match, the scan is that of the remaining text, with all before it in front. -/
theorem eq_scan_after {text : Text} {es : List Extracted} {e : Extracted} {s : Scan}
    (h : (g.scan text).Yields (es ++ [e]) s) :
    ∃ front rest, text = front ++ rest ∧ Text.byteLength front = e.tree.endOffset ∧
      s = (g.scan rest).after front := by
  have htext : s.cursor.text = text := h.row.1.text_eq
  have hgrammar : s.grammar = g := h.grammar_eq
  obtain ⟨before, _, hnext⟩ := h.exists_of_concat
  obtain ⟨place, found, _, hattempt, _, rfl, hmoves⟩ := next_eq_found hnext
  have hplace : found.offset = place.offset := (Matcher.matchIn_stands _ _ place _ hattempt).1
  have hend : s.cursor.offset = found.endOffset := by
    rw [hmoves.offset_eq, Match.endOffset, hplace]
  have hread : s.cursor.offset = Text.byteLength s.cursor.read.reverse := by
    rw [s.cursor.offset_eq, Text.byteLength_reverse]
  refine ⟨s.cursor.read.reverse, s.cursor.rest, htext.symm, hread.symm.trans hend, ?_⟩
  have hcursor := Cursor.eq_start_after (c := s.cursor) rfl hread
  obtain ⟨grammar, cursor⟩ := s
  rw [after, Grammar.scan, ← hcursor, ← hgrammar]

/-- Matching and scanning see the text ahead only.  At a place inside a text an attempt answers what
it answers at the start of the remaining text, and behind a match a scan goes on as one of the
remaining text; but for the offsets, which are larger by that of the place. -/
theorem sees_ahead_only (g : Grammar) (hg : g.IgnoresOffsets) :
    (∀ (front rest : Text) (c : Cursor), c.text = front ++ rest →
      c.offset = Text.byteLength front →
      g.attempt c = (g.attempt (.start rest)).map (Outcome.shift (Text.byteLength front))) ∧
    ∀ (text : Text) (es : List Extracted) (e : Extracted) (s : Scan),
      (g.scan text).Yields (es ++ [e]) s →
      ∃ rest, Text.slice? text e.tree.endOffset (Text.byteLength text) = some rest ∧
        s.toList = (g.scan rest).toList.map (List.map (Extracted.shift e.tree.endOffset)) ∧
        ∀ more, (∃ last, s.Yields more last) ↔
          ∃ more' last', (g.scan rest).Yields more' last' ∧
            more = more'.map (Extracted.shift e.tree.endOffset) := by
  constructor
  · intro front rest c htext hoffset
    rw [Cursor.eq_start_after htext hoffset]
    exact hg.attempt_shifts front (.start rest)
  · intro text es e s h
    obtain ⟨front, rest, rfl, hend, rfl⟩ := eq_scan_after h
    have hslice := (Text.slice?_of_isPrefix (List.prefix_append front rest)).2
    rw [List.drop_left] at hslice
    rw [← hend]
    refine ⟨rest, hslice, toList_after (s := g.scan rest) hg front, fun more => ?_⟩
    constructor
    · rintro ⟨last, hyields⟩
      obtain ⟨more', last', hrest, hmore, _⟩ := (yields_after_iff hg).1 hyields
      exact ⟨more', last', hrest, hmore⟩
    · rintro ⟨more', last', hrest, hmore⟩
      exact ⟨_, (yields_after_iff hg).2 ⟨more', last', hrest, hmore, rfl⟩⟩

/-- Few letters on either side of a sign, by a rule that counts them. -/
def fewLetters : Grammar where
  matcher := .sequence "sides"
    [.take "left" (.reference 0 "few"), .take "_sign" (.literal "="),
      .take "right" (.reference 0 "few")]
    .relaxed
  config := .relaxed
  definitions := none
  rules := [("few", .guarded (.repetition (.choice [.literal "é", .literal "x"]) none 1 false)
    fun m => decide (m.children.length ≤ 2))]

/-- To count parts is not to look at offsets. -/
theorem ignoresOffsets_fewLetters : fewLetters.IgnoresOffsets := by
  constructor
  · intro rule hrule inner test hpart found k
    obtain rfl := List.mem_singleton.1 hrule
    cases hpart with
    | self => simp
    | guarded hpart =>
      cases hpart with
      | element hpart =>
        cases hpart with
        | choice hm hpart =>
          rcases List.mem_pair.1 hm with rfl | rfl <;> cases hpart
  · intro inner test hpart
    cases hpart with
    | sequence hstep hpart =>
      simp only [List.mem_cons, List.not_mem_nil, or_false, Step.take.injEq] at hstep
      rcases hstep with ⟨_, rfl⟩ | ⟨_, rfl⟩ | ⟨_, rfl⟩ <;> cases hpart

theorem sees_ahead_only_fewLetters :
    fewLetters.IgnoresOffsets ∧
      fewLetters.attempt ((Cursor.ofString "xé x=é").advanceBy 3) =
        (fewLetters.attempt (.ofString "x=é")).map (Outcome.shift 4) ∧
      ∃ e s, (fewLetters.scan "xé = éx; xéé=x, x =xé".toList).Yields [e] s ∧
        ∃ rest, Text.slice? "xé = éx; xéé=x, x =xé".toList e.tree.endOffset
            (Text.byteLength "xé = éx; xéé=x, x =xé".toList) = some rest ∧
          s.toList =
            (fewLetters.scan rest).toList.map (List.map (Extracted.shift e.tree.endOffset)) ∧
          ∀ more, (∃ last, s.Yields more last) ↔
            ∃ more' last', (fewLetters.scan rest).Yields more' last' ∧
              more = more'.map (Extracted.shift e.tree.endOffset) := by
  obtain ⟨hattempt, hscan⟩ := sees_ahead_only fewLetters ignoresOffsets_fewLetters
  refine ⟨ignoresOffsets_fewLetters, ?_, ?_⟩
  · exact hattempt "xé ".toList "x=é".toList ((Cursor.ofString "xé x=é").advanceBy 3) (by decide)
      (by decide)
  · have hfirst : (fewLetters.scan "xé = éx; xéé=x, x =xé".toList).next.any
        (fun result => result.1.isSome) = true := by
      decide +kernel
    obtain ⟨⟨found, s⟩, hnext, hfound⟩ := (Option.any_eq_true _ _).1 hfirst
    cases found with
    | none => cases hfound
    | some e =>
      have hyields := Yields.cons hnext (.nil s)
      exact ⟨e, s, hyields, hscan _ [] e s hyields⟩

end Scan

end Excerpt
