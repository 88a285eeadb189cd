import Excerpt.Proofs.Scan.Candidate

/-!
# Preconditions of cursors

A cursor takes a text only where it stands, and a text is sliced only in range and between two
characters.  `PreconditionsHold` lists the places where the engine relies on either, mostly on the
word of a matcher.  `preconditionsHold` says that it may: what a matcher reports stands where it was
tried (`Matcher.matchIn_stands`), so the branches for a text that does not stand there are never
taken.

The slices around balanced delimiters also need content rules that count the opening delimiter
(`exists_attemptBalanced`), as the known ones do.
-/

namespace Excerpt

/-- The content rules that come with the engine, and those for hash comments. -/
def knownContents : List Content := [.cFamily, .plain, .ofMachine "hash" hashComments]

theorem countsOpener_of_mem_knownContents {content : Content} (h : content ∈ knownContents)
    (d : Delimiters) : content.countsOpener d = true := by
  rw [knownContents, List.mem_cons, List.mem_cons, List.mem_singleton] at h
  rcases h with rfl | rfl | rfl
  · exact Content.countsOpener_cFamily d
  · rfl
  · exact Content.countsOpener_hashComments "hash" d

/-- Under the rules of a grammar, the engine keeps all preconditions at a place. -/
structure PreconditionsHold (g : Grammar) (c : Cursor) : Prop where
  /-- An outcome is one of the place where it was asked for, the text of a match stands there, and
  no failure comes from text that does not. -/
  outcome : ∀ (m : Matcher) o, m.matchIn g.rules c = some o →
    o.offset = c.offset ∧ (∀ found, o = .success found → found.matched <+: c.rest) ∧
      ∀ f, o = .failure f → f.isMisreport = false
  /-- A sequence takes what its steps report, whatever they have bound before. -/
  step : ∀ (m : Matcher) found (p : Progress) name, m.matchIn g.rules c = some (.success found) →
    ∃ p', p.take name c (found.withName name) = .ok p'
  /-- A repetition takes what its elements and separators report, in all rounds. -/
  round : ∀ (element : Matcher) (separator : Option Matcher) skipsBlanks isFirst offset error,
    repetitionRound (element.matchIn g.rules) (separator.map fun m => m.matchIn g.rules) skipsBlanks
      isFirst c ≠ some (.misreported offset error)
  /-- A repetition that needs no element does not fail. -/
  repetition : ∀ element separator skipsBlanks o,
    (Matcher.repetition element separator 0 skipsBlanks).matchIn g.rules c = some o →
      ∃ found, o = .success found
  /-- The search for a terminator does not fail. -/
  upTo : ∀ terminator o, (Matcher.upTo terminator).matchIn g.rules c = some o →
    ∃ found, o = .success found
  /-- All that is left can be taken, and the match of it does not fail. -/
  remainder : c.consume c.rest = .ok (c.advanceBy c.rest.length) ∧
    ∃ found, Matcher.remainder.matchIn g.rules c = some (.success found)
  /-- A scan takes the text before the next required front without the white space at its end. -/
  candidate : ∀ front, ∃ place, c.consume (Text.trimEnd (c.skipTo front).1) = .ok place
  /-- A scan takes the matches that it finds. -/
  scan : ∀ found next, Scan.advance g c = some (.found found next) →
    (Scan.candidate g.matcher c).consume found.matched = .ok next
  /-- Balanced delimiters are sliced out of the text, and what is between them out of these.  No
  slice is out of range: there is an outcome. -/
  balanced : ∀ content ∈ knownContents, ∀ d, ∃ o,
    (Matcher.balanced d content).matchIn g.rules c = some o ∧ ∀ found, o = .success found →
      Text.slice? c.rest 0 (Text.byteLength found.matched) = some found.matched ∧
      ∃ inner, Text.slice? found.matched d.opener.utf8Size (Text.byteLength found.matched - 1) =
        some inner ∧ found.value = .string (String.ofList inner)
  /-- What an exact match leaves is sliced out of the text. -/
  trailing : ∀ text found, g.attempt (.start text) = some (.success found) →
    Text.slice? text found.endOffset (Text.byteLength text) = some (text.drop found.matched.length)

/-- Nothing that a matcher reports breaks a precondition. -/
theorem preconditionsHold (g : Grammar) (c : Cursor) : PreconditionsHold g c where
  outcome m o h := by
    have hstands := Matcher.matchIn_stands g.rules m c o h
    refine ⟨hstands.offset_eq, ?_, ?_⟩
    · rintro found rfl
      exact hstands.2
    · rintro f rfl
      exact hstands.2
  step m found p name h := Progress.exists_take (Matcher.matchIn_stands g.rules m c _ h).2 p name
  round element separator skipsBlanks isFirst offset error := by
    refine repetitionRound_ne_misreported (Matcher.matchIn_stands _ element) ?_ isFirst c offset
      error
    intro attempt hattempt
    obtain ⟨separator, _, rfl⟩ := Option.map_eq_some_iff.1 hattempt
    exact Matcher.matchIn_stands _ separator
  repetition element separator skipsBlanks o h := by
    rw [Matcher.matchIn_eq_attempt, Matcher.attempt_repetition] at h
    refine attemptRepetition_zero ?_ (fun attempt hattempt => ?_) h
    · exact Matcher.attempt_stands Matcher.matchIn_stands element g.rules
    · obtain ⟨separator, _, rfl⟩ := Option.map_eq_some_iff.1 hattempt
      exact Matcher.attempt_stands Matcher.matchIn_stands separator g.rules
  upTo terminator o h := by
    rw [Matcher.matchIn_eq_attempt, Matcher.attempt] at h
    obtain ⟨last, _, rfl⟩ := Option.map_eq_some_iff.1 h
    exact ⟨_, rfl⟩
  remainder := by
    refine ⟨?_, ?_⟩
    · exact Cursor.consume_eq_ok_iff.2 (Cursor.moves_advanceBy (List.append_nil c.rest).symm)
    · rw [Matcher.matchIn_eq_attempt, Matcher.attempt]
      exact ⟨_, rfl⟩
  candidate front := Scan.exists_consume_trimEnd c front
  scan found next h := by
    have hadvances := Scan.advances_advance g c
    rw [h] at hadvances
    cases hadvances with
    | found _ _ _ hmoves => exact Cursor.consume_eq_ok_iff.2 hmoves
  balanced content hcontent d := by
    obtain ⟨o, hattempt, hencloses⟩ :=
      exists_attemptBalanced (countsOpener_of_mem_knownContents hcontent d) c
    have hmatch : (Matcher.balanced d content).matchIn g.rules c = some o := by
      rw [Matcher.matchIn_eq_attempt, Matcher.attempt, hattempt]
    refine ⟨o, hmatch, ?_⟩
    rintro found rfl
    have hstands := (Matcher.matchIn_stands g.rules _ c _ hmatch).2
    obtain ⟨inner, hmatched, hvalue⟩ := hencloses
    refine ⟨(Text.slice?_of_isPrefix hstands).1, inner, ?_, hvalue⟩
    rw [hmatched]
    exact Text.slice?_enclosed d inner
  trailing text found h := by
    obtain ⟨hoffset, hstands⟩ := Matcher.matchIn_stands g.rules g.matcher _ _ h
    rw [Cursor.rest_start] at hstands
    rw [Match.endOffset, hoffset, Cursor.offset_start, Nat.zero_add]
    exact (Text.slice?_of_isPrefix hstands).2

end Excerpt
