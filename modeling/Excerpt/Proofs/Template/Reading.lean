import Excerpt.Proofs.Matcher.LeftRecursion
import Excerpt.Proofs.Matcher.Steps
import Excerpt.Proofs.Regex.SomeOf
import Excerpt.Proofs.Template.Cut

/-!
# What the grammar of templates reads

`Template.grammar` matches every text, and finds the parts that `cut` names (`exists_matchFront`).
It is taken apart from the inside out: placeholders, the search for one, pieces, the rounds of the
repetition, and the sequence of these and the trailing text.
-/

namespace Excerpt.Template

open Text

section Attempts

variable {call : Call} {rules : Rules} {c : Cursor} {name behind front : Text}

/-! ## Placeholders -/

/-- A match has a part of a name, with its text and its place. -/
def HasPart (m : Match) (path : List String) (t : Text) (offset : Nat) : Prop :=
  ∃ part, m.partAt? path = some part ∧ part.matched = t ∧ part.offset = offset

/-- The pattern of names. -/
def namePattern : Pattern := .someOf "[a-zA-Z0-9_]+" .asciiWord

theorem placeholder_eq :
    placeholder =
      .sequence "component"
        [.take "_open" (.literal opening), .take "name" (.pattern namePattern),
          .take "_close" (.literal "\x7d")]
        .strict := by
  rw [namePattern, ← Matcher.ofSource_asciiWord]
  rfl

theorem attempt_namePattern (c : Cursor) :
    namePattern.attempt c =
      if c.rest.takeWhile isStepChar = [] then .fail "/[a-zA-Z0-9_]+/" c.offset .unstated
      else
        .success (.leaf "/[a-zA-Z0-9_]+/" (c.rest.takeWhile isStepChar) c.offset
          (.string (String.ofList (c.rest.takeWhile isStepChar)))) := by
  have hholds : Regex.CharSet.asciiWord.holds = isStepChar :=
    funext Regex.CharSet.holds_asciiWord
  rw [namePattern, Pattern.attempt_someOf, hholds]
  rfl

/-- A placeholder is matched where it stands. -/
theorem attempt_placeholder_of_some (h : placeholderFront? c.rest = some (name, behind)) :
    ∃ m next, placeholder.attempt Matcher.canStartWith call rules c = some (.success m) ∧
      m.matched = placeholderText name ∧ c.Moves (placeholderText name) next ∧ next.rest = behind ∧
      HasPart m ["name"] name (c.offset + 2) := by
  obtain ⟨⟨hne, hname⟩, hrest⟩ := placeholderFront?_eq_some_iff.1 h
  obtain ⟨next, hmoves⟩ := Cursor.exists_moves_of_isPrefix ⟨behind, hrest.symm⟩
  obtain ⟨c₂, hleft, hclose⟩ := hmoves.exists_between
  obtain ⟨c₁, hopen, hmiddle⟩ := hleft.exists_between
  have hrun : c₁.rest.takeWhile isStepChar = name := by
    rw [hmiddle.rest_eq, hclose.rest_eq, List.takeWhile_append_of_pos hname]
    simp [isStepChar]
  have hpattern : (Matcher.pattern namePattern).attempt Matcher.canStartWith call rules c₁ =
      some (.success (.leaf "/[a-zA-Z0-9_]+/" name c₁.offset (.string (String.ofList name)))) := by
    rw [Matcher.attempt, attempt_namePattern, hrun, if_neg hne]
  rw [placeholder_eq, Matcher.attempt,
    attemptSteps_strict (attempt_literal_of_moves hopen) hopen,
    attemptSteps_strict hpattern hmiddle,
    attemptSteps_strict (attempt_literal_of_moves hclose) hclose, attemptSteps]
  refine ⟨_, next, rfl, hmoves.textTo_eq, hmoves, ?_, ?_⟩
  · exact List.append_cancel_left (hmoves.rest_eq.symm.trans hrest)
  · refine ⟨_, rfl, rfl, ?_⟩
    exact hopen.offset_eq

/-- A placeholder fails where none stands, be it that it does not open, has no name, or does not
close. -/
theorem attempt_placeholder_of_none (h : placeholderFront? c.rest = none) :
    ∃ f, placeholder.attempt Matcher.canStartWith call rules c = some (.failure f) := by
  rw [placeholder_eq, Matcher.attempt]
  by_cases hopen : opening.toList <+: c.rest
  · obtain ⟨c₁, hmoves₁⟩ := Cursor.exists_moves_of_isPrefix hopen
    rw [attemptSteps_strict (attempt_literal_of_moves hmoves₁) hmoves₁]
    have hword : ∀ ch ∈ c₁.rest.takeWhile isStepChar, isStepChar ch = true :=
      fun ch hch => List.mem_takeWhile_imp hch
    have hattempt : (Matcher.pattern namePattern).attempt Matcher.canStartWith call rules c₁ =
        some (namePattern.attempt c₁) := by rw [Matcher.attempt]
    obtain ⟨c₂, hmoves₂⟩ :=
      Cursor.exists_moves_of_isPrefix (List.takeWhile_prefix (l := c₁.rest) isStepChar)
    rw [attempt_namePattern] at hattempt
    -- that the name is the longest does not matter any more: any name would do
    generalize c₁.rest.takeWhile isStepChar = name at hword hattempt hmoves₂
    by_cases hname : name = []
    · rw [if_pos hname] at hattempt
      exact ⟨_, attemptSteps_of_failure hattempt⟩
    · rw [if_neg hname] at hattempt
      rw [attemptSteps_strict hattempt hmoves₂]
      refine attemptSteps_literal_of_not_stands fun hclose => ?_
      obtain ⟨behind, hbehind⟩ := hclose
      have hrest : c.rest = placeholderText name ++ behind := by
        have hclosing : c₂.rest = '\x7d' :: behind := hbehind.symm
        rw [hmoves₁.rest_eq, hmoves₂.rest_eq, hclosing]
        simp [placeholderText]
      rw [placeholderFront?_eq_some_iff.2 ⟨⟨hname, hword⟩, hrest⟩] at h
      cases h
  · exact attemptSteps_literal_of_not_stands hopen

/-! ## The search for a placeholder -/

/-- The search for a placeholder stops where one stands. -/
theorem attempt_placeholder_isMatch {ch : Char} {rest : Text} (hrest : c.rest = ch :: rest) :
    (if placeholder.canStartWith ch then
        (placeholder.attempt Matcher.canStartWith call rules c).map Outcome.isMatch
      else some false) = some (placeholderFront? c.rest).isSome := by
  split
  · cases hfront : placeholderFront? c.rest with
    | none =>
      obtain ⟨f, hattempt⟩ := @attempt_placeholder_of_none call rules c hfront
      rw [hattempt]
      rfl
    | some found =>
      obtain ⟨m, _, hattempt, _⟩ := @attempt_placeholder_of_some call rules c _ _ hfront
      rw [hattempt]
      rfl
  · rename_i hstart
    have hch : ch ≠ '$' := by
      rintro rfl
      exact hstart rfl
    have hstrip : stripFront? opening.toList (ch :: rest) = none := if_neg hch.symm
    rw [hrest, placeholderFront?, hstrip]
    rfl

/-- The text before the first placeholder, or all of it if there is none. -/
def textBefore (t : Text) : Text := ((firstPlaceholder? t).map Prod.fst).getD t

/-- The search goes over the text before the first placeholder. -/
theorem seek_placeholder (c : Cursor) :
    ∃ last, seek (fun ch c =>
        if placeholder.canStartWith ch then
          (placeholder.attempt Matcher.canStartWith call rules c).map Outcome.isMatch
        else some false) c = some last ∧
      c.Moves (textBefore c.rest) last ∧
      placeholderFront? last.rest = (firstPlaceholder? c.rest).map Prod.snd := by
  induction c using Cursor.forward with
  | finished c hrest =>
    rw [seek_nil hrest, hrest]
    exact ⟨c, rfl, .refl c, by rw [hrest]; rfl⟩
  | step c ch rest hrest ih =>
    rw [seek_cons hrest, attempt_placeholder_isMatch hrest, hrest, textBefore, firstPlaceholder?]
    cases hfront : placeholderFront? (ch :: rest) with
    | some found => exact ⟨c, rfl, .refl c, by rw [hrest]; exact hfront⟩
    | none =>
      have hadvance : c.advance.rest = rest := by
        rw [Cursor.rest_advance, hrest]
        rfl
      rw [hadvance] at ih
      obtain ⟨last, hseek, hmoves, hlast⟩ := ih
      have hmoves' := (Cursor.moves_advance hrest).trans hmoves
      refine ⟨last, hseek, ?_, ?_⟩
      · cases hfirst : firstPlaceholder? rest <;> simpa [textBefore, hfirst] using hmoves'
      · rw [hlast]
        cases firstPlaceholder? rest <;> rfl

/-- The text before the first placeholder is passed over. -/
theorem attempt_upTo_placeholder (c : Cursor) :
    ∃ last, (Matcher.upTo placeholder).attempt Matcher.canStartWith call rules c =
        some (.success (.leaf (Matcher.upTo placeholder).id (textBefore c.rest) c.offset
          (.string (String.ofList (textBefore c.rest))))) ∧
      c.Moves (textBefore c.rest) last ∧
      placeholderFront? last.rest = (firstPlaceholder? c.rest).map Prod.snd := by
  obtain ⟨last, hseek, hmoves, hlast⟩ := @seek_placeholder call rules c
  refine ⟨last, ?_, hmoves, hlast⟩
  rw [Matcher.attempt, hseek, Option.map_some, skippedMatch, hmoves.textTo_eq]

/-! ## Pieces -/

theorem piece_eq :
    piece =
      .sequence "literal, then component"
        [.take "literal" (.upTo placeholder), .take "component" placeholder] .strict :=
  rfl

/-- A match of the literal text and the placeholder of a piece that begins at `offset`. -/
structure IsPiece (offset : Nat) (p : Piece) (m : Match) : Prop where
  literal : HasPart m ["literal"] p.text offset
  name : HasPart m ["component", "name"] p.name (offset + byteLength p.text + 2)
  matched : m.matched = p.text ++ placeholderText p.name

/-- A piece is matched if there is a placeholder ahead. -/
theorem attempt_piece_of_some (h : firstPlaceholder? c.rest = some (front, name, behind)) :
    ∃ m next, piece.attempt Matcher.canStartWith call rules c = some (.success m) ∧
      IsPiece c.offset ⟨front, name⟩ m ∧ c.Moves m.matched next ∧ next.rest = behind := by
  obtain ⟨c₁, htext, hmoves₁, hfront⟩ := @attempt_upTo_placeholder call rules c
  have hbefore : textBefore c.rest = front := by rw [textBefore, h]; rfl
  rw [hbefore] at htext hmoves₁
  rw [h, Option.map_some] at hfront
  obtain ⟨m, next, hattempt, hmatched, hmoves₂, hrest, part, hpart, hname, hoffset⟩ :=
    @attempt_placeholder_of_some call rules c₁ _ _ hfront
  rw [← hmatched] at hmoves₂
  rw [piece_eq, Matcher.attempt, attemptSteps_strict htext hmoves₁,
    attemptSteps_strict hattempt hmoves₂, attemptSteps]
  have hmoves := hmoves₁.trans hmoves₂
  refine ⟨_, next, rfl, ⟨⟨_, rfl, rfl, rfl⟩, ⟨part, hpart, hname, ?_⟩, ?_⟩, ?_, hrest⟩
  · rw [hoffset, hmoves₁.offset_eq]
  · rw [← hmatched]
    exact hmoves.textTo_eq
  · show c.Moves (c.textTo next) next
    rw [hmoves.textTo_eq]
    exact hmoves

theorem attempt_piece_of_none (h : firstPlaceholder? c.rest = none) :
    ∃ f, piece.attempt Matcher.canStartWith call rules c = some (.failure f) := by
  obtain ⟨c₁, htext, hmoves₁, hfront⟩ := @attempt_upTo_placeholder call rules c
  rw [h, Option.map_none] at hfront
  obtain ⟨f, hattempt⟩ := @attempt_placeholder_of_none call rules c₁ hfront
  rw [piece_eq, Matcher.attempt, attemptSteps_strict htext hmoves₁]
  exact ⟨_, attemptSteps_of_failure hattempt⟩

/-! ## Whole templates -/

/-- Matches of pieces one after another, the first one at `offset` and the last one up to `last`. -/
inductive PiecesAt : Nat → List Piece → List Match → Nat → Prop
  | nil (offset : Nat) : PiecesAt offset [] [] offset
  | cons {offset last : Nat} {p : Piece} {m : Match} {pieces : List Piece} {ms : List Match}
    (hpiece : IsPiece offset p m)
    (hpieces : PiecesAt (offset + byteLength m.matched) pieces ms last) :
    PiecesAt offset (p :: pieces) (m :: ms) last

/-- The rounds of the repetition find the pieces that the text is cut into, and end before the
trailing text. -/
theorem rounds_pieces (call : Call) (rules : Rules) (isFirst : Bool) (c : Cursor) :
    ∃ ms last,
      Rounds (piece.attempt Matcher.canStartWith call rules) none false isFirst c ms last ∧
      PiecesAt c.offset (cut c.rest).1 ms last.offset ∧ last.rest = (cut c.rest).2 := by
  induction hlength : c.rest.length using Nat.strongRecOn generalizing c isFirst with
  | ind n ih =>
    cases hfirst : firstPlaceholder? c.rest with
    | none =>
      rw [cut_of_none hfirst]
      refine ⟨[], c, ?_, .nil c.offset, rfl⟩
      by_cases hrest : c.rest = []
      · exact .finished hrest
      · obtain ⟨f, hattempt⟩ := @attempt_piece_of_none call rules c hfirst
        refine .last hrest ?_
        have hround :
            elementRound (piece.attempt Matcher.canStartWith call rules) c c = some .over := by
          rw [elementRound, hattempt]
        cases isFirst <;> exact hround
    | some found =>
      obtain ⟨front, name, behind⟩ := found
      obtain ⟨m, next, hattempt, hpiece, hmoves, hrest⟩ :=
        @attempt_piece_of_some call rules c _ _ _ hfirst
      have hless := length_of_firstPlaceholder? hfirst
      have hmore : c.rest ≠ [] := List.ne_nil_of_length_pos (by omega)
      obtain ⟨ms, last, hrounds, hpieces, hlast⟩ :=
        ih _ (by rw [← hlength, hrest]; exact hless) false next rfl
      rw [hrest] at hpieces hlast
      rw [hmoves.offset_eq] at hpieces
      rw [cut_of_some hfirst]
      refine ⟨m :: ms, last, .more hmore ?_ hrounds, .cons hpiece hpieces, hlast⟩
      have hmoved : next.offset ≠ c.offset :=
        Cursor.Reaches.offset_ne ⟨_, hmoves⟩ (by rw [hrest]; exact hless)
      cases isFirst with
      | true => exact repetitionRound_of_place (.first c) hattempt hmoves hmoved
      | false => exact repetitionRound_of_place (.adjoining c rfl) hattempt hmoves hmoved

end Attempts

theorem grammar_eq :
    grammar =
      .sequence "template"
        [.take "these" (.repetition piece none 0 false), .take "trailing" .remainder] .strict :=
  rfl

/-- Every template is matched, and the parts of the match are those of `cut`. -/
theorem exists_matchFront (t : Text) :
    ∃ m these trailing, grammar.matchFront (.start t) = some (.success m) ∧
      m.child? "these" = some these ∧ m.child? "trailing" = some trailing ∧
      PiecesAt 0 (cut t).1 these.children trailing.offset ∧ trailing.matched = (cut t).2 ∧
      trailing.offset + byteLength trailing.matched = byteLength t := by
  obtain ⟨ms, last, hrounds, hpieces, hlast⟩ := rounds_pieces Matcher.matching [] true (.start t)
  have hmoves := hrounds.reaches.moves_textTo
  have hend : last.Moves last.rest (last.advanceBy last.rest.length) :=
    Cursor.moves_advanceBy (List.append_nil _).symm
  have hthese : (Matcher.repetition piece none 0 false).attempt Matcher.canStartWith
      Matcher.matching [] (.start t) = some (.success (.ofElements
        (Matcher.repetition piece none 0 false).id ((Cursor.start t).textTo last) 0 ms)) := by
    rw [Matcher.attempt]
    exact attemptRepetition_eq_success_iff.2 ⟨ms, last, hrounds, Nat.zero_le _, rfl⟩
  have htrailing : Matcher.remainder.attempt Matcher.canStartWith Matcher.matching [] last =
      some (.success (.leaf Matcher.remainder.id last.rest last.offset
        (.string (String.ofList last.rest)))) := by
    rw [Matcher.attempt, skippedMatch, hend.textTo_eq]
  rw [Matcher.matchFront, Matcher.matchIn_eq_attempt, grammar_eq, Matcher.attempt,
    attemptSteps_strict hthese hmoves, attemptSteps_strict htrailing hend, attemptSteps]
  refine ⟨_, _, _, rfl, rfl, rfl, hpieces, hlast, ?_⟩
  have hrest := congrArg byteLength hmoves.rest_eq
  have hread := hmoves.offset_eq
  rw [byteLength_append] at hrest
  simp only [Cursor.rest_start, Cursor.offset_start] at hrest hread
  show last.offset + byteLength last.rest = byteLength t
  omega

end Excerpt.Template
