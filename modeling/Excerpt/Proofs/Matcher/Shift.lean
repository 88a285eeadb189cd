import Excerpt.Proofs.Matcher.Depth
import Excerpt.Proofs.Shift

/-!
# Matching sees the text ahead only

An attempt at a place depends on the text from there on.  What stands before the place shows in the
offsets of the answer and nowhere else: with `front` before the text, an attempt answers the same,
with all offsets larger by the length of `front` (`Attempt.Shifts`).

The one thing in a matcher that is given offsets to look at is the test of a guarded matcher, so
`Matcher.IgnoresOffsets` asks of these that they do not.  Everything else passes the shift on:
single matchers, the loops with all they carry (`elements_after`, `Progress.take_after`), and so all
matchers (`attempt_shifts`), all calls to any depth (`follow_shifts`), and matching
(`matchIn_shifts`).
-/

namespace Excerpt

/-- With `front` before the text, the attempt answers the same but for the offsets. -/
def Attempt.Shifts (front : Text) (a : Attempt) : Prop :=
  ∀ c, a (c.after front) = (a c).map (Outcome.shift (Text.byteLength front))

/-- What is made of an answer passes the shift on if it commutes with shifts. -/
theorem Attempt.Shifts.map {front : Text} {a : Attempt} (h : a.Shifts front)
    {f f' : Outcome → Outcome}
    (hcommutes : ∀ o, (f o).shift (Text.byteLength front) = f' (o.shift (Text.byteLength front)))
    (c : Cursor) :
    (a (c.after front)).map f' = ((a c).map f).map (Outcome.shift (Text.byteLength front)) := by
  rw [h, Option.map_map, Option.map_map]
  congr 1
  funext o
  exact (hcommutes o).symm

/-! ## Single matchers -/

section Single

variable (front : Text) (c : Cursor)

theorem attemptLiteral_after (text : String) :
    attemptLiteral text (c.after front) =
      (attemptLiteral text c).shift (Text.byteLength front) := by
  rw [attemptLiteral, attemptLiteral, Cursor.startsWith_after]
  split <;> rfl

theorem attemptBalanced_after (d : Delimiters) (content : Content) :
    attemptBalanced d content (c.after front) =
      (attemptBalanced d content c).map (Outcome.shift (Text.byteLength front)) := by
  rw [attemptBalanced, attemptBalanced, Cursor.startsWith_after, Cursor.rest_after]
  split
  · cases content.balancedFront? d c.rest with
    | none => rfl
    | some matched =>
      simp only [Option.map_bind, Function.comp_def, Option.map_map]
      rfl
  · rfl

theorem Pattern.attempt_after (p : Pattern) :
    p.attempt (c.after front) = (p.attempt c).shift (Text.byteLength front) := by
  rw [attempt, attempt, Cursor.rest_after]
  cases p.front? c.rest <;> rfl

theorem skippedMatch_after (id : String) (later : Cursor) :
    skippedMatch id (c.after front) (later.after front) =
      (skippedMatch id c later).shift (Text.byteLength front) := by
  rw [skippedMatch, skippedMatch, Cursor.textTo_after]
  rfl

end Single

section Outcomes

variable (k offset : Nat) (o : Outcome)

theorem shift_optionalOutcome (id : String) (pulledUp : Option String) :
    (optionalOutcome id offset pulledUp o).shift k =
      optionalOutcome id (offset + k) pulledUp (o.shift k) := by
  cases o with
  | failure _ | absent _ _ => rfl
  | success m =>
    cases pulledUp with
    | none => rfl
    | some field =>
      rw [optionalOutcome, Outcome.shift, Outcome.shift, optionalOutcome, Match.shift_withValue,
        Match.context_shift]

theorem shift_namedOutcome (name : String) :
    (namedOutcome name o).shift k = namedOutcome name (o.shift k) := by
  cases o with
  | failure _ | absent _ _ => rfl
  | success m => rw [namedOutcome, Outcome.shift, Outcome.shift, namedOutcome, Match.shift_withName]

theorem shift_guardedOutcome {test : Match → Bool} (htest : ∀ m, test (m.shift k) = test m)
    (id : String) :
    (guardedOutcome id offset test o).shift k =
      guardedOutcome id (offset + k) test (o.shift k) := by
  cases o with
  | absent _ _ => rfl
  | failure f =>
    cases f
    rfl
  | success m =>
    rw [guardedOutcome, Outcome.shift, guardedOutcome, htest]
    split <;> rfl

end Outcomes

/-! ## Loops -/

theorem seek_after {front : Text} {stops stops' : Char → Cursor → Option Bool}
    (h : ∀ ch c, stops' ch (c.after front) = stops ch c) (c : Cursor) :
    seek stops' (c.after front) = (seek stops c).map (Cursor.after front) := by
  induction c using Cursor.forward with
  | finished c hrest =>
    rw [seek_nil hrest, seek_nil (c := c.after front) hrest]
    rfl
  | step c ch rest hrest ih =>
    rw [seek_cons hrest, seek_cons (c := c.after front) hrest, h, Cursor.advance_after]
    cases stops ch c with
    | none => rfl
    | some stop =>
      cases stop with
      | true => rfl
      | false => exact ih

/-- The answer of the round with `front` before the text. -/
def Round.after (front : Text) : Round → Round
  | more m next => more (m.shift (Text.byteLength front)) (next.after front)
  | «over» => «over»
  | misreported offset error =>
    misreported (offset + Text.byteLength front) (error.shift (Text.byteLength front))

/-- The answer of the rounds with `front` before the text. -/
def shiftElements (front : Text) :
    Except (Nat × ErrorKind) (List Match × Cursor) → Except (Nat × ErrorKind) (List Match × Cursor)
  | .error (offset, error) =>
    .error (offset + Text.byteLength front, error.shift (Text.byteLength front))
  | .ok (found, last) => .ok (found.map (Match.shift (Text.byteLength front)), last.after front)

section Rounds

variable {front : Text} {element : Attempt} {separator : Option Attempt} {skipsBlanks : Bool}

theorem elementRound_after (helement : element.Shifts front) (start c : Cursor) :
    elementRound element (start.after front) (c.after front) =
      (elementRound element start c).map (Round.after front) := by
  rw [elementRound, elementRound, helement]
  cases element c with
  | none => rfl
  | some o =>
    cases o with
    | failure _ | absent _ _ => rfl
    | success m =>
      simp only [Option.map_some, Outcome.shift, Match.matched_shift, Cursor.consume_after]
      cases c.consume m.matched with
      | error error => rfl
      | ok next =>
        simp only [Cursor.offset_after, Nat.add_right_cancel_iff]
        split <;> rfl

theorem repetitionRound_after (helement : element.Shifts front)
    (hseparator : ∀ attempt, separator = some attempt → attempt.Shifts front) (isFirst : Bool)
    (c : Cursor) :
    repetitionRound element separator skipsBlanks isFirst (c.after front) =
      (repetitionRound element separator skipsBlanks isFirst c).map (Round.after front) := by
  cases isFirst with
  | true => exact elementRound_after helement c c
  | false =>
    rw [repetitionRound, repetitionRound, if_neg Bool.false_ne_true, if_neg Bool.false_ne_true,
      Cursor.ready_after]
    cases separator with
    | none => exact elementRound_after helement c _
    | some separator =>
      simp only [hseparator separator rfl (c.ready skipsBlanks)]
      cases separator (c.ready skipsBlanks) with
      | none => rfl
      | some o =>
        cases o with
        | failure _ | absent _ _ => rfl
        | success sep =>
          simp only [Option.map_some, Outcome.shift, Match.matched_shift, Cursor.consume_after]
          cases (c.ready skipsBlanks).consume sep.matched with
          | error error => rfl
          | ok behind =>
            simp only [Cursor.ready_after]
            exact elementRound_after helement c _

theorem elements_after (helement : element.Shifts front)
    (hseparator : ∀ attempt, separator = some attempt → attempt.Shifts front) (fuel : Nat) :
    ∀ (found : List Match) (c : Cursor),
      elements element separator skipsBlanks fuel (found.map (Match.shift (Text.byteLength front)))
          (c.after front) =
        (elements element separator skipsBlanks fuel found c).map (shiftElements front) := by
  induction fuel with
  | zero =>
    intro found c
    rw [elements, elements, ← List.map_reverse]
    rfl
  | succ fuel ih =>
    intro found c
    rw [elements, elements, List.isEmpty_map, Cursor.exhausted_after,
      repetitionRound_after helement hseparator, ← List.map_reverse]
    split
    · rfl
    · cases repetitionRound element separator skipsBlanks found.isEmpty c with
      | none => rfl
      | some round =>
        cases round with
        | «over» | misreported _ _ => rfl
        | more m next => exact ih (m :: found) next

theorem attemptRepetition_shifts (helement : element.Shifts front)
    (hseparator : ∀ attempt, separator = some attempt → attempt.Shifts front) (id : String)
    (least : Nat) :
    Attempt.Shifts front (attemptRepetition id element separator least skipsBlanks) := by
  intro c
  have helements :
      elements element separator skipsBlanks (c.rest.length + 1) [] (c.after front) =
        (elements element separator skipsBlanks (c.rest.length + 1) [] c).map
          (shiftElements front) :=
    elements_after helement hseparator _ [] c
  rw [attemptRepetition, attemptRepetition, Cursor.rest_after, helements]
  cases elements element separator skipsBlanks (c.rest.length + 1) [] c with
  | none => rfl
  | some result =>
    rcases result with ⟨offset, error⟩ | ⟨found, last⟩
    · rfl
    · simp only [Option.map_some, shiftElements, List.length_map]
      split
      · rfl
      · rw [Option.map_some, Outcome.shift, Match.shift_ofElements, Cursor.textTo_after,
          Cursor.offset_after]

end Rounds

namespace Progress

/-- The progress with `front` before the text. -/
def after (front : Text) (p : Progress) : Progress where
  current := p.current.after front
  context := p.context
  children := p.children.map (Match.shift (Text.byteLength front))

variable (front : Text) (p : Progress)

theorem take_after (name : String) (ready : Cursor) (m : Match) :
    (p.after front).take name (ready.after front) (m.shift (Text.byteLength front)) =
      match p.take name ready m with
      | .error error => .error (error.shift (Text.byteLength front))
      | .ok p' => .ok (p'.after front) := by
  rw [take, take, Match.matched_shift, Match.value_shift, Cursor.consume_after]
  cases m.matched.isEmpty with
  | true => rfl
  | false => cases ready.consume m.matched <;> rfl

theorem finish_after (id : String) (start : Cursor) :
    (p.after front).finish id (start.after front) =
      (p.finish id start).shift (Text.byteLength front) := by
  have htext : (start.after front).textTo (p.after front).current = start.textTo p.current :=
    Cursor.textTo_after front start p.current
  rw [finish, finish, Outcome.shift, Match.shift_ofSequence, List.map_reverse, htext]
  rfl

end Progress

/-! ## All matchers -/

/-- No test in the matcher answers otherwise for a match whose offsets are all larger. -/
def Matcher.IgnoresOffsets (m : Matcher) : Prop :=
  ∀ inner test, m.Part (.guarded inner test) → ∀ (found : Match) (k : Nat),
    test (found.shift k) = test found

/-- No test in any of the rules answers otherwise for a match whose offsets are all larger. -/
def Rules.IgnoreOffsets (rules : Rules) : Prop := ∀ rule ∈ rules, rule.2.IgnoresOffsets

/-- Following rules passes a shift on. -/
def Call.Shifts (front : Text) (call : Call) : Prop :=
  ∀ (rules : Rules) (m : Matcher), rules.IgnoreOffsets → m.IgnoresOffsets →
    Attempt.Shifts front (call rules m)

namespace Matcher

variable {admits : Admission} {call : Call} {front : Text}

theorem attemptSteps_after {id : String} {config : Config} {steps : List (Step Matcher)}
    {rules : Rules}
    (ih : ∀ name m, .take name m ∈ steps → Attempt.Shifts front (m.attempt admits call rules))
    (start : Cursor) : ∀ p : Progress,
      attemptSteps admits call id config (start.after front) steps rules (p.after front) =
        (attemptSteps admits call id config start steps rules p).map
          (Outcome.shift (Text.byteLength front)) := by
  induction steps with
  | nil =>
    intro p
    rw [attemptSteps, attemptSteps, Progress.finish_after]
    rfl
  | cons step steps ihsteps =>
    have hrest := ihsteps fun name m hm => ih name m (List.mem_cons_of_mem _ hm)
    intro p
    cases step with
    | take name m =>
      have hready : (p.after front).current.ready config.skipsBlanks =
          (p.current.ready config.skipsBlanks).after front := Cursor.ready_after ..
      rw [attemptSteps, attemptSteps]
      simp only [hready, ih name m List.mem_cons_self (p.current.ready config.skipsBlanks)]
      cases m.attempt admits call rules (p.current.ready config.skipsBlanks) with
      | none => rfl
      | some o =>
        cases o with
        | failure f => rfl
        | absent _ _ => exact hrest p
        | success found =>
          simp only [Option.map_some, Outcome.shift, ← Match.shift_withName, Progress.take_after]
          cases p.take name (p.current.ready config.skipsBlanks) (found.withName name) with
          | error error => rfl
          | ok p' => exact hrest p'
    | veto name accepts =>
      rw [attemptSteps, attemptSteps]
      show (if accepts p.context then _ else _) = _
      split
      · exact hrest p
      · rfl
    | alter name value =>
      rw [attemptSteps, attemptSteps]
      exact hrest { p with context := Fields.insert p.context name (value p.context) }

theorem attemptFirst_shifts {id : String} {ch : Char} {alternatives : List Matcher} {rules : Rules}
    (ih : ∀ m ∈ alternatives, Attempt.Shifts front (m.attempt admits call rules)) :
    Attempt.Shifts front (attemptFirst admits call id ch alternatives rules) := by
  intro c
  induction alternatives with
  | nil =>
    rw [attemptFirst, attemptFirst]
    rfl
  | cons m alternatives ihrest =>
    have hrest := ihrest fun m hm => ih m (List.mem_cons_of_mem _ hm)
    rw [attemptFirst, attemptFirst, ih m List.mem_cons_self, hrest]
    split
    · cases m.attempt admits call rules c with
      | none => rfl
      | some o => cases o <;> rfl
    · rfl

/-- An attempt passes a shift on if its calls do and no test looks at offsets. -/
theorem attempt_shifts (hcall : call.Shifts front) (m : Matcher) : ∀ {rules : Rules},
    rules.IgnoreOffsets → m.IgnoresOffsets →
    Attempt.Shifts front (m.attempt admits call rules) := by
  induction m using Matcher.induct with
  | literal text =>
    intro rules _ _ c
    rw [attempt, attempt, attemptLiteral_after]
    rfl
  | pattern p =>
    intro rules _ _ c
    rw [attempt, attempt, Pattern.attempt_after]
    rfl
  | sequence id steps config ih =>
    intro rules hrules hm c
    rw [attempt, attempt]
    refine attemptSteps_after (fun name m hstep => ?_) c ⟨c, [], []⟩
    exact ih name m hstep hrules fun inner test hpart => hm inner test (.sequence hstep hpart)
  | choice alternatives ih =>
    intro rules hrules hm c
    rw [attempt, attempt, Cursor.next?_after]
    cases c.next? with
    | none => rfl
    | some ch =>
      refine attemptFirst_shifts (fun m hmem => ?_) c
      exact ih m hmem hrules fun inner test hpart => hm inner test (.choice hmem hpart)
  | optional inner pulledUp ih =>
    intro rules hrules hm c
    have hinner := ih hrules fun inner test hpart => hm inner test (.optional hpart)
    rw [attempt, attempt, Cursor.exhausted_after]
    split
    · rfl
    · exact hinner.map (fun o => shift_optionalOutcome _ _ o _ _) c
  | repetition element separator least skipsBlanks ihe ihs =>
    intro rules hrules hm c
    rw [attempt_repetition, attempt_repetition]
    refine attemptRepetition_shifts ?_ ?_ _ least c
    · exact ihe hrules fun inner test hpart => hm inner test (.element hpart)
    · intro attempt hattempt
      obtain ⟨separator, rfl, rfl⟩ := Option.map_eq_some_iff.1 hattempt
      exact ihs separator rfl hrules fun inner test hpart => hm inner test (.separator hpart)
  | named name inner ih =>
    intro rules hrules hm c
    have hinner := ih hrules fun inner test hpart => hm inner test (.named hpart)
    rw [attempt, attempt]
    exact hinner.map (fun o => shift_namedOutcome _ o name) c
  | guarded inner test ih =>
    intro rules hrules hm c
    have hinner := ih hrules fun inner test hpart => hm inner test (.guarded hpart)
    have htest := hm inner test (.self _)
    rw [attempt, attempt]
    exact hinner.map (fun o => shift_guardedOutcome _ _ o (fun m => htest m _) _) c
  | upTo terminator ih =>
    intro rules hrules hm c
    have hterminator := ih hrules fun inner test hpart => hm inner test (.upTo hpart)
    have hstops : ∀ ch c,
        (if admits terminator ch then
          (terminator.attempt admits call rules (c.after front)).map Outcome.isMatch
        else some false) =
          if admits terminator ch then
            (terminator.attempt admits call rules c).map Outcome.isMatch
          else some false := by
      intro ch c
      rw [hterminator, Option.map_map]
      congr 2
      funext o
      exact Outcome.isMatch_shift _ o
    rw [attempt, attempt, seek_after hstops, Option.map_map, Option.map_map]
    congr 1
    funext later
    exact skippedMatch_after front c _ later
  | remainder =>
    intro rules _ _ c
    rw [attempt, attempt, Cursor.rest_after, Cursor.advanceBy_after, skippedMatch_after]
    rfl
  | balanced d content =>
    intro rules _ _ c
    rw [attempt, attempt, attemptBalanced_after]
  | reference index name =>
    intro rules hrules _ c
    obtain ⟨definition, hrule, hattempt⟩ | ⟨_, hattempt⟩ :=
      attempt_reference_cases rules index name
    · rw [hattempt, hattempt]
      exact hcall rules definition hrules (hrules _ (List.mem_of_getElem? hrule)) c
    · rw [hattempt, hattempt]
      rfl
  | closed inner own ih _ =>
    intro rules _ hm c
    rw [attempt, attempt]
    refine ih (fun rule hrule inner test hpart => ?_) (fun inner test hpart => ?_) c
    · exact hm inner test (.rule hrule hpart)
    · exact hm inner test (.closed hpart)

theorem follow_shifts (admits : Admission) (front : Text) (depth : Nat) :
    (follow admits depth).Shifts front := by
  induction depth with
  | zero => exact fun _ _ _ _ _ => rfl
  | succ depth ih =>
    intro rules m hrules hm c
    rw [follow, matchWith_eq_attempt, matchWith_eq_attempt]
    exact attempt_shifts ih m hrules hm c

theorem matchIn_shifts {rules : Rules} {m : Matcher} (hrules : rules.IgnoreOffsets)
    (hm : m.IgnoresOffsets) (front : Text) : Attempt.Shifts front (m.matchIn rules) := by
  intro c
  rw [matchIn, matchIn, matchWith_eq_attempt, matchWith_eq_attempt]
  exact attempt_shifts (follow_shifts canStartWith front _) m hrules hm c

end Matcher

end Excerpt
