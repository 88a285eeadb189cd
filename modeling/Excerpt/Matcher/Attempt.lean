import Excerpt.Matcher.Basic

/-!
# Matching

`Matcher.attempt` tries a matcher at a cursor, by recursion on the matcher.  Two things it is given
from outside: how a rule is followed (`call`), and which matchers are not even tried before a
certain character (`admits`).  `Matcher.matchWith` follows rules to a bounded depth, and
`Matcher.matchIn` to a depth that is enough for every attempt that ends at all.

There are two kinds of attempts without an outcome, which is the `none` in their answers.  An
attempt that follows the same rule twice at the same place, the first time not being over, goes on
forever.  One that takes a slice of the text which is out of range stops the program: only
`attemptBalanced` can do so.
-/

namespace Excerpt

/-- The outcome of an attempt at a cursor, if it has one. -/
abbrev Attempt := Cursor → Option Outcome

/-! ## Single matchers -/

/-- Past the white space at a cursor, if that is to be skipped. -/
def Cursor.ready (c : Cursor) (skipsBlanks : Bool) : Cursor :=
  if skipsBlanks then c.skipBlanks else c

/-- A text at a cursor, or what stands there in its place. -/
def attemptLiteral (text : String) (c : Cursor) : Outcome :=
  let id := Text.quote text
  if c.startsWith text.toList then
    .success (.leaf id text.toList c.offset (.string text))
  else .fail id c.offset (.expectedText text.toList (c.peek text.toList.length))

/-- Balanced delimiters at a cursor; the value is what stands between them.  The match and its value
are slices by bytes, without the byte of the closing delimiter: there is no outcome if one of them
is out of range. -/
def attemptBalanced (d : Delimiters) (content : Content) (c : Cursor) : Option Outcome :=
  let id := Matcher.balancedId d content
  if c.startsWith [d.opener] then
    match content.balancedFront? d c.rest with
    | some front =>
      let last := Text.byteLength front
      (Text.slice? c.rest 0 last).bind fun matched =>
        (Text.slice? matched d.opener.utf8Size (last - 1)).map fun inner =>
          .success (.leaf id matched c.offset (.string (String.ofList inner)))
    | none => some (.fail id c.offset .unbalanced)
  else some (.fail id c.offset (.expectedOpener d.opener))

/-- What an optional matcher makes of the outcome of its inner one: its match, with the value of the
pulled-up field if there is one, or its absence. -/
def optionalOutcome (id : String) (offset : Nat) (pulledUp : Option String) : Outcome → Outcome
  | .success m =>
    match pulledUp with
    | none => .success m
    | some field =>
      .success (m.withValue ((m.context.bind fun fields => Fields.get? fields field).getD .nil))
  | _ => .absent id offset

/-- What a guarded matcher makes of the outcome of its inner one. -/
def guardedOutcome (id : String) (offset : Nat) (test : Match → Bool) : Outcome → Outcome
  | .success m => if test m then .success m else .fail id offset .rejectedByTest
  | .failure f => .failure (.mk id offset f.context f.reason)
  | .absent _ _ => .fail id offset .nothingToTest

/-- The match under a field name; other outcomes are unchanged. -/
def namedOutcome (name : String) : Outcome → Outcome
  | .success m => .success (m.withName name)
  | o => o

/-! ## Loops -/

/-- Forward to the first cursor at which `stops` holds, or to the end. -/
def seek (stops : Char → Cursor → Option Bool) (c : Cursor) : Option Cursor :=
  match _ : c.rest with
  | [] => some c
  | ch :: _ =>
    match stops ch c with
    | none => none
    | some true => some c
    | some false => seek stops c.advance
termination_by c.rest.length
decreasing_by exact Cursor.length_rest_advance (by simp [*])

/-- The match of all text from one cursor up to a later one. -/
def skippedMatch (id : String) (c later : Cursor) : Outcome :=
  let skipped := c.textTo later
  .success (.leaf id skipped c.offset (.string (String.ofList skipped)))

/-- The answer of one round of a repetition. -/
inductive Round where
  /-- An element was matched, and the next round begins at the cursor. -/
  | more (element : Match) (next : Cursor)
  /-- There are no more elements. -/
  | over
  /-- Text was reported that does not stand there. -/
  | misreported (offset : Nat) (error : ErrorKind)

/-- One element at a cursor.  An element that leaves the round where it began ends the repetition:
it would be found again forever. -/
def elementRound (element : Attempt) (roundStart c : Cursor) : Option Round :=
  match element c with
  | none => none
  | some (.success m) =>
    match c.consume m.matched with
    | .error error => some (.misreported c.offset error)
    | .ok next => some (if next.offset = roundStart.offset then .over else .more m next)
  | some _ => some .over

/-- One round of a repetition.  From the second one on, white space is skipped and a separator is
taken before the element. -/
def repetitionRound (element : Attempt) (separator : Option Attempt) (skipsBlanks isFirst : Bool)
    (c : Cursor) : Option Round :=
  if isFirst then elementRound element c c
  else
    let ready := c.ready skipsBlanks
    match separator with
    | none => elementRound element c ready
    | some separator =>
      match separator ready with
      | none => none
      | some (.success m) =>
        match ready.consume m.matched with
        | .error error => some (.misreported ready.offset error)
        | .ok next => elementRound element c (next.ready skipsBlanks)
      | some _ => some .over

/-- The elements of a repetition from a cursor on, after those in `found` (the last one first), with
the cursor behind the last element.  `fuel` is above the number of characters left: every round but
the last reads some. -/
def elements (element : Attempt) (separator : Option Attempt) (skipsBlanks : Bool) :
    Nat → List Match → Cursor → Option (Except (Nat × ErrorKind) (List Match × Cursor))
  | 0, found, c => some (.ok (found.reverse, c))
  | fuel + 1, found, c =>
    if c.exhausted then some (.ok (found.reverse, c))
    else
      match repetitionRound element separator skipsBlanks found.isEmpty c with
      | none => none
      | some .over => some (.ok (found.reverse, c))
      | some (.misreported offset error) => some (.error (offset, error))
      | some (.more m next) => elements element separator skipsBlanks fuel (m :: found) next

/-- A repetition at a cursor. -/
def attemptRepetition (id : String) (element : Attempt) (separator : Option Attempt) (least : Nat)
    (skipsBlanks : Bool) (c : Cursor) : Option Outcome :=
  match elements element separator skipsBlanks (c.rest.length + 1) [] c with
  | none => none
  | some (.error (offset, error)) => some (.fail id offset (.misreported error))
  | some (.ok (found, last)) =>
    if found.length < least then
      some (.fail id c.offset (.tooFewElements least found.length))
    else some (.success (.ofElements id (c.textTo last) c.offset found))

/-! ## Sequences -/

/-- How far a sequence has come. -/
structure Progress where
  /-- Behind the last step that matched any text. -/
  current : Cursor
  context : Fields
  /-- The matches of the steps so far, the last one first. -/
  children : List Match

/-- The match of a sequence that is through with its steps. -/
def Progress.finish (id : String) (start : Cursor) (p : Progress) : Outcome :=
  .success (.ofSequence id (start.textTo p.current) start.offset p.children.reverse p.context)

/-- The progress after a step has matched at a cursor.  White space before a step is passed over for
good only if the step matched some text. -/
def Progress.take (p : Progress) (name : String) (ready : Cursor) (m : Match) :
    Except ErrorKind Progress :=
  let next : Except ErrorKind Cursor :=
    if m.matched.isEmpty then .ok p.current else ready.consume m.matched
  match next with
  | .error error => .error error
  | .ok next => .ok ⟨next, Fields.insert p.context name m.value, m :: p.children⟩

/-! ## All matchers -/

/-- How a matcher is tried under some rules. -/
abbrev Call := Rules → Matcher → Cursor → Option Outcome

/-- What is worth trying before a character. -/
abbrev Admission := Matcher → Char → Bool

mutual

/-- The outcome of a matcher at a cursor, under some rules. -/
def Matcher.attempt (admits : Admission) (call : Call) :
    Matcher → Rules → Cursor → Option Outcome
  | .literal text, _, c => some (attemptLiteral text c)
  | .pattern p, _, c => some (p.attempt c)
  | .sequence id steps config, rules, c =>
    attemptSteps admits call id config c steps rules ⟨c, [], []⟩
  | .choice alternatives, rules, c =>
    let id := (Matcher.choice alternatives).id
    match c.next? with
    | none => some (.fail id c.offset .inputExhausted)
    | some ch => attemptFirst admits call id ch alternatives rules c
  | .optional inner pulledUp, rules, c =>
    let id := (Matcher.optional inner pulledUp).id
    if c.exhausted then some (.absent id c.offset)
    else (Matcher.attempt admits call inner rules c).map (optionalOutcome id c.offset pulledUp)
  | .repetition element none least skipsBlanks, rules, c =>
    attemptRepetition (Matcher.repetition element none least skipsBlanks).id
      (fun c => Matcher.attempt admits call element rules c) none least skipsBlanks c
  | .repetition element (some separator) least skipsBlanks, rules, c =>
    attemptRepetition (Matcher.repetition element (some separator) least skipsBlanks).id
      (fun c => Matcher.attempt admits call element rules c)
      (some fun c => Matcher.attempt admits call separator rules c) least skipsBlanks c
  | .named name inner, rules, c =>
    (Matcher.attempt admits call inner rules c).map (namedOutcome name)
  | .guarded inner test, rules, c =>
    (Matcher.attempt admits call inner rules c).map
      (guardedOutcome (Matcher.guarded inner test).id c.offset test)
  | .upTo terminator, rules, c =>
    (seek
      (fun ch c =>
        if admits terminator ch then
          (Matcher.attempt admits call terminator rules c).map Outcome.isMatch
        else some false)
      c).map (skippedMatch (Matcher.upTo terminator).id c)
  | .remainder, _, c => some (skippedMatch Matcher.remainder.id c (c.advanceBy c.rest.length))
  | .balanced delimiters content, _, c => attemptBalanced delimiters content c
  | .reference index name, rules, c =>
    match rules[index]? with
    | some (found, m) =>
      if found = name then call rules m c else some (.fail name c.offset (.ruleNotInScope name))
    | none => some (.fail name c.offset (.ruleNotInScope name))
  | .closed inner rules, _, c => Matcher.attempt admits call inner rules c

/-- The outcome of the steps of a sequence that began at `start` and has come as far as `p`. -/
def attemptSteps (admits : Admission) (call : Call) (id : String) (config : Config)
    (start : Cursor) : List (Step Matcher) → Rules → Progress → Option Outcome
  | [], _, p => some (p.finish id start)
  | .take name m :: steps, rules, p =>
    let ready := p.current.ready config.skipsBlanks
    match Matcher.attempt admits call m rules ready with
    | none => none
    | some (.success found) =>
      let found := found.withName name
      match p.take name ready found with
      | .ok p => attemptSteps admits call id config start steps rules p
      | .error error =>
        some (.failure (.mk id ready.offset p.context (.misreported error)))
    | some (.absent _ _) => attemptSteps admits call id config start steps rules p
    | some (.failure f) => some (.failure (.mk id start.offset p.context (.atStep name f)))
  | .veto name accepts :: steps, rules, p =>
    if accepts p.context then attemptSteps admits call id config start steps rules p
    else some (.failure (.mk id start.offset p.context (.vetoedBy name)))
  | .alter name value :: steps, rules, p =>
    attemptSteps admits call id config start steps rules
      { p with context := Fields.insert p.context name (value p.context) }

/-- The outcome of the first alternative that matches, before the character `ch`. -/
def attemptFirst (admits : Admission) (call : Call) (id : String) (ch : Char) :
    List Matcher → Rules → Cursor → Option Outcome
  | [], _, c => some (.fail id c.offset .noAlternative)
  | m :: alternatives, rules, c =>
    if admits m ch then
      match Matcher.attempt admits call m rules c with
      | none => none
      | some (.success found) => some (.success found)
      | some _ => attemptFirst admits call id ch alternatives rules c
    else attemptFirst admits call id ch alternatives rules c

end

/-! ## Following rules -/

/-- Matching with rules followed to a depth of at most `depth`. -/
def Matcher.matchWith (admits : Admission) : Nat → Rules → Matcher → Cursor → Option Outcome
  | 0, rules, m, c => m.attempt admits (fun _ _ _ => none) rules c
  | depth + 1, rules, m, c => m.attempt admits (Matcher.matchWith admits depth) rules c

mutual

/-- The number of rules in the closures inside a matcher. -/
def Matcher.ruleCount : Matcher → Nat
  | .sequence _ steps _ => stepsRuleCount steps
  | .choice alternatives => listRuleCount alternatives
  | .optional inner _ => inner.ruleCount
  | .repetition element none _ _ => element.ruleCount
  | .repetition element (some separator) _ _ => element.ruleCount + separator.ruleCount
  | .named _ inner => inner.ruleCount
  | .guarded inner _ => inner.ruleCount
  | .upTo terminator => terminator.ruleCount
  | .closed inner rules => inner.ruleCount + rulesRuleCount rules
  | _ => 0

/-- The number of rules in the closures inside some steps. -/
def stepsRuleCount : List (Step Matcher) → Nat
  | [] => 0
  | .take _ m :: rest => m.ruleCount + stepsRuleCount rest
  | .veto .. :: rest => stepsRuleCount rest
  | .alter .. :: rest => stepsRuleCount rest

/-- The number of rules in the closures inside some matchers. -/
def listRuleCount : List Matcher → Nat
  | [] => 0
  | m :: rest => m.ruleCount + listRuleCount rest

/-- The number of some rules and of those in the closures inside them. -/
def rulesRuleCount : List (String × Matcher) → Nat
  | [] => 0
  | (_, m) :: rest => m.ruleCount + 1 + rulesRuleCount rest

end

/-- A depth that no attempt with an outcome exceeds: it follows each rule at most once at a time
from each place. -/
def Matcher.depthBound (rules : Rules) (m : Matcher) (c : Cursor) : Nat :=
  (m.ruleCount + rulesRuleCount rules) * (c.rest.length + 1)

/-- The outcome of a matcher at a cursor under some rules, if it has one. -/
def Matcher.matchIn (rules : Rules) (m : Matcher) (c : Cursor) : Option Outcome :=
  Matcher.matchWith Matcher.canStartWith (m.depthBound rules c) rules m c

/-- The outcome of a matcher at a cursor without any rules. -/
def Matcher.matchFront (m : Matcher) (c : Cursor) : Option Outcome := m.matchIn [] c

end Excerpt
