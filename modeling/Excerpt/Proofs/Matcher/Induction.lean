import Excerpt.Matcher.Attempt

/-!
# Induction on matchers

A matcher is a tree whose nodes hold lists of steps, of alternatives and of rules.  `Matcher.induct`
is the induction on this tree that every proof about all matchers uses: what is to be shown of a
node may be taken for granted of each matcher below it.  The rules of a closure are below it.

`Matcher.Part` relates a matcher to all matchers that stand in it, those in the rules of closures
included.  `attempt_repetition` gives the attempt of a repetition with and without a separator as one
equation, and `attempt_reference_cases` the two ways in which a reference can be tried.
-/

namespace Excerpt.Matcher

theorem sizeOf_lt_of_step {steps : List (Step Matcher)} {name : String} {m : Matcher}
    (h : Step.take name m ∈ steps) : sizeOf m < sizeOf steps := by
  have hlt := List.sizeOf_lt_of_mem h
  rw [Step.take.sizeOf_spec] at hlt
  omega

theorem sizeOf_lt_of_rule {rules : Rules} {rule : String × Matcher} (h : rule ∈ rules) :
    sizeOf rule.2 < sizeOf rules := by
  have hlt := List.sizeOf_lt_of_mem h
  obtain ⟨name, m⟩ := rule
  rw [Prod.mk.sizeOf_spec] at hlt
  show sizeOf m < sizeOf rules
  omega

/-- Induction on a matcher, with the matchers below each node. -/
@[elab_as_elim]
theorem induct {P : Matcher → Prop}
    (literal : ∀ text, P (.literal text))
    (pattern : ∀ p, P (.pattern p))
    (sequence : ∀ id steps config, (∀ name m, .take name m ∈ steps → P m) →
      P (.sequence id steps config))
    (choice : ∀ alternatives, (∀ m ∈ alternatives, P m) → P (.choice alternatives))
    (optional : ∀ inner pulledUp, P inner → P (.optional inner pulledUp))
    (repetition : ∀ element separator least skipsBlanks, P element →
      (∀ m, separator = some m → P m) → P (.repetition element separator least skipsBlanks))
    (named : ∀ name inner, P inner → P (.named name inner))
    (guarded : ∀ inner test, P inner → P (.guarded inner test))
    (upTo : ∀ terminator, P terminator → P (.upTo terminator))
    (remainder : P .remainder)
    (balanced : ∀ delimiters content, P (.balanced delimiters content))
    (reference : ∀ index name, P (.reference index name))
    (closed : ∀ inner rules, P inner → (∀ rule ∈ rules, P rule.2) → P (.closed inner rules))
    (m : Matcher) : P m := by
  induction hsize : sizeOf m using Nat.strongRecOn generalizing m with
  | ind size ih =>
    subst hsize
    cases m with
    | literal text => exact literal text
    | pattern p => exact pattern p
    | sequence id steps config =>
      refine sequence id steps config fun name m hm => ih _ ?_ m rfl
      have := sizeOf_lt_of_step hm
      rw [Matcher.sequence.sizeOf_spec]
      omega
    | choice alternatives =>
      refine choice alternatives fun m hm => ih _ ?_ m rfl
      have := List.sizeOf_lt_of_mem hm
      rw [Matcher.choice.sizeOf_spec]
      omega
    | optional inner pulledUp =>
      refine optional inner pulledUp (ih _ ?_ inner rfl)
      rw [Matcher.optional.sizeOf_spec]
      omega
    | repetition element separator least skipsBlanks =>
      refine repetition element separator least skipsBlanks (ih _ ?_ element rfl)
        fun m hm => ih _ ?_ m rfl
      · rw [Matcher.repetition.sizeOf_spec]
        omega
      · subst hm
        rw [Matcher.repetition.sizeOf_spec, Option.some.sizeOf_spec]
        omega
    | named name inner =>
      refine named name inner (ih _ ?_ inner rfl)
      rw [Matcher.named.sizeOf_spec]
      omega
    | guarded inner test =>
      refine guarded inner test (ih _ ?_ inner rfl)
      rw [Matcher.guarded.sizeOf_spec]
      omega
    | upTo terminator =>
      refine upTo terminator (ih _ ?_ terminator rfl)
      rw [Matcher.upTo.sizeOf_spec]
      omega
    | remainder => exact remainder
    | balanced delimiters content => exact balanced delimiters content
    | reference index name => exact reference index name
    | closed inner rules =>
      refine closed inner rules (ih _ ?_ inner rfl) fun rule hrule => ih _ ?_ rule.2 rfl
      · rw [Matcher.closed.sizeOf_spec]
        omega
      · have := sizeOf_lt_of_rule hrule
        rw [Matcher.closed.sizeOf_spec]
        omega

/-- A matcher stands in itself, and in all matchers that it is below. -/
inductive Part : Matcher → Matcher → Prop
  | self (m : Matcher) : Part m m
  | sequence {id : String} {steps : List (Step Matcher)} {config : Config} {name : String}
    {m part : Matcher} (hstep : .take name m ∈ steps) (hpart : Part m part) :
    Part (.sequence id steps config) part
  | choice {alternatives : List Matcher} {m part : Matcher} (hm : m ∈ alternatives)
    (hpart : Part m part) : Part (.choice alternatives) part
  | optional {inner part : Matcher} {pulledUp : Option String} (hpart : Part inner part) :
    Part (.optional inner pulledUp) part
  | element {element part : Matcher} {separator : Option Matcher} {least : Nat}
    {skipsBlanks : Bool} (hpart : Part element part) :
    Part (.repetition element separator least skipsBlanks) part
  | separator {element separator part : Matcher} {least : Nat} {skipsBlanks : Bool}
    (hpart : Part separator part) :
    Part (.repetition element (some separator) least skipsBlanks) part
  | named {name : String} {inner part : Matcher} (hpart : Part inner part) :
    Part (.named name inner) part
  | guarded {inner part : Matcher} {test : Match → Bool} (hpart : Part inner part) :
    Part (.guarded inner test) part
  | upTo {terminator part : Matcher} (hpart : Part terminator part) : Part (.upTo terminator) part
  | closed {inner part : Matcher} {rules : Rules} (hpart : Part inner part) :
    Part (.closed inner rules) part
  | rule {inner part : Matcher} {rules : Rules} {rule : String × Matcher} (hrule : rule ∈ rules)
    (hpart : Part rule.2 part) : Part (.closed inner rules) part

/-- The attempt of a repetition, whether it has a separator or not. -/
theorem attempt_repetition (admits : Admission) (call : Call) (element : Matcher)
    (separator : Option Matcher) (least : Nat) (skipsBlanks : Bool) (rules : Rules) (c : Cursor) :
    (repetition element separator least skipsBlanks).attempt admits call rules c =
      attemptRepetition (repetition element separator least skipsBlanks).id
        (element.attempt admits call rules)
        (separator.map fun m => m.attempt admits call rules) least skipsBlanks c := by
  cases separator with
  | none => rw [attempt]; rfl
  | some separator => rw [attempt]; rfl

/-- A reference calls the rule at its place if that has its name, and otherwise it fails. -/
theorem attempt_reference_cases (rules : Rules) (index : Nat) (name : String) :
    (∃ definition, rules[index]? = some (name, definition) ∧ ∀ admits call c,
        (reference index name).attempt admits call rules c = call rules definition c) ∨
      (∀ definition, rules[index]? ≠ some (name, definition)) ∧ ∀ admits call c,
        (reference index name).attempt admits call rules c =
          some (.fail name c.offset (.ruleNotInScope name)) := by
  simp only [attempt]
  cases rules[index]? with
  | none => exact Or.inr ⟨nofun, fun _ _ _ => rfl⟩
  | some rule =>
    obtain ⟨found, definition⟩ := rule
    by_cases hname : found = name
    · subst hname
      exact Or.inl ⟨definition, rfl, fun _ _ _ => if_pos rfl⟩
    · refine Or.inr ⟨fun definition' hsame => ?_, fun _ _ _ => if_neg hname⟩
      cases hsame
      exact hname rfl

end Excerpt.Matcher
