import Excerpt.Proofs.Matcher.Steps
import Excerpt.Proofs.Matcher.Success

/-!
# Match trees

A match tells the text that it covers and where that text begins, and so do all the matches that it
is made of.  `Matcher.nodes_placed` says that every node of the tree tells the truth: its text
stands in the input between its offset and its end, all text below it lies inside, and the parts of
a node stand in order.

Empty parts are an exception.  White space before a step is passed over for good only if the step
matched some text, so an empty step may be placed behind the end of its sequence.

* `Match.Placed` : what is to be said of one node, about its own text and about its parts.
* `Match.within_of_wellPlaced` : said of all nodes, it reaches parts at any depth.
* `Match.Row` : parts one after another between two offsets; this is what the loops of sequences and
  repetitions produce (`attemptSteps_row`, `Rounds.row`).
* `Attempt.PlacesNodes` : the property of attempts that goes through all matchers.
-/

namespace Excerpt

namespace Match

/-! ## Nodes -/

/-- A match is a node of itself, and so are the nodes of its parts. -/
inductive Node : Match → Match → Prop
  | self (m : Match) : Node m m
  | inside {m part n : Match} (hpart : part ∈ m.children) (hnode : Node part n) : Node m n

/-- What a match says about its own place and about those of its parts is so. -/
structure Placed (text : Text) (m : Match) : Prop where
  stands : Text.slice? text m.offset m.endOffset = some m.matched
  inside : ∀ part ∈ m.children, part.matched ≠ [] →
    m.offset ≤ part.offset ∧ part.endOffset ≤ m.endOffset
  ordered : m.children.Pairwise fun a b =>
    a.matched ≠ [] → b.matched ≠ [] → a.endOffset ≤ b.offset

/-- What the matches in a tree say about places is so. -/
def WellPlaced (text : Text) (m : Match) : Prop := ∀ n, m.Node n → n.Placed text

variable {text : Text} {m n : Match}

theorem offset_le_endOffset (m : Match) : m.offset ≤ m.endOffset := Nat.le_add_right _ _

theorem offset_lt_endOffset_iff : m.offset < m.endOffset ↔ m.matched ≠ [] := by
  have hbytes : 0 < Text.byteLength m.matched ↔ m.matched ≠ [] := by
    cases hmatched : m.matched with
    | nil => simp
    | cons ch rest =>
      have hpos : 0 < ch.utf8Size := Char.utf8Size_pos ch
      simp
      omega
  rw [← hbytes, endOffset]
  omega

theorem WellPlaced.part {part : Match} (h : m.WellPlaced text) (hpart : part ∈ m.children) :
    part.WellPlaced text :=
  fun n hn => h n (.inside hpart hn)

theorem WellPlaced.node (h : m.WellPlaced text) (hnode : m.Node n) : n.WellPlaced text := by
  induction hnode with
  | self => exact h
  | inside hpart _ ih => exact ih (h.part hpart)

theorem wellPlaced_of_parts (hself : m.Placed text)
    (hparts : ∀ part ∈ m.children, part.WellPlaced text) : m.WellPlaced text := by
  intro n hn
  cases hn with
  | self => exact hself
  | inside hpart hnode => exact hparts _ hpart n hnode

/-- Nodes of some text lie inside, at any depth: the parts on the way to them are not empty. -/
theorem within_of_wellPlaced (h : m.WellPlaced text) (hnode : m.Node n) (hne : n.matched ≠ []) :
    m.offset ≤ n.offset ∧ n.endOffset ≤ m.endOffset := by
  induction hnode with
  | self m => exact ⟨Nat.le_refl _, Nat.le_refl _⟩
  | @inside m part n hpart _ ih =>
    obtain ⟨hfirst, hlast⟩ := ih (h.part hpart) hne
    have hpartNe : part.matched ≠ [] := by
      have hless := offset_lt_endOffset_iff.2 hne
      rw [← offset_lt_endOffset_iff]
      omega
    obtain ⟨hpartFirst, hpartLast⟩ := (h m (.self m)).inside part hpart hpartNe
    omega

/-! ## Rows -/

/-- Matches that stand one after another between two offsets; empty ones may stand anywhere. -/
inductive Row : Nat → List Match → Nat → Prop
  | nil {first last : Nat} (hle : first ≤ last) : Row first [] last
  | empty {first last : Nat} {m : Match} {rest : List Match} (hempty : m.matched = [])
    (hrest : Row first rest last) : Row first (m :: rest) last
  | cons {first last : Nat} {m : Match} {rest : List Match} (hfirst : first ≤ m.offset)
    (hrest : Row m.endOffset rest last) : Row first (m :: rest) last

namespace Row

variable {first last : Nat} {ms : List Match}

theorem le (h : Row first ms last) : first ≤ last := by
  induction h with
  | nil hle => exact hle
  | empty _ _ ih => exact ih
  | @cons _ _ m _ hfirst _ ih => exact Nat.le_trans hfirst (Nat.le_trans m.offset_le_endOffset ih)

theorem within (h : Row first ms last) :
    ∀ m ∈ ms, m.matched ≠ [] → first ≤ m.offset ∧ m.endOffset ≤ last := by
  induction h with
  | nil _ => simp
  | empty hempty _ ih =>
    intro m hm hne
    rcases List.mem_cons.1 hm with rfl | hm
    · exact absurd hempty hne
    · exact ih m hm hne
  | @cons first last head rest hfirst hrest ih =>
    intro m hm hne
    rcases List.mem_cons.1 hm with rfl | hm
    · exact ⟨hfirst, hrest.le⟩
    · obtain ⟨hbehind, hlast⟩ := ih m hm hne
      have hhead := head.offset_le_endOffset
      exact ⟨by omega, hlast⟩

theorem pairwise (h : Row first ms last) :
    ms.Pairwise fun a b => a.matched ≠ [] → b.matched ≠ [] → a.endOffset ≤ b.offset := by
  induction h with
  | nil _ => exact .nil
  | empty hempty _ ih =>
    refine .cons (fun b _ hne _ => ?_) ih
    exact absurd hempty hne
  | cons _ hrest ih => exact .cons (fun b hb _ hne => (hrest.within b hb hne).1) ih

end Row

end Match

/-! ## Matches where they were tried -/

/-- Attempts answer well-placed trees. -/
def Attempt.PlacesNodes (a : Attempt) : Prop :=
  ∀ c m, a c = some (.success m) → m.WellPlaced c.text

section Places

variable {c : Cursor} {m : Match}

/-- A match that stands where it was tried, with its parts in a row, is placed. -/
theorem placed_of_standsAt (h : (Outcome.success m).StandsAt c)
    (hrow : Match.Row m.offset m.children m.endOffset) : m.Placed c.text where
  stands := by
    obtain ⟨next, hmoves⟩ := Cursor.exists_moves_of_isPrefix h.2
    rw [Match.endOffset, h.1]
    exact hmoves.slice?_eq
  inside := hrow.within
  ordered := hrow.pairwise

/-- Another name, another value or no fields make no difference to places. -/
theorem wellPlaced_of_same {m' : Match} {text : Text} (h : m.WellPlaced text)
    (hmatched : m'.matched = m.matched) (hoffset : m'.offset = m.offset)
    (hchildren : m'.children = m.children) : m'.WellPlaced text := by
  have hend : m'.endOffset = m.endOffset := by
    rw [Match.endOffset, Match.endOffset, hoffset, hmatched]
  obtain ⟨hstands, hinside, hordered⟩ := h m (.self m)
  apply Match.wellPlaced_of_parts
  · constructor
    · rw [hoffset, hend, hmatched]
      exact hstands
    · rw [hoffset, hend, hchildren]
      exact hinside
    · rw [hchildren]
      exact hordered
  · intro part hpart
    rw [hchildren] at hpart
    exact h.part hpart

end Places

/-! ## Repetitions -/

section Rounds

variable {element : Attempt} {separator : Option Attempt} {skipsBlanks : Bool}

/-- The elements of a repetition stand in a row: a round begins where the last one ended. -/
theorem Rounds.row (hstands : element.Stands) (hplaces : element.PlacesNodes) {isFirst : Bool}
    {c last : Cursor} {found : List Match}
    (h : Rounds element separator skipsBlanks isFirst c found last) :
    c.Reaches last ∧ Match.Row c.offset found last.offset ∧
      ∀ m ∈ found, m.WellPlaced c.text := by
  induction h with
  | finished _ | last _ _ => exact ⟨.refl _, .nil (Nat.le_refl _), by simp⟩
  | @more isFirst c next last m found _ hround _ ih =>
    obtain ⟨hreach, hrow, hfound⟩ := ih
    obtain ⟨place, hplace, hattempt, hmoves, _⟩ := repetitionRound_eq_more hround
    have hahead : c.Reaches place := hplace.reaches
    have hnext : c.Reaches next := hahead.trans ⟨_, hmoves⟩
    have hoffset : m.offset = place.offset := (hstands place _ hattempt).1
    refine ⟨hnext.trans hreach, .cons ?_ ?_, ?_⟩
    · rw [hoffset]
      exact hahead.offset_le
    · rw [Match.endOffset, hoffset, ← hmoves.offset_eq]
      exact hrow
    · intro m' hm'
      rcases List.mem_cons.1 hm' with rfl | hm'
      · rw [← hahead.text_eq]
        exact hplaces place _ hattempt
      · rw [← hnext.text_eq]
        exact hfound m' hm'

theorem attemptRepetition_placesNodes (helement : element.Stands) (hplaces : element.PlacesNodes)
    (hseparator : ∀ attempt, separator = some attempt → attempt.Stands) (id : String)
    (least : Nat) :
    Attempt.PlacesNodes (attemptRepetition id element separator least skipsBlanks) := by
  intro c m h
  have hstands := attemptRepetition_stands helement hseparator id least c _ h
  rw [attemptRepetition] at h
  cases hfound : elements element separator skipsBlanks (c.rest.length + 1) [] c with
  | none =>
    rw [hfound] at h
    cases h
  | some r =>
    obtain ⟨all, last, rfl, _⟩ := elements_eq_ok helement hseparator _ hfound
    obtain ⟨found, hall, hrounds⟩ := rounds_of_elements _ (Nat.lt_succ_self _) hfound
    obtain ⟨⟨t, hmoves⟩, hrow, hparts⟩ := hrounds.row helement hplaces
    rw [List.reverse_nil, List.nil_append] at hall
    subst hall
    rw [hfound] at h
    simp only at h
    split at h
    · cases h
    · cases h
      refine Match.wellPlaced_of_parts (placed_of_standsAt hstands ?_) hparts
      show Match.Row c.offset all (c.offset + Text.byteLength (c.textTo last))
      rw [hmoves.textTo_eq, ← hmoves.offset_eq]
      exact hrow

end Rounds

/-! ## Sequences -/

namespace Matcher

variable {admits : Admission} {call : Call} {rules : Rules}

/-- What a step has taken stands in a row with what is behind it. -/
theorem row_of_take {p p' : Progress} {ready : Cursor} {found : Match} {name : String}
    {rest : List Match} {last : Nat} (hready : p.current.Reaches ready)
    (hoffset : found.offset = ready.offset)
    (htake : p.take name ready (found.withName name) = .ok p')
    (hrest : Match.Row p'.current.offset rest last) :
    Match.Row p.current.offset (found.withName name :: rest) last := by
  obtain ⟨⟨hempty, hsame⟩ | ⟨_, hmoves⟩, _⟩ := Progress.take_eq_ok htake
  · rw [hsame] at hrest
    exact .empty hempty hrest
  · have hfirst : p.current.offset ≤ found.offset := by
      rw [hoffset]
      exact hready.offset_le
    have hend : (found.withName name).endOffset = p'.current.offset := by
      rw [hmoves.offset_eq, Match.endOffset]
      exact congrArg (· + _) hoffset
    exact .cons hfirst (hend ▸ hrest)

/-- The matches of the steps of a sequence stand in a row, in front of what the sequence has come to
in the end. -/
theorem attemptSteps_row {id : String} {config : Config} {start : Cursor} {m : Match}
    {steps : List (Step Matcher)}
    (hstands : ∀ name m, .take name m ∈ steps → Attempt.Stands (m.attempt admits call rules))
    (ih : ∀ name m, .take name m ∈ steps → Attempt.PlacesNodes (m.attempt admits call rules)) :
    ∀ {p : Progress}, attemptSteps admits call id config start steps rules p = some (.success m) →
      ∃ parts last context,
        m = .ofSequence id (start.textTo last) start.offset (p.children.reverse ++ parts) context ∧
        p.current.Reaches last ∧ Match.Row p.current.offset parts last.offset ∧
        ∀ part ∈ parts, part.WellPlaced p.current.text := by
  induction steps with
  | nil =>
    intro p h
    rw [attemptSteps] at h
    cases h
    exact ⟨[], p.current, p.context, by rw [List.append_nil], .refl _, .nil (Nat.le_refl _),
      by simp⟩
  | cons step steps ihsteps =>
    have hrest := @ihsteps (fun name m hm => hstands name m (List.mem_cons_of_mem _ hm))
      (fun name m hm => ih name m (List.mem_cons_of_mem _ hm))
    intro p h
    cases step with
    | take name inner =>
      have hinner := hstands name inner List.mem_cons_self
      have hready : p.current.Reaches (p.current.ready config.skipsBlanks) :=
        (Cursor.Reaches.refl _).ready _
      obtain ⟨_, _, _, hbehind⟩ | ⟨found, p', hattempt, htake, hbehind⟩ :=
        attemptSteps_take_eq_success hinner h
      · exact hrest hbehind
      · obtain ⟨parts, last, context, rfl, hlast, hrow, hparts⟩ := hrest hbehind
        obtain ⟨_, _, hchildren⟩ := Progress.take_eq_ok htake
        have hcurrent : p.current.Reaches p'.current :=
          Progress.reaches_of_take (.refl _) hready htake
        refine ⟨found.withName name :: parts, last, context, ?_, hcurrent.trans hlast,
          row_of_take hready (hinner _ _ hattempt).1 htake hrow, ?_⟩
        · rw [hchildren, List.reverse_cons, List.append_assoc, List.singleton_append]
        · intro part hpart
          rcases List.mem_cons.1 hpart with rfl | hpart
          · have hplaced := ih name inner List.mem_cons_self _ _ hattempt
            rw [← hready.text_eq]
            exact wellPlaced_of_same hplaced rfl rfl rfl
          · rw [← hcurrent.text_eq]
            exact hparts part hpart
    | veto name accepts =>
      rw [attemptSteps] at h
      split at h
      · exact hrest h
      · cases h
    | alter name value =>
      rw [attemptSteps] at h
      have hparts := hrest h
      exact hparts

/-! ## All matchers -/

/-- A match without parts need only stand where it was tried. -/
theorem placesNodes_of_matchesText
    (hstands : ∀ own definition, Attempt.Stands (call own definition)) {m : Matcher}
    (hm : m.matchesText = true) :
    Attempt.PlacesNodes (m.attempt admits call rules) := by
  intro c found h
  obtain ⟨_, _, _, _, hleaf⟩ := attempt_eq_leaf hm h
  have hnil : found.children = [] := by rw [hleaf]; rfl
  apply Match.wellPlaced_of_parts
  · apply placed_of_standsAt (attempt_stands hstands m rules c _ h)
    rw [hnil]
    exact .nil found.offset_le_endOffset
  · rw [hnil]
    simp

/-- The trees of all matchers are well placed, if those of the called rules are. -/
theorem attempt_placesNodes (hstands : ∀ own definition, Attempt.Stands (call own definition))
    (hcall : ∀ own definition, Attempt.PlacesNodes (call own definition)) (m : Matcher) :
    ∀ rules, Attempt.PlacesNodes (m.attempt admits call rules) := by
  induction m using Matcher.induct with
  | literal _ | pattern _ | upTo _ _ | remainder | balanced _ _ =>
    intro rules
    exact placesNodes_of_matchesText hstands rfl
  | sequence id steps config ih =>
    intro rules c found h
    have hstandsAt := attempt_stands hstands (sequence id steps config) rules c _ h
    rw [attempt] at h
    obtain ⟨parts, last, context, rfl, ⟨t, hmoves⟩, hrow, hparts⟩ :=
      attemptSteps_row (fun name m _ => attempt_stands hstands m rules)
        (fun name m hm => ih name m hm rules) h
    refine Match.wellPlaced_of_parts (placed_of_standsAt hstandsAt ?_) hparts
    show Match.Row c.offset parts (c.offset + Text.byteLength (c.textTo last))
    rw [hmoves.textTo_eq, ← hmoves.offset_eq]
    exact hrow
  | choice alternatives ih =>
    intro rules c found h
    obtain ⟨m, hm, hattempt⟩ := attempt_choice_eq_success h
    exact ih m hm rules c found hattempt
  | optional inner pulledUp ih =>
    intro rules c found h
    obtain ⟨m, hattempt, ⟨_, rfl⟩ | ⟨field, _, rfl⟩⟩ := attempt_optional_eq_success h
    · exact ih rules c _ hattempt
    · exact wellPlaced_of_same (ih rules c m hattempt) rfl rfl rfl
  | repetition element separator least skipsBlanks ihe _ =>
    intro rules c found h
    rw [attempt_repetition] at h
    refine attemptRepetition_placesNodes (attempt_stands hstands element rules) (ihe rules)
      (fun attempt hattempt => ?_) _ least c found h
    obtain ⟨separator, _, rfl⟩ := Option.map_eq_some_iff.1 hattempt
    exact attempt_stands hstands separator rules
  | named name inner ih =>
    intro rules c found h
    obtain ⟨m, hattempt, rfl⟩ := attempt_named_eq_success h
    exact wellPlaced_of_same (ih rules c m hattempt) rfl rfl rfl
  | guarded inner test ih =>
    intro rules c found h
    exact ih rules c found (attempt_guarded_eq_success h).1
  | reference index name =>
    intro rules c found h
    obtain ⟨definition, _, hattempt⟩ := attempt_reference_eq_success h
    exact hcall rules definition c found hattempt
  | closed inner own ih _ =>
    intro rules c found h
    rw [attempt] at h
    exact ih own c found h

theorem follow_placesNodes (admits : Admission) (depth : Nat) :
    ∀ own definition, Attempt.PlacesNodes (follow admits depth own definition) := by
  induction depth with
  | zero =>
    intro own definition c found h
    cases h
  | succ depth ih =>
    intro own definition c found h
    rw [follow, matchWith_eq_attempt] at h
    exact attempt_placesNodes (follow_stands admits depth) ih definition own c found h

/-- Every node of a match tells its place truly: its text stands there, all text below it lies
inside it, and its parts stand in order. -/
theorem nodes_placed {rules : Rules} {m : Matcher} {c : Cursor} {found : Match}
    (h : m.matchIn rules c = some (.success found)) :
    ∀ n, found.Node n →
      Text.slice? c.text n.offset n.endOffset = some n.matched ∧
      (∀ inner, n.Node inner → inner.matched ≠ [] →
        n.offset ≤ inner.offset ∧ inner.endOffset ≤ n.endOffset) ∧
      n.children.Pairwise fun a b => a.matched ≠ [] → b.matched ≠ [] → a.endOffset ≤ b.offset := by
  rw [matchIn, matchWith_eq_attempt] at h
  have hplaced : found.WellPlaced c.text :=
    attempt_placesNodes (follow_stands _ _) (follow_placesNodes _ _) m rules c found h
  intro n hn
  obtain ⟨hstands, _, hordered⟩ := hplaced n hn
  exact ⟨hstands, fun _ => Match.within_of_wellPlaced (hplaced.node hn), hordered⟩

/-- Items by a rule, with commas between them, and a mark behind them whose word is pulled up. -/
def markedItems : Matcher :=
  .sequence "marked"
    [.take "_open" (.literal "("),
      .take "items" (.repetition (.reference 0 "item") (some (.literal ",")) 1 true),
      .take "mark"
        (.optional (.sequence "mark" [.take "_bang" (.literal "!"), .take "word" (.literal "ok")]
          .strict) (some "word")),
      .take "_close" (.literal ")")]
    .relaxed

/-- The rule for an item. -/
def itemRules : Rules := [("item", .choice [.literal "x", .literal "é"])]

theorem nodes_placed_markedItems :
    ∃ found, markedItems.matchIn itemRules (Cursor.ofString "é ( x , é !ok )").advance =
        some (.success found) ∧
      ∀ n, found.Node n →
        Text.slice? (Cursor.ofString "é ( x , é !ok )").advance.text n.offset n.endOffset =
          some n.matched ∧
        (∀ inner, n.Node inner → inner.matched ≠ [] →
          n.offset ≤ inner.offset ∧ inner.endOffset ≤ n.endOffset) ∧
        n.children.Pairwise fun a b =>
          a.matched ≠ [] → b.matched ≠ [] → a.endOffset ≤ b.offset := by
  have hmatches : (markedItems.matchIn itemRules
      (Cursor.ofString "é ( x , é !ok )").advance).any Outcome.isMatch = true := by
    decide +kernel
  obtain ⟨o, ho, hsuccess⟩ := (Option.any_eq_true _ _).1 hmatches
  cases o with
  | failure _ | absent _ _ => cases hsuccess
  | success found => exact ⟨found, ho, nodes_placed ho⟩

end Matcher

end Excerpt
