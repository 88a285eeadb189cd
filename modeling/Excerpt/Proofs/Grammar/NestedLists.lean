import Excerpt.Grammar
import Excerpt.Proofs.Matcher.LeftRecursion
import Excerpt.Proofs.Matcher.Steps
import Excerpt.Proofs.Regex.SomeOf
import Excerpt.Proofs.Scan.WholeText
import Excerpt.Proofs.Text.Rendering

/-!
# Nested lists

A recursive grammar: a list is an opening bracket, items with commas between them, and a closing
bracket; an item is a list or a word.  The grammar is an inverse of writing a tree down, with any
white space before each of its tokens (`exactMatch_iff_renders`).

What an attempt does is said by `readList_eq_success_iff` and `readItem_eq_success_iff`; nothing
behind these looks at the matchers again.  The two directions are then two inductions:

* `Tree.readItem_of_reads` and `readBack` : what is written is read back, by induction on the tree.
  The text behind a tree is arbitrary, but for letters and digits, which would make a last word
  longer.
* `listsWritten` : what is read was written, by induction on the length of the text that is left.
-/

namespace Excerpt.NestedLists

open Text Cursor

/-! ## Trees -/

/-- One or more ASCII letters and digits. -/
@[ext] structure Word where
  text : Text
  ne_nil : text ≠ []
  alphanumeric : ∀ ch ∈ text, ch.isAlphanum = true

/-- A word, or a list of trees. -/
inductive Tree where
  | word (w : Word)
  | list (items : List Tree)

mutual

/-- The tokens that a tree is written with. -/
def Tree.tokens : Tree → List Text
  | .word w => [w.text]
  | .list items => ['['] :: (itemTokens true items ++ [[']']])

/-- The tokens of items one after another, with a comma before each but the first of a list. -/
def itemTokens : Bool → List Tree → List Text
  | _, [] => []
  | true, item :: rest => item.tokens ++ itemTokens false rest
  | false, item :: rest => [','] :: (item.tokens ++ itemTokens false rest)

end

mutual

/-- The value extracted for a tree: the text of a word, or the items under their field name. -/
def Tree.value : Tree → Value
  | .word w => .string (String.ofList w.text)
  | .list items => .map [("items", .list (values items))]

/-- The values of trees, in order. -/
def values : List Tree → List Value
  | [] => []
  | item :: rest => item.value :: values rest

end

mutual

/-- Different trees have different values. -/
theorem Tree.value_injective : ∀ (tree tree' : Tree), tree.value = tree'.value → tree = tree'
  | .word w, .word w', h => by
    simp only [Tree.value, Value.string.injEq, String.ofList_inj] at h
    rw [Word.ext h]
  | .list items, .list items', h => by
    simp only [Tree.value, Value.map.injEq, List.cons.injEq, Prod.mk.injEq, Value.list.injEq,
      true_and, and_true] at h
    rw [values_injective items items' h]
  | .word _, .list _, h => by simp [Tree.value] at h
  | .list _, .word _, h => by simp [Tree.value] at h

theorem values_injective : ∀ (items items' : List Tree), values items = values items' →
    items = items'
  | [], [], _ => rfl
  | item :: rest, item' :: rest', h => by
    simp only [values, List.cons.injEq] at h
    rw [item.value_injective item' h.1, values_injective rest rest' h.2]
  | [], _ :: _, h => by simp [values] at h
  | _ :: _, [], h => by simp [values] at h

end

theorem isBlank_of_isAlphanum {ch : Char} (h : ch.isAlphanum = true) : isBlank ch = false := by
  rw [← Regex.CharSet.holds_asciiAlphanumeric] at h
  simp [Regex.CharSet.holds, Regex.CharSet.has, Regex.CharSet.inOrder,
    Regex.CharSet.asciiAlphanumeric] at h
  simp [isBlank]
  omega

theorem Word.isToken (w : Word) : IsToken w.text := by
  obtain ⟨ch, rest, htext⟩ := List.exists_cons_of_ne_nil w.ne_nil
  have hch : ch ∈ w.text := by rw [htext]; exact List.mem_cons_self
  exact ⟨ch, rest, htext, isBlank_of_isAlphanum (w.alphanumeric ch hch)⟩

theorem isToken_bracket : IsToken ['['] := ⟨'[', [], rfl, by decide⟩

theorem isToken_comma : IsToken [','] := ⟨',', [], rfl, by decide⟩

theorem isToken_closing : IsToken [']'] := ⟨']', [], rfl, by decide⟩

mutual

theorem Tree.isToken_of_mem : ∀ (tree : Tree) {token : Text}, token ∈ tree.tokens → IsToken token
  | .word w, token, h => by
    rw [Tree.tokens, List.mem_singleton] at h
    rw [h]
    exact w.isToken
  | .list items, token, h => by
    rw [Tree.tokens] at h
    rcases List.mem_cons.1 h with rfl | h
    · exact isToken_bracket
    · rcases List.mem_append.1 h with h | h
      · exact isToken_of_mem_itemTokens items true h
      · rw [List.mem_singleton.1 h]
        exact isToken_closing

theorem isToken_of_mem_itemTokens : ∀ (items : List Tree) (isFirst : Bool) {token : Text},
    token ∈ itemTokens isFirst items → IsToken token
  | [], isFirst, token, h => by
    cases isFirst <;> cases h
  | item :: rest, true, token, h => by
    rw [itemTokens] at h
    rcases List.mem_append.1 h with h | h
    · exact item.isToken_of_mem h
    · exact isToken_of_mem_itemTokens rest false h
  | item :: rest, false, token, h => by
    rw [itemTokens] at h
    rcases List.mem_cons.1 h with rfl | h
    · exact isToken_comma
    · rcases List.mem_append.1 h with h | h
      · exact item.isToken_of_mem h
      · exact isToken_of_mem_itemTokens rest false h

end

theorem Tree.exists_tokens_eq (tree : Tree) :
    ∃ token rest, tree.tokens = token :: rest ∧ IsToken token := by
  cases tree with
  | word w => exact ⟨_, _, rfl, w.isToken⟩
  | list items => exact ⟨_, _, rfl, isToken_bracket⟩

/-! ## The grammar -/

/-- A list or a word. -/
def item : Matcher := .choice [.reference 0 "list", .asciiWord]

/-- Items with commas between them. -/
def items : Matcher := .repetition item (some (.literal ",")) 0 true

/-- Items in brackets. -/
def definitions : Definitions where
  id := none
  entries :=
    [.matcher "_open" (.literal "["), .matcher "items" items, .matcher "_close" (.literal "]")]
  config := none

/-- The rule of lists. -/
def listRule : Matcher :=
  .sequence "Concat\x7b_open,items,_close\x7d"
    [.take "_open" (.literal "["), .take "items" items, .take "_close" (.literal "]")] .default

def rules : Rules := [("list", listRule)]

/-- The grammar of lists. -/
def grammar : Grammar := (Grammar.ofMatcher (.reference 0 "list")).withRules rules

/-- The rule is declared first, so that its definition can refer to it. -/
theorem define_listRule :
    (definitions.compile? .default).bind (fun m =>
      ((RuleBook.empty.declare "list").2.define? "list" m).bind RuleBook.build?) = .ok rules :=
  rfl

/-! ## Attempts -/

/-- A list at a cursor. -/
def readList : Attempt := listRule.matchIn rules

/-- An item at a cursor. -/
def readItem : Attempt := item.attempt Matcher.canStartWith Matcher.matching rules

/-- A comma at a cursor. -/
def readComma : Attempt := (Matcher.literal ",").attempt Matcher.canStartWith Matcher.matching rules

theorem grammar_attempt (c : Cursor) : grammar.attempt c = readList c := by
  have hrule : rules[0]? = some ("list", listRule) := rfl
  show (Matcher.reference 0 "list").matchIn rules c = readList c
  rw [Matcher.matchIn_eq_attempt, Matcher.attempt]
  simp only [hrule, if_true]
  rfl

theorem readItem_stands : readItem.Stands :=
  Matcher.attempt_stands Matcher.matchIn_stands item rules

theorem readComma_stands : readComma.Stands :=
  Matcher.attempt_stands Matcher.matchIn_stands _ rules

/-- The match of a list from `c` to `last`, with a bracket up to `inside` and items up to
`outside`. -/
def listMatch (c inside : Cursor) (ms : List Match) (outside last : Cursor) : Match :=
  .ofSequence "Concat\x7b_open,items,_close\x7d" (c.textTo last) c.offset
    [(Match.leaf (Text.quote "[") ['['] (c.ready true).offset (.string "[")).withName "_open",
      (Match.ofElements items.id ((inside.ready true).textTo outside)
        (inside.ready true).offset ms).withName "items",
      (Match.leaf (Text.quote "]") [']'] (outside.ready true).offset (.string "]")).withName
        "_close"]
    [("_open", .string "["), ("items", .list (ms.map Match.value)), ("_close", .string "]")]

/-- The items of a list do not fail, and end where the next round would not find any more. -/
theorem attempt_items_iff {c : Cursor} {o : Outcome} :
    items.attempt Matcher.canStartWith Matcher.matching rules c = some o ↔
      ∃ ms outside, Rounds readItem (some readComma) true true c ms outside ∧
        o = .success (.ofElements items.id (c.textTo outside) c.offset ms) := by
  have hitems : items.attempt Matcher.canStartWith Matcher.matching rules c =
      attemptRepetition items.id readItem (some readComma) 0 true c := by
    rw [items, Matcher.attempt]
    rfl
  rw [hitems]
  constructor
  · intro h
    obtain ⟨found, rfl⟩ := attemptRepetition_zero readItem_stands
      (fun attempt hattempt => by cases hattempt; exact readComma_stands) h
    obtain ⟨ms, outside, hrounds, _, rfl⟩ := attemptRepetition_eq_success_iff.1 h
    exact ⟨ms, outside, hrounds, rfl⟩
  · rintro ⟨ms, outside, hrounds, rfl⟩
    exact attemptRepetition_eq_success_iff.2 ⟨ms, outside, hrounds, Nat.zero_le _, rfl⟩

/-- A list is read exactly if there is a bracket, then come the rounds of the items, and a bracket
after these. -/
theorem readList_eq_success_iff {c : Cursor} {m : Match} :
    readList c = some (.success m) ↔
      ∃ inside ms outside last, (c.ready true).Moves ['['] inside ∧
        Rounds readItem (some readComma) true true (inside.ready true) ms outside ∧
        (outside.ready true).Moves [']'] last ∧ m = listMatch c inside ms outside last := by
  have hstands : Attempt.Stands (items.attempt Matcher.canStartWith Matcher.matching rules) :=
    Matcher.attempt_stands Matcher.matchIn_stands items rules
  rw [readList, Matcher.matchIn_eq_attempt, listRule, Matcher.attempt,
    attemptSteps_literal_iff (by decide)]
  refine exists_congr fun inside => ?_
  rw [attemptSteps_take_iff hstands]
  · constructor
    · rintro ⟨hopen, part, p', hattempt, htake, h⟩
      obtain ⟨ms, outside, hrounds, hpart⟩ := attempt_items_iff.1 hattempt
      cases hpart
      have hready := Progress.ready_of_take htake hrounds.reaches.moves_textTo
      obtain ⟨_, hcontext, hchildren⟩ := Progress.take_eq_ok htake
      obtain ⟨last, hclose, hfinish⟩ := (attemptSteps_literal_iff (by decide)).1 h
      rw [hready] at hclose hfinish
      rw [attemptSteps] at hfinish
      cases hfinish
      refine ⟨ms, outside, last, hopen, hrounds, hclose, ?_⟩
      simp only [Progress.behindLiteral, hcontext, hchildren]
      rfl
    · rintro ⟨ms, outside, last, hopen, hrounds, hclose, rfl⟩
      have hattempt := attempt_items_iff.2 ⟨ms, outside, hrounds, rfl⟩
      obtain ⟨p', htake⟩ := Progress.exists_take (hstands _ _ hattempt).2
        (Progress.behindLiteral ⟨c, [], []⟩ "_open" "[" (c.ready true) inside) "items"
      have hready : p'.current.ready Config.default.skipsBlanks = outside.ready true :=
        Progress.ready_of_take htake hrounds.reaches.moves_textTo
      obtain ⟨_, hcontext, hchildren⟩ := Progress.take_eq_ok htake
      refine ⟨hopen, _, p', hattempt, htake, ?_⟩
      refine (attemptSteps_literal_iff (by decide)).2 ⟨last, ?_, ?_⟩
      · rw [hready]
        exact hclose
      · rw [hready, attemptSteps]
        simp only [Progress.behindLiteral, hcontext, hchildren]
        rfl
  · intro who offset habsent
    obtain ⟨ms, outside, _, hsuccess⟩ := attempt_items_iff.1 habsent
    cases hsuccess

/-- A word at a cursor. -/
def readWord (c : Cursor) : Outcome :=
  (Pattern.someOf "[a-zA-Z0-9]+" .asciiAlphanumeric).attempt c

/-- An item is a list if there is one, and otherwise a word. -/
theorem readItem_of_next {c : Cursor} {ch : Char} (hnext : c.next? = some ch) :
    readItem c =
      match readList c with
      | none => none
      | some (.success m) => some (.success m)
      | some _ =>
        match readWord c with
        | .success m => some (.success m)
        | _ => some (.fail item.id c.offset .noAlternative) := by
  have hlist : (Matcher.reference 0 "list").attempt Matcher.canStartWith Matcher.matching rules c =
      readList c := by
    rw [← Matcher.matchIn_eq_attempt]
    exact grammar_attempt c
  have hword : (Matcher.pattern (.someOf "[a-zA-Z0-9]+" .asciiAlphanumeric)).attempt
      Matcher.canStartWith Matcher.matching rules c = some (readWord c) := by
    rw [Matcher.attempt]
    rfl
  rw [readItem, item, Matcher.attempt]
  simp only [hnext, attemptFirst, Matcher.canStartWith, if_true, hlist, Matcher.asciiWord_eq, hword]
  cases readList c with
  | none => rfl
  | some o => cases o <;> cases readWord c <;> rfl

/-- The word that is read is the longest run of letters and digits. -/
theorem readWord_eq_success_iff {c : Cursor} {m : Match} :
    readWord c = .success m ↔
      ∃ w : Word, c.rest.takeWhile Char.isAlphanum = w.text ∧
        m = .leaf "/[a-zA-Z0-9]+/" w.text c.offset (.string (String.ofList w.text)) := by
  have hholds : Regex.CharSet.asciiAlphanumeric.holds = Char.isAlphanum :=
    funext Regex.CharSet.holds_asciiAlphanumeric
  rw [readWord, Pattern.attempt_someOf, hholds]
  constructor
  · intro h
    split at h
    · cases h
    · rename_i hne
      cases h
      exact ⟨⟨_, hne, fun ch hch => List.mem_takeWhile_imp hch⟩, rfl, rfl⟩
  · rintro ⟨w, hw, rfl⟩
    rw [hw, if_neg w.ne_nil]
    rfl

theorem readItem_of_nil {c : Cursor} (h : c.rest = []) :
    readItem c = some (.fail item.id c.offset .inputExhausted) := by
  have hnext : c.next? = none := by rw [next?, h]; rfl
  rw [readItem, item, Matcher.attempt]
  simp only [hnext]

/-- What is read begins before the end of the text. -/
theorem rest_ne_nil_of_readList {c : Cursor} {m : Match} (h : readList c = some (.success m)) :
    c.rest ≠ [] := by
  obtain ⟨inside, ms, outside, last, hopen, _⟩ := readList_eq_success_iff.1 h
  have hreach := ((Reaches.refl c).ready true).length_rest_le
  have hlength := hopen.length_rest
  intro hnil
  rw [hnil] at hreach
  simp only [List.length_nil, List.length_cons] at hreach hlength
  omega

/-- An item is a list if there is one, and otherwise a word. -/
theorem readItem_eq_success_iff {c : Cursor} {m : Match} :
    readItem c = some (.success m) ↔
      readList c = some (.success m) ∨
        (∃ o, readList c = some o ∧ o.isMatch = false) ∧ readWord c = .success m := by
  cases hrest : c.rest with
  | nil =>
    rw [readItem_of_nil hrest]
    constructor
    · intro h
      cases h
    · rintro (hlist | ⟨_, hword⟩)
      · exact absurd hrest (rest_ne_nil_of_readList hlist)
      · obtain ⟨w, hw, _⟩ := readWord_eq_success_iff.1 hword
        rw [hrest] at hw
        exact absurd hw.symm w.ne_nil
  | cons ch rest =>
    rw [readItem_of_next (next?_eq_some_iff.2 ⟨rest, hrest⟩)]
    cases readList c with
    | none => simp
    | some o =>
      cases o <;> cases readWord c <;> simp [Outcome.isMatch, Outcome.fail]

/-- There is no list where no bracket stands. -/
theorem exists_readList_failure {c : Cursor} {ch : Char} {rest : Text}
    (hrest : (c.ready true).rest = ch :: rest) (hch : ch ≠ '[') :
    ∃ f, readList c = some (.failure f) := by
  rw [readList, Matcher.matchIn_eq_attempt, listRule, Matcher.attempt]
  refine attemptSteps_literal_of_not_stands fun hstands => ?_
  have hstands' : ['['] <+: (c.ready true).rest := hstands
  rw [hrest, List.cons_prefix_cons] at hstands'
  exact hch hstands'.1.symm

/-- There is no item where neither a bracket nor a letter or digit stands. -/
theorem exists_readItem_failure {c : Cursor} {ch : Char} {rest : Text} (hready : c.ready true = c)
    (hrest : c.rest = ch :: rest) (hch : ch ≠ '[') (hword : ch.isAlphanum = false) :
    ∃ f, readItem c = some (.failure f) := by
  obtain ⟨f, hlist⟩ := exists_readList_failure (by rw [hready]; exact hrest) hch
  have hholds : Regex.CharSet.asciiAlphanumeric.holds ch = false := by
    rw [Regex.CharSet.holds_asciiAlphanumeric, hword]
  have hnone : c.rest.takeWhile Regex.CharSet.asciiAlphanumeric.holds = [] := by
    simp [hrest, hholds]
  rw [readItem_of_next (next?_eq_some_iff.2 ⟨rest, hrest⟩), hlist, readWord,
    Pattern.attempt_someOf, if_pos hnone]
  exact ⟨_, rfl⟩

/-! ## What is written is read back -/

/-- No word goes on at a place whose next token begins with another character. -/
theorem takeWhile_isAlphanum_of_ready {c : Cursor} {ch : Char} {rest : Text}
    (hrest : (c.ready true).rest = ch :: rest) (hch : ch.isAlphanum = false) :
    c.rest.takeWhile Char.isAlphanum = [] := by
  obtain ⟨blanks, hmoves, hblank⟩ := c.moves_ready true
  rw [hmoves.rest_eq, hrest]
  cases blanks with
  | nil => simp [hch]
  | cons b blanks =>
    have hb : b.isAlphanum = false := by
      by_contra hb
      have hblank' := hblank b List.mem_cons_self
      rw [isBlank_of_isAlphanum (by simpa using hb)] at hblank'
      cases hblank'
    simp [hb]

theorem readItem_of_reads_word {w : Word} {c last : Cursor} (hready : c.ready true = c)
    (hreads : c.Reads true [w.text] last) (hend : last.rest.takeWhile Char.isAlphanum = []) :
    ∃ m, readItem c = some (.success m) ∧ c.Moves m.matched last ∧
      m.value.flattened = (Tree.word w).value := by
  obtain ⟨behind, hmoves, hlast⟩ := (reads_cons_iff w.isToken).1 hreads
  obtain rfl := reads_nil_iff.1 hlast
  rw [hready] at hmoves
  have hrun : c.rest.takeWhile Char.isAlphanum = w.text := by
    rw [hmoves.rest_eq, List.takeWhile_append_of_pos w.alphanumeric, hend, List.append_nil]
  obtain ⟨ch, text, htext⟩ := List.exists_cons_of_ne_nil w.ne_nil
  have hfirst : (c.ready true).rest = ch :: (text ++ last.rest) := by
    rw [hready, hmoves.rest_eq, htext]
    rfl
  have hch : ch ≠ '[' := by
    have halpha := w.alphanumeric ch (by rw [htext]; exact List.mem_cons_self)
    rintro rfl
    exact absurd halpha (by decide)
  obtain ⟨f, hlist⟩ := exists_readList_failure hfirst hch
  exact ⟨_, readItem_eq_success_iff.2 (.inr ⟨⟨_, hlist, rfl⟩,
    readWord_eq_success_iff.2 ⟨w, hrun, rfl⟩⟩), hmoves, rfl⟩

/-- Items that can be read in rounds make a list that can be read. -/
theorem readList_of_rounds {items : List Tree} {c inside outside last : Cursor} {ms : List Match}
    (hopen : (c.ready true).Moves ['['] inside)
    (hrounds : Rounds readItem (some readComma) true true (inside.ready true) ms outside)
    (hclose : (outside.ready true).Moves [']'] last)
    (hvalues : Value.flattenedList (ms.map Match.value) = values items) :
    ∃ m, readList c = some (.success m) ∧ c.Moves m.matched last ∧
      m.value.flattened = (Tree.list items).value := by
  refine ⟨_, readList_eq_success_iff.2 ⟨inside, ms, outside, last, hopen, hrounds, hclose, rfl⟩,
    ?_, ?_⟩
  · have hready : c.Reaches inside := ((Reaches.refl c).ready true).trans ⟨_, hopen⟩
    have hitems : c.Reaches outside := (hready.ready true).trans hrounds.reaches
    exact ((hitems.ready true).trans ⟨_, hclose⟩).moves_textTo
  · rw [Tree.value, ← hvalues]
    rfl

/-- The items of a list are read in rounds, up to a closing bracket. -/
def ReadBack (items : List Tree) (isFirst : Bool) : Prop :=
  ∀ (c last : Cursor) (rest : Text), (isFirst = true → c.ready true = c) →
    c.Reads true (itemTokens isFirst items) last → (last.ready true).rest = ']' :: rest →
    ∃ ms, Rounds readItem (some readComma) true isFirst c ms last ∧
      Value.flattenedList (ms.map Match.value) = values items

/-- A list whose items are read back is read back. -/
theorem ReadBack.readList {items : List Tree} (h : ReadBack items true) {c last : Cursor}
    (hreads : c.Reads true (Tree.list items).tokens last) :
    ∃ m, readList c = some (.success m) ∧ c.Moves m.matched last ∧
      m.value.flattened = (Tree.list items).value := by
  rw [Tree.tokens, reads_cons_iff isToken_bracket] at hreads
  obtain ⟨inside, hopen, hreads⟩ := hreads
  obtain ⟨middle, hitems, hclose⟩ := reads_append_iff.1 hreads
  obtain ⟨behind, hclose, hlast⟩ := (reads_cons_iff isToken_closing).1 hclose
  obtain rfl := reads_nil_iff.1 hlast
  -- without items the rounds end behind the white space that follows the bracket
  obtain ⟨outside, houtside, hready⟩ :=
    (reads_ready_iff fun token => isToken_of_mem_itemTokens items true).2 ⟨middle, hitems, rfl⟩
  rw [← hready] at hclose
  obtain ⟨ms, hrounds, hvalues⟩ :=
    h _ _ _ (fun _ => ready_ready inside true) houtside hclose.rest_eq
  exact readList_of_rounds hopen hrounds hclose hvalues

/-- Behind the last item there is neither an item nor a comma. -/
theorem readBack_nil (isFirst : Bool) : ReadBack [] isFirst := by
  intro c last rest hready hreads hclose
  have hsame : last = c := by
    cases isFirst <;> exact reads_nil_iff.1 hreads
  subst hsame
  have hmore : last.rest ≠ [] := by
    have hreach := ((Reaches.refl last).ready true).length_rest_le
    rw [hclose, List.length_cons] at hreach
    intro hnil
    rw [hnil, List.length_nil] at hreach
    omega
  refine ⟨[], .last hmore ?_, rfl⟩
  cases isFirst with
  | true =>
    rw [hready rfl] at hclose
    obtain ⟨f, hattempt⟩ := exists_readItem_failure (hready rfl) hclose (by decide) (by decide)
    rw [repetitionRound, if_pos rfl, elementRound, hattempt]
  | false =>
    have hcomma : ¬ ",".toList <+: (last.ready true).rest := by
      rw [hclose]
      simp
    obtain ⟨f, hattempt⟩ := exists_attemptLiteral_failure hcomma
    rw [repetitionRound, if_neg Bool.false_ne_true]
    simp only [readComma, Matcher.attempt, hattempt]

/-- An item that is read, and the items behind it. -/
theorem ReadBack.more {item : Tree} {items : List Tree} {isFirst : Bool} {c place last : Cursor}
    {rest : Text} (hitems : ReadBack items false)
    (hplace : ElementPlace (some readComma) true isFirst c place)
    (hitem : ∀ {middle : Cursor}, place.Reads true item.tokens middle →
      middle.rest.takeWhile Char.isAlphanum = [] →
      ∃ m, readItem place = some (.success m) ∧ place.Moves m.matched middle ∧
        m.value.flattened = item.value)
    (hreads : place.Reads true (item.tokens ++ itemTokens false items) last)
    (hclose : (last.ready true).rest = ']' :: rest) :
    ∃ ms, Rounds readItem (some readComma) true isFirst c ms last ∧
      Value.flattenedList (ms.map Match.value) = values (item :: items) := by
  obtain ⟨middle, hfirst, hothers⟩ := reads_append_iff.1 hreads
  -- a comma or the closing bracket comes next, so a word that is read ends here
  have hend : middle.rest.takeWhile Char.isAlphanum = [] := by
    cases items with
    | nil =>
      rw [← reads_nil_iff.1 hothers]
      exact takeWhile_isAlphanum_of_ready hclose (by decide)
    | cons next items =>
      obtain ⟨behind, hcomma, _⟩ := (reads_cons_iff isToken_comma).1 hothers
      exact takeWhile_isAlphanum_of_ready hcomma.rest_eq (by decide)
  obtain ⟨m, hattempt, hmoves, hvalue⟩ := hitem hfirst hend
  obtain ⟨ms, hrounds, hvalues⟩ := hitems middle last rest (by simp) hothers hclose
  have hless : middle.rest.length < c.rest.length := by
    obtain ⟨token, tokens, htokens, htoken⟩ := item.exists_tokens_eq
    rw [htokens] at hfirst
    have hread := hfirst.length_rest_lt htoken
    have hreach := hplace.reaches.length_rest_le
    omega
  have hmoved : middle.offset ≠ c.offset := (hplace.reaches.trans ⟨_, hmoves⟩).offset_ne hless
  have hmore : c.rest ≠ [] := List.ne_nil_of_length_pos (by omega)
  refine ⟨m :: ms, .more hmore (repetitionRound_of_place hplace hattempt hmoves hmoved) hrounds, ?_⟩
  rw [List.map_cons, Value.flattenedList, values, hvalue, hvalues]

mutual

/-- A tree that is written is read as an item, as long as no letters or digits follow it. -/
theorem Tree.readItem_of_reads : ∀ (tree : Tree) {c last : Cursor}, c.ready true = c →
    c.Reads true tree.tokens last → last.rest.takeWhile Char.isAlphanum = [] →
    ∃ m, readItem c = some (.success m) ∧ c.Moves m.matched last ∧
      m.value.flattened = tree.value
  | .word _, _, _, hready, hreads, hend => readItem_of_reads_word hready hreads hend
  | .list items, _, _, _, hreads, _ => by
    obtain ⟨m, hlist, hmoves, hvalue⟩ := (readBack items true).readList hreads
    exact ⟨m, readItem_eq_success_iff.2 (.inl hlist), hmoves, hvalue⟩

/-- All items are read in rounds. -/
theorem readBack : ∀ (items : List Tree) (isFirst : Bool), ReadBack items isFirst
  | [], isFirst => readBack_nil isFirst
  | item :: items, true => by
    intro c last rest hready hreads hclose
    exact (readBack items false).more (.first c) (item.readItem_of_reads (hready rfl)) hreads hclose
  | item :: items, false => by
    intro c last rest hready hreads hclose
    obtain ⟨behind, hcomma, hreads⟩ := (reads_cons_iff isToken_comma).1 hreads
    have hattempt : readComma (c.ready true) =
        some (.success (.leaf (Text.quote ",") [','] (c.ready true).offset (.string ","))) :=
      attempt_literal_of_moves hcomma
    -- the round skips the gap behind the comma before it tries the item
    have hready : (behind.ready true).Reads true (item.tokens ++ itemTokens false items) last := by
      obtain ⟨token, tokens, htokens, htoken⟩ := item.exists_tokens_eq
      rw [htokens, List.cons_append] at hreads ⊢
      exact (ready_reads_cons_iff htoken).2 hreads
    exact (readBack items false).more (.separated c rfl hattempt hcomma)
      (item.readItem_of_reads (ready_ready behind true)) hready hclose

end

/-! ## What is read was written -/

theorem reads_of_readWord {c : Cursor} {m : Match} (h : readWord c = .success m) :
    ∃ (w : Word) (last : Cursor), c.Moves m.matched last ∧ c.Reads true [w.text] last ∧
      m.value.flattened = (Tree.word w).value := by
  obtain ⟨w, hrun, rfl⟩ := readWord_eq_success_iff.1 h
  have hstands : w.text <+: c.rest := by
    rw [← hrun]
    exact List.takeWhile_prefix _
  obtain ⟨last, hmoves⟩ := exists_moves_of_isPrefix hstands
  exact ⟨w, last, hmoves, ⟨w.text, hmoves, .singleton (isGap_nil true) w.text⟩, rfl⟩

/-- A match of the list rule at the cursor is that of a list that is written there. -/
def ListsWritten (c : Cursor) : Prop :=
  ∀ m, readList c = some (.success m) → ∃ (items : List Tree) (last : Cursor),
    c.Moves m.matched last ∧ c.Reads true (Tree.list items).tokens last ∧
      m.value.flattened = (Tree.list items).value

/-- An item that is read was written as a tree. -/
theorem ListsWritten.item {c : Cursor} (h : ListsWritten c) {m : Match}
    (hattempt : readItem c = some (.success m)) :
    ∃ (tree : Tree) (last : Cursor), c.Moves m.matched last ∧ c.Reads true tree.tokens last ∧
      m.value.flattened = tree.value := by
  rcases readItem_eq_success_iff.1 hattempt with hlist | ⟨_, hword⟩
  · obtain ⟨items, last, hmoves, hreads, hvalue⟩ := h m hlist
    exact ⟨.list items, last, hmoves, hreads, hvalue⟩
  · obtain ⟨w, last, hmoves, hreads, hvalue⟩ := reads_of_readWord hword
    exact ⟨.word w, last, hmoves, hreads, hvalue⟩

/-- The rounds of a repetition have gone over items that were written. -/
theorem reads_of_rounds {n : Nat} (ih : ∀ c : Cursor, c.rest.length < n → ListsWritten c)
    {isFirst : Bool} {c last : Cursor} {ms : List Match}
    (h : Rounds readItem (some readComma) true isFirst c ms last) (hless : c.rest.length < n) :
    ∃ items, c.Reads true (itemTokens isFirst items) last ∧
      Value.flattenedList (ms.map Match.value) = values items := by
  induction h with
  | @finished isFirst c _ | @last isFirst c _ _ =>
    exact ⟨[], by cases isFirst <;> exact reads_nil_iff.2 rfl, rfl⟩
  | @more isFirst c next last m ms _ hround _ ihrounds =>
    obtain ⟨place, hplace, hattempt, hmoves, _⟩ := repetitionRound_eq_more hround
    have hreach := hplace.reaches.length_rest_le
    obtain ⟨tree, next', hmoves', htree, hvalue⟩ := (ih place (by omega)).item hattempt
    rw [← hmoves.eq hmoves'] at htree
    obtain ⟨items, hitems, hvalues⟩ :=
      ihrounds (Nat.lt_trans (length_rest_of_repetitionRound hround) hless)
    have hreads : place.Reads true (tree.tokens ++ itemTokens false items) last :=
      reads_append_iff.2 ⟨next, htree, hitems⟩
    refine ⟨tree :: items, ?_, ?_⟩
    · cases hplace with
      | first => exact hreads
      | adjoining _ hnone => cases hnone
      | separated _ hsome hcomma hbehind =>
        cases hsome
        rw [readComma, Matcher.attempt, Option.some.injEq, attemptLiteral_eq_success_iff] at hcomma
        obtain ⟨_, rfl⟩ := hcomma
        obtain ⟨token, tokens, htokens, htoken⟩ := tree.exists_tokens_eq
        rw [htokens, List.cons_append, ready_reads_cons_iff htoken] at hreads
        refine (reads_cons_iff isToken_comma).2 ⟨_, hbehind, ?_⟩
        rw [htokens]
        exact hreads
    · rw [List.map_cons, Value.flattenedList, values, hvalue, hvalues]

theorem listsWritten (c : Cursor) : ListsWritten c := by
  induction hlength : c.rest.length using Nat.strongRecOn generalizing c with
  | ind n ih =>
    subst hlength
    intro m hlist
    obtain ⟨inside, ms, outside, last, hopen, hrounds, hclose, rfl⟩ :=
      readList_eq_success_iff.1 hlist
    -- all items are behind the bracket, where less text is left
    have hless : (inside.ready true).rest.length < c.rest.length := by
      have hready := ((Reaches.refl c).ready true).length_rest_le
      have hinside := hopen.length_rest_lt (List.cons_ne_nil _ _)
      have hgap := ((Reaches.refl inside).ready true).length_rest_le
      omega
    obtain ⟨items, hitems, hvalues⟩ := reads_of_rounds (fun c hc => ih _ hc c rfl) hrounds hless
    obtain ⟨middle, hmiddle, hready⟩ :=
      (reads_ready_iff fun token => isToken_of_mem_itemTokens items true).1 ⟨outside, hitems, rfl⟩
    obtain ⟨m, hlist', hmoves, hvalue⟩ := readList_of_rounds hopen hrounds hclose hvalues
    cases hlist.symm.trans hlist'
    refine ⟨items, last, hmoves, (reads_cons_iff isToken_bracket).2 ⟨inside, hopen, ?_⟩, hvalue⟩
    refine reads_append_iff.2 ⟨middle, hmiddle, (reads_cons_iff isToken_closing).2 ⟨last, ?_, ?_⟩⟩
    · rw [hready]
      exact hclose
    · exact reads_nil_iff.2 rfl

/-! ## Whole texts -/

/-- Different lists are never written as the same text. -/
theorem eq_of_renders {items items' : List Tree} {text : Text}
    (h : Renders true (Tree.list items).tokens text)
    (h' : Renders true (Tree.list items').tokens text) : items = items' := by
  obtain ⟨last, _, hreads⟩ := renders_iff_reads.1 h
  obtain ⟨last', _, hreads'⟩ := renders_iff_reads.1 h'
  obtain ⟨m, hattempt, _, hvalue⟩ := (readBack items true).readList hreads
  obtain ⟨m', hattempt', _, hvalue'⟩ := (readBack items' true).readList hreads'
  cases hattempt.symm.trans hattempt'
  have hsame := Tree.value_injective _ _ (hvalue.symm.trans hvalue')
  cases hsame
  rfl

/-- The grammar accepts exactly the texts of lists, and the value it extracts is that of the list:
reading is the inverse of writing, whatever white space is written before the tokens. -/
theorem exactMatch_iff_renders (text : Text) (v : Value) :
    (∃ e, grammar.exactMatch text = some (.ok e) ∧ e.value = v) ↔
      ∃ items, Renders true (Tree.list items).tokens text ∧ v = (Tree.list items).value := by
  constructor
  · rintro ⟨e, hexact, rfl⟩
    obtain ⟨m, hattempt, hmatched, _, rfl⟩ := Grammar.exactMatch_eq_ok_iff.1 hexact
    rw [grammar_attempt] at hattempt
    obtain ⟨items, last, hmoves, hreads, hvalue⟩ := listsWritten _ m hattempt
    rw [hmatched] at hmoves
    exact ⟨items, renders_iff_reads.2 ⟨last, hmoves, hreads⟩, hvalue⟩
  · rintro ⟨items, hrenders, rfl⟩
    obtain ⟨last, hwhole, hreads⟩ := renders_iff_reads.1 hrenders
    obtain ⟨m, hattempt, hmoves, hvalue⟩ := (readBack items true).readList hreads
    rw [← grammar_attempt] at hattempt
    have hmatched : m.matched = text := hmoves.textTo_eq.symm.trans hwhole.textTo_eq
    have hne : text ≠ [] := fun hnil => rest_ne_nil_of_readList (grammar_attempt _ ▸ hattempt) hnil
    exact ⟨_, Grammar.exactMatch_eq_ok_iff.2 ⟨m, hattempt, hmatched, hne, rfl⟩, hvalue⟩

end Excerpt.NestedLists
