import Excerpt.Proofs.Cursor
import Excerpt.Proofs.Text.Places
import Mathlib.Logic.Function.Iterate

/-!
# Sequences of operations

A caller moves through a text by operations, each on the cursor that the one before answered; where
an operation fails, the caller still has the cursor that it was tried on.  `Cursor.visited` lists
the cursors of such a caller, and `visited_lawful` says what holds of them, in bytes of the text:
each is at a place of the text, none is before an earlier one, and the texts from one to the next
make up the text from the first to the last.

* `reaches_goOn`, `reaches_of_mem_visited` : no operation goes back, so no sequence of them does.
* `textAlong_eq` : the texts between cursors, put together.
* `isFirstPlace_advanceBy` : what goes over one character after the other stops at the first place
  asked for.  Both ways to skip do so (`skipsUpTo_skipTo`, `skipsUpTo_skipWhile`).
* `moves_iterate_advance` : every advance goes over one character.
-/

namespace Excerpt.Cursor

/-! ## Callers -/

/-- What a caller can ask of a cursor. -/
inductive Operation where
  /-- Past a text that is expected ahead. -/
  | consume (front : Text)
  /-- Past one character. -/
  | advance
  /-- Up to a text. -/
  | skipTo (pattern : Text)
  /-- Forward while a test accepts the characters ahead. -/
  | skipWhile (skip : Text → Bool) (lookahead : Nat)

/-- The cursor that an operation answers. -/
def Operation.answer (c : Cursor) : Operation → Except ErrorKind Cursor
  | .consume front => c.consume front
  | .advance => .ok c.advance
  | .skipTo pattern => .ok (c.skipTo pattern).2
  | .skipWhile skip lookahead => .ok (c.skipWhile skip lookahead).2

/-- Where the caller goes on: at the cursor that the operation answers, or where it was if there is
none. -/
def goOn (c : Cursor) (operation : Operation) : Cursor :=
  match operation.answer c with
  | .ok next => next
  | .error _ => c

/-- The cursors of a caller, from the first on. -/
def visited (c : Cursor) : List Operation → List Cursor
  | [] => [c]
  | operation :: operations => c :: visited (c.goOn operation) operations

/-- The texts from each cursor to the next, put together. -/
def textAlong (c : Cursor) : List Cursor → Text
  | [] => []
  | next :: later => c.textTo next ++ textAlong next later

/-! ## No way back -/

theorem reaches_goOn (c : Cursor) (operation : Operation) : c.Reaches (c.goOn operation) := by
  cases operation with
  | consume front =>
    rw [goOn, Operation.answer]
    split
    · rename_i next htaken
      exact ⟨front, consume_eq_ok_iff.1 htaken⟩
    · exact .refl c
  | advance => exact reaches_advance c
  | skipTo pattern => exact ⟨_, moves_skipTo c pattern⟩
  | skipWhile skip lookahead => exact ⟨_, moves_skipWhile c skip lookahead⟩

theorem reaches_of_mem_visited {c later : Cursor} {operations : List Operation}
    (h : later ∈ c.visited operations) : c.Reaches later := by
  induction operations generalizing c with
  | nil =>
    rw [visited, List.mem_singleton] at h
    rw [h]
    exact .refl c
  | cons operation operations ih =>
    rw [visited, List.mem_cons] at h
    rcases h with rfl | hlater
    · exact .refl later
    · exact (reaches_goOn c operation).trans (ih hlater)

theorem pairwise_visited (c : Cursor) (operations : List Operation) :
    (c.visited operations).Pairwise Reaches := by
  induction operations generalizing c with
  | nil => exact List.pairwise_singleton _ _
  | cons operation operations ih =>
    refine List.pairwise_cons.2 ⟨fun later hlater => ?_, ih (c.goOn operation)⟩
    exact (reaches_goOn c operation).trans (reaches_of_mem_visited hlater)

/-! ## Text between cursors -/

/-- A move passes over the slice between its two ends. -/
theorem Moves.slice?_offset {c c' : Cursor} {t : Text} (h : c.Moves t c') :
    Text.slice? c.text c.offset c'.offset = some t := by
  rw [h.offset_eq]
  exact h.slice?_eq

theorem textTo_append {c c' c'' : Cursor} (h : c.Reaches c') (h' : c'.Reaches c'') :
    c.textTo c' ++ c'.textTo c'' = c.textTo c'' :=
  (h.moves_textTo.trans h'.moves_textTo).textTo_eq.symm

/-- The texts along cursors, none of them before an earlier one, are the text from the first to the
last. -/
theorem textAlong_eq {c : Cursor} {later : List Cursor} (h : (c :: later).Pairwise Reaches) :
    c.textAlong later = c.textTo (later.getLastD c) := by
  induction later generalizing c with
  | nil => exact (Moves.refl c).textTo_eq.symm
  | cons next later ih =>
    obtain ⟨hfirst, htail⟩ := List.pairwise_cons.1 h
    have hnext : c.Reaches next := hfirst next List.mem_cons_self
    have hmem : later.getLastD next ∈ next :: later := List.getLastD_mem_cons
    have hlast : next.Reaches (later.getLastD next) := by
      rcases List.mem_cons.1 hmem with hsame | hlater
      · rw [hsame]
        exact .refl next
      · exact (List.pairwise_cons.1 htail).1 _ hlater
    rw [textAlong, ih htail, textTo_append hnext hlast, List.getLastD_cons]

/-! ## Places -/

/-- What is unread is the text behind the offset. -/
theorem dropBytes?_offset (c : Cursor) : Text.dropBytes? c.offset c.text = some c.rest := by
  refine Text.dropBytes?_eq_some_iff.2 ⟨c.read.reverse, rfl, ?_⟩
  rw [Text.byteLength_reverse, c.offset_eq]

theorem offset_eq_byteLength_iff {c : Cursor} :
    c.offset = Text.byteLength c.text ↔ c.rest = [] := by
  rw [text, Text.byteLength_append, Text.byteLength_reverse, ← c.offset_eq,
    ← Text.byteLength_eq_zero_iff]
  omega

/-- The slice of the length of a text is that text exactly where it stands. -/
theorem slice?_eq_front_iff {c : Cursor} {front : Text} :
    Text.slice? c.text c.offset (c.offset + Text.byteLength front) = some front ↔
      front <+: c.rest := by
  rw [Text.slice?_eq_some_iff, dropBytes?_offset]
  constructor
  · rintro ⟨ahead, hahead, hstands, _⟩
    cases hahead
    exact hstands
  · intro hstands
    exact ⟨c.rest, rfl, hstands, rfl⟩

/-- There is no place inside a character. -/
theorem eq_rest_of_lt_offset_advance {c : Cursor} {ch : Char} {rest ahead : Text} {place : Nat}
    (hrest : c.rest = ch :: rest) (hle : c.offset ≤ place) (hlt : place < c.advance.offset)
    (hplace : Text.dropBytes? place c.text = some ahead) : ahead = c.rest := by
  obtain ⟨front, htext, hfront⟩ := Text.dropBytes?_eq_some_iff.1 hplace
  have hoffset : Text.byteLength c.read.reverse = c.offset := by
    rw [Text.byteLength_reverse, c.offset_eq]
  obtain ⟨between, hbetween, hahead⟩ :=
    Text.exists_between htext (hoffset.le.trans (hle.trans hfront.ge))
  cases between with
  | nil => exact hahead.symm
  | cons ch' between =>
    -- The text before the place would hold the whole character.
    rw [hrest, List.cons_append, List.cons.injEq] at hahead
    have hadvance : c.advance.offset = c.offset + ch.utf8Size := (moves_advance hrest).offset_eq
    have hbehind : place = c.offset + (ch.utf8Size + Text.byteLength between) := by
      rw [← hfront, hbetween, Text.byteLength_append, hoffset, Text.byteLength_cons, hahead.1]
    omega

section FirstPlace

variable {asked : Text → Prop} {c : Cursor}

theorem isFirstPlace_offset (h : asked c.rest ∨ c.rest = []) :
    Text.IsFirstPlace asked c.text c.offset c.offset where
  first_le := Nat.le_refl _
  stops := ⟨c.rest, dropBytes?_offset c, h.imp_right offset_eq_byteLength_iff.2⟩
  passed _ _ hle hlt := absurd hle (Nat.not_le.2 hlt)

/-- If a character is not asked for, the first place from it on is the first one from behind it
on. -/
theorem isFirstPlace_of_advance {ch : Char} {rest : Text} {stop : Nat} (hrest : c.rest = ch :: rest)
    (hnot : ¬ asked c.rest) (h : Text.IsFirstPlace asked c.text c.advance.offset stop) :
    Text.IsFirstPlace asked c.text c.offset stop where
  first_le := (reaches_advance c).offset_le.trans h.first_le
  stops := h.stops
  passed place ahead hle hlt hplace := by
    by_cases hinside : place < c.advance.offset
    · rwa [eq_rest_of_lt_offset_advance hrest hle hinside hplace]
    · exact h.passed place ahead (Nat.not_lt.1 hinside) hlt hplace

/-- What goes over one character after the other, until what is ahead is asked for, stops at the
first place where it is. -/
theorem isFirstPlace_advanceBy {skipped : Text → Text} (hnil : skipped [] = [])
    (hstop : ∀ ahead, asked ahead → skipped ahead = [])
    (hstep : ∀ ch ahead, ¬ asked (ch :: ahead) → skipped (ch :: ahead) = ch :: skipped ahead)
    (c : Cursor) :
    Text.IsFirstPlace asked c.text c.offset (c.advanceBy (skipped c.rest).length).offset := by
  induction c using forward with
  | finished c hend =>
    rw [hend, hnil]
    exact isFirstPlace_offset (Or.inr hend)
  | step c ch rest hrest ih =>
    by_cases hasked : asked c.rest
    · rw [hstop c.rest hasked]
      exact isFirstPlace_offset (Or.inl hasked)
    · -- One character less is skipped from the next cursor on.
      rw [text_advance, rest_advance, hrest, List.tail_cons] at ih
      refine isFirstPlace_of_advance hrest hasked ?_
      rw [hrest] at hasked ⊢
      rw [hstep ch rest hasked]
      exact ih

end FirstPlace

/-! ## Skips -/

/-- What a skip in a text answers, if it goes up to where what is ahead is asked for: the text
passed over, and the cursor at the first such place, or at the end of the text if there is none. -/
structure SkipsUpTo (asked : Text → Prop) (text : Text) (c : Cursor) (answer : Text × Cursor) :
    Prop where
  slice : Text.slice? text c.offset answer.2.offset = some answer.1
  first : Text.IsFirstPlace asked text c.offset answer.2.offset

theorem skipsUpTo_skipTo (c : Cursor) (pattern : Text) :
    SkipsUpTo (pattern <+: ·) c.text c (c.skipTo pattern) where
  slice := (moves_skipTo c pattern).slice?_offset
  first := by
    refine isFirstPlace_advanceBy rfl (fun ahead => Text.before_eq_nil) (fun ch ahead hnot => ?_) c
    rw [Text.before, if_neg (mt Text.stripFront?_isSome_iff.1 hnot)]

theorem skipsUpTo_skipWhile (c : Cursor) (skip : Text → Bool) (lookahead : Nat) :
    SkipsUpTo (fun ahead => skip (ahead.take lookahead) = false) c.text c
      (c.skipWhile skip lookahead) where
  slice := (moves_skipWhile c skip lookahead).slice?_offset
  first := by
    refine isFirstPlace_advanceBy rfl (fun ahead hasked => ?_) (fun ch ahead hnot => ?_) c
    · cases ahead with
      | nil => rfl
      | cons ch ahead => rw [skippable, if_neg (Bool.eq_false_iff.1 hasked)]
    · rw [skippable, if_pos (eq_true_of_ne_false hnot)]

/-! ## Single steps -/

theorem consume_cases (c : Cursor) (front : Text) :
    (∃ next, c.consume front = .ok next ∧ c.Moves front next) ∨
      (c.consume front = .error (.cursorPrecondition (String.ofList front) c.offset) ∧
        ¬ front <+: c.rest) := by
  by_cases hstands : front <+: c.rest
  · obtain ⟨next, hmoves⟩ := exists_moves_of_isPrefix hstands
    exact Or.inl ⟨next, consume_eq_ok_iff.2 hmoves, hmoves⟩
  · refine Or.inr ⟨?_, hstands⟩
    rw [consume]
    split
    · rfl
    · rename_i rest hrest
      exact absurd ⟨rest, (Text.stripFront?_eq_some_iff.1 hrest).symm⟩ hstands

/-- Every advance goes over one of the characters ahead, as long as there are any. -/
theorem moves_iterate_advance (steps : Nat) (c : Cursor) :
    c.Moves (c.rest.take steps) (advance^[steps] c) := by
  induction steps generalizing c with
  | zero => exact .refl c
  | succ steps ih =>
    rw [Function.iterate_succ_apply]
    have hlater := ih c.advance
    rw [rest_advance] at hlater
    cases hrest : c.rest with
    | nil =>
      rw [advance_of_nil hrest, hrest, List.tail_nil, List.take_nil] at hlater
      rwa [advance_of_nil hrest, List.take_nil]
    | cons ch rest =>
      rw [hrest, List.tail_cons] at hlater
      exact (moves_advance hrest).trans hlater

theorem exhausted_iterate_advance_iff {steps : Nat} {c : Cursor} :
    (advance^[steps] c).exhausted = true ↔ c.rest.length ≤ steps := by
  have hlength := (moves_iterate_advance steps c).length_rest
  rw [List.length_take] at hlength
  rw [exhausted_iff, ← List.length_eq_zero_iff]
  omega

/-! ## All operations -/

/-- What holds of a cursor in a text and of the operations on it, said in bytes of the text. -/
structure LawfulIn (text : Text) (c : Cursor) : Prop where
  text_eq : c.text = text
  /-- The cursor is between two characters, or at an end of the text. -/
  isValid : (String.Pos.Raw.mk c.offset).IsValid (String.ofList text)
  offset_le : c.offset ≤ Text.byteLength text
  exhausted_iff : c.exhausted = true ↔ c.offset = Text.byteLength text
  /-- A text that stands ahead is moved over.  If it does not stand there, the error says what was
  expected and where, and the caller goes on as if it had not been tried. -/
  consume : ∀ front,
    (∃ next, c.consume front = .ok next ∧ Text.slice? text c.offset next.offset = some front) ∨
      (c.consume front = .error (.cursorPrecondition (String.ofList front) c.offset) ∧
        Text.slice? text c.offset (c.offset + Text.byteLength front) ≠ some front ∧
        ∀ operations, c.visited (.consume front :: operations) = c :: c.visited operations)
  /-- Up to where the pattern stands. -/
  skipTo : ∀ pattern, SkipsUpTo (pattern <+: ·) text c (c.skipTo pattern)
  /-- Up to where the test rejects the characters ahead. -/
  skipWhile : ∀ skip lookahead,
    SkipsUpTo (fun ahead => skip (ahead.take lookahead) = false) text c (c.skipWhile skip lookahead)
  /-- The end is as many advances ahead as there are characters left. -/
  advance : ∃ left, Text.dropBytes? c.offset text = some left ∧ ∀ steps,
    Text.slice? text c.offset (advance^[steps] c).offset = some (left.take steps) ∧
      ((advance^[steps] c).exhausted = true ↔ left.length ≤ steps)

theorem lawfulIn_text (c : Cursor) : LawfulIn c.text c where
  text_eq := rfl
  isValid := Text.isValid_iff.2 ⟨c.rest, dropBytes?_offset c⟩
  offset_le := offset_le_byteLength_text c
  exhausted_iff := exhausted_iff.trans offset_eq_byteLength_iff.symm
  consume front := by
    rcases consume_cases c front with ⟨next, htaken, hmoves⟩ | ⟨herror, hnot⟩
    · exact Or.inl ⟨next, htaken, hmoves.slice?_offset⟩
    · refine Or.inr ⟨herror, mt slice?_eq_front_iff.1 hnot, fun operations => ?_⟩
      rw [visited, goOn, Operation.answer, herror]
  skipTo := skipsUpTo_skipTo c
  skipWhile := skipsUpTo_skipWhile c
  advance := ⟨c.rest, dropBytes?_offset c, fun steps =>
    ⟨(moves_iterate_advance steps c).slice?_offset, exhausted_iterate_advance_iff⟩⟩

/-- A caller that begins at the start of a text has only lawful cursors, none of them before an
earlier one, and the texts from one to the next, put together, are the text from the first to the
last. -/
theorem visited_lawful (text : Text) (operations : List Operation) :
    (∀ c ∈ (start text).visited operations, LawfulIn text c) ∧
      (((start text).visited operations).Pairwise fun c later =>
        c.offset ≤ later.offset ∧
          Text.slice? text c.offset later.offset = some (c.textTo later)) ∧
      ∀ c later, (c :: later).Sublist ((start text).visited operations) →
        c.textAlong later = c.textTo (later.getLastD c) := by
  have htext : ∀ c ∈ (start text).visited operations, c.text = text :=
    fun c hc => (reaches_of_mem_visited hc).text_eq
  have hpairwise := pairwise_visited (start text) operations
  refine ⟨fun c hc => ?_, ?_, fun c later hsublist => ?_⟩
  · rw [← htext c hc]
    exact lawfulIn_text c
  · refine hpairwise.imp_of_mem fun {c later} hc _ hreach => ⟨hreach.offset_le, ?_⟩
    rw [← htext c hc]
    exact hreach.moves_textTo.slice?_offset
  · exact textAlong_eq (hpairwise.sublist hsublist)

/-- Characters of one to four bytes; the second operation fails. -/
example :
    ((start ['a', 'é', '€', '😀', 'z']).visited
      [.advance, .consume ['€'], .skipTo ['😀'], .skipWhile (· ≠ ['z']) 1, .skipTo ['a']]).map
      offset = [0, 1, 1, 6, 10, 11] := by
  decide

end Excerpt.Cursor
