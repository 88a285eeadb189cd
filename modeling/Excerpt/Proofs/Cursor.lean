import Excerpt.Matcher.Attempt
import Excerpt.Proofs.Text

/-!
# Moving forward in a text

`Cursor.Moves c t c'` says that the text `t` stands at the cursor `c` and that `c'` is the place
behind it in the same text.  Every operation of a cursor is such a move, and the lemmas here say
over which text:

* `consume_eq_ok_iff` : `consume` moves over the given text, and succeeds exactly where it stands.
* `moves_advance`, `moves_advanceBy`, `moves_skipTo`, `moves_skipWhile`, `moves_ready` : the other
  ways to move, none of which can fail.
* `Moves.textTo_eq` : the text between two cursors is the text moved over.

`Cursor.Reaches` forgets the text.
-/

namespace Excerpt.Cursor

/-! ## Moves -/

/-- The text `t` stands at `c`, and `c'` is the place behind it. -/
structure Moves (c : Cursor) (t : Text) (c' : Cursor) : Prop where
  rest_eq : c.rest = t ++ c'.rest
  read_eq : c'.read = t.reverse ++ c.read

/-- Some text stands between two cursors. -/
def Reaches (c c' : Cursor) : Prop := ∃ t, c.Moves t c'

namespace Moves

variable {c c' c'' : Cursor} {t t' : Text}

theorem refl (c : Cursor) : c.Moves [] c := ⟨rfl, rfl⟩

theorem trans (h : c.Moves t c') (h' : c'.Moves t' c'') : c.Moves (t ++ t') c'' := by
  refine ⟨?_, ?_⟩
  · rw [h.rest_eq, h'.rest_eq, List.append_assoc]
  · rw [h'.read_eq, h.read_eq, List.reverse_append, List.append_assoc]

theorem offset_eq (h : c.Moves t c') : c'.offset = c.offset + Text.byteLength t := by
  rw [c'.offset_eq, c.offset_eq, h.read_eq, Text.byteLength_append, Text.byteLength_reverse,
    Nat.add_comm]

/-- A move keeps the text that the cursor stands in. -/
theorem text_eq (h : c.Moves t c') : c'.text = c.text := by
  rw [text, text, h.read_eq, h.rest_eq, List.reverse_append, List.reverse_reverse,
    List.append_assoc]

theorem isPrefix (h : c.Moves t c') : t <+: c.rest := ⟨c'.rest, h.rest_eq.symm⟩

theorem length_rest (h : c.Moves t c') : c.rest.length = t.length + c'.rest.length := by
  rw [h.rest_eq, List.length_append]

/-- There is one place behind a text. -/
theorem eq (h : c.Moves t c') (h' : c.Moves t c'') : c' = c'' := by
  have hrest : c'.rest = c''.rest := List.append_cancel_left (h.rest_eq.symm.trans h'.rest_eq)
  have hread : c'.read = c''.read := h.read_eq.trans h'.read_eq.symm
  have hoffset : c'.offset = c''.offset := h.offset_eq.trans h'.offset_eq.symm
  exact Cursor.ext hread hrest hoffset

/-- A move over no text stays. -/
theorem eq_of_nil (h : c.Moves [] c') : c' = c := h.eq (.refl c)

theorem length_rest_lt (h : c.Moves t c') (hne : t ≠ []) : c'.rest.length < c.rest.length := by
  have hlength := h.length_rest
  have hpos := List.length_pos_iff.2 hne
  omega

theorem offset_ne (h : c.Moves t c') (hne : t ≠ []) : c'.offset ≠ c.offset := by
  have hoffset := h.offset_eq
  obtain ⟨ch, t, rfl⟩ := List.exists_cons_of_ne_nil hne
  have hpos : 0 < ch.utf8Size := Char.utf8Size_pos ch
  rw [Text.byteLength_cons] at hoffset
  omega

/-- A move that leaves as much text is one over no text. -/
theorem eq_nil_of_length_le (h : c.Moves t c') (hle : c.rest.length ≤ c'.rest.length) : t = [] := by
  by_contra hne
  have hless := h.length_rest_lt hne
  omega

theorem eq_of_length_le (h : c.Moves t c') (hle : c.rest.length ≤ c'.rest.length) : c' = c := by
  have hnil := h.eq_nil_of_length_le hle
  rw [hnil] at h
  exact h.eq_of_nil

/-- The second part of a move begins where the first one ends. -/
theorem right (h : c.Moves (t ++ t') c'') (hleft : c.Moves t c') : c'.Moves t' c'' := by
  refine ⟨?_, ?_⟩
  · have hsame : t ++ c'.rest = t ++ (t' ++ c''.rest) := by
      rw [← hleft.rest_eq, h.rest_eq, List.append_assoc]
    exact List.append_cancel_left hsame
  · rw [h.read_eq, hleft.read_eq, List.reverse_append, List.append_assoc]

/-- The text between two cursors is the text moved over. -/
theorem textTo_eq (h : c.Moves t c') : c.textTo c' = t := by
  rw [textTo, h.offset_eq, Nat.add_sub_cancel_left, h.rest_eq, Text.takeBytes_append]

/-- A text moved over is the slice between the two places. -/
theorem slice?_eq (h : c.Moves t c') :
    Text.slice? c.text c.offset (c.offset + Text.byteLength t) = some t := by
  have hslice := Text.slice?_append c.read.reverse t c'.rest
  rw [Text.byteLength_reverse, ← c.offset_eq, List.append_assoc, ← h.rest_eq] at hslice
  exact hslice

end Moves

/-! ## The operations as moves -/

theorem moves_advance {c : Cursor} {ch : Char} {rest : Text} (h : c.rest = ch :: rest) :
    c.Moves [ch] c.advance := by
  rw [advance]
  split
  · rename_i hnil
    rw [h] at hnil
    cases hnil
  · rename_i ch' rest' hcons
    rw [h] at hcons
    cases hcons
    exact ⟨h, rfl⟩

theorem advance_of_nil {c : Cursor} (h : c.rest = []) : c.advance = c := by
  rw [advance]
  split
  · rfl
  · rename_i hcons
    rw [h] at hcons
    cases hcons

theorem reaches_advance (c : Cursor) : c.Reaches c.advance := by
  cases hrest : c.rest with
  | nil =>
    rw [advance_of_nil hrest]
    exact ⟨[], .refl c⟩
  | cons ch rest => exact ⟨[ch], moves_advance hrest⟩

theorem moves_advanceBy {c : Cursor} {t rest : Text} (h : c.rest = t ++ rest) :
    c.Moves t (c.advanceBy t.length) := by
  induction t generalizing c with
  | nil => exact .refl c
  | cons ch t ih =>
    have hstep : c.Moves [ch] c.advance := moves_advance h
    have hrest : c.advance.rest = t ++ rest := by
      rw [rest_advance, h]
      rfl
    exact hstep.trans (ih hrest)

theorem rest_advanceBy (n : Nat) (c : Cursor) : (c.advanceBy n).rest = c.rest.drop n := by
  induction n generalizing c with
  | zero => rfl
  | succ n ih => rw [advanceBy, ih, rest_advance, List.drop_tail]

theorem length_rest_advanceBy {c : Cursor} {n : Nat} (hn : 0 < n) (hrest : c.rest ≠ []) :
    (c.advanceBy n).rest.length < c.rest.length := by
  have hlength := List.length_pos_iff.2 hrest
  rw [rest_advanceBy, List.length_drop]
  omega

/-- The only place behind a text is that many characters ahead. -/
theorem Moves.eq_advanceBy {c c' : Cursor} {t : Text} (h : c.Moves t c') :
    c' = c.advanceBy t.length :=
  h.eq (moves_advanceBy h.rest_eq)

/-- A text is taken exactly where it stands. -/
theorem consume_eq_ok_iff {c c' : Cursor} {front : Text} :
    c.consume front = .ok c' ↔ c.Moves front c' := by
  constructor
  · intro htaken
    unfold consume at htaken
    split at htaken
    · cases htaken
    · rename_i rest hstrip
      cases htaken
      exact ⟨Text.stripFront?_eq_some_iff.1 hstrip, rfl⟩
  · intro hmoves
    have hstrip := Text.stripFront?_eq_some_iff.2 hmoves.rest_eq
    have htaken : ∃ c'', c.consume front = .ok c'' ∧ c.Moves front c'' := by
      unfold consume
      rw [hstrip]
      exact ⟨_, rfl, hmoves.rest_eq, rfl⟩
    obtain ⟨c'', hok, hmoves'⟩ := htaken
    rw [hok, hmoves.eq hmoves']

theorem exists_moves_of_isPrefix {c : Cursor} {t : Text} (h : t <+: c.rest) :
    ∃ c', c.Moves t c' := by
  obtain ⟨rest, hrest⟩ := h
  exact ⟨_, moves_advanceBy hrest.symm⟩

/-- A move over two texts stops between them. -/
theorem Moves.exists_between {c c'' : Cursor} {t t' : Text} (h : c.Moves (t ++ t') c'') :
    ∃ c', c.Moves t c' ∧ c'.Moves t' c'' := by
  obtain ⟨c', hleft⟩ := exists_moves_of_isPrefix ((List.prefix_append t t').trans h.isPrefix)
  exact ⟨c', hleft, h.right hleft⟩

/-- No text can be taken that does not stand at the cursor. -/
theorem startsWith_iff {c : Cursor} {front : Text} : c.startsWith front = true ↔ front <+: c.rest :=
  Text.stripFront?_isSome_iff

theorem exhausted_iff {c : Cursor} : c.exhausted = true ↔ c.rest = [] := List.isEmpty_iff

theorem next?_eq_some_iff {c : Cursor} {ch : Char} :
    c.next? = some ch ↔ ∃ rest, c.rest = ch :: rest := by
  rw [next?]
  cases c.rest with
  | nil => simp
  | cons ch' rest => simp [eq_comm]

/-- `skipTo` moves over the text before the next place where the pattern stands. -/
theorem moves_skipTo (c : Cursor) (pattern : Text) :
    c.Moves (Text.before pattern c.rest) (c.skipTo pattern).2 := by
  obtain ⟨rest, hrest, _⟩ := Text.exists_eq_before_append pattern c.rest
  exact moves_advanceBy hrest

theorem skippable_isPrefix (skip : Text → Bool) (lookahead : Nat) (t : Text) :
    skippable skip lookahead t <+: t := by
  induction t with
  | nil => exact List.nil_prefix
  | cons ch t ih =>
    rw [skippable]
    split
    · exact List.prefix_cons_inj ch |>.2 ih
    · exact List.nil_prefix

theorem moves_skipWhile (c : Cursor) (skip : Text → Bool) (lookahead : Nat) :
    c.Moves (skippable skip lookahead c.rest) (c.skipWhile skip lookahead).2 := by
  obtain ⟨rest, hrest⟩ := skippable_isPrefix skip lookahead c.rest
  exact moves_advanceBy hrest.symm

/-- Looking one character ahead passes over the longest front of accepted characters. -/
theorem skippable_one (accepts : Char → Bool) (t : Text) :
    skippable (fun ahead => ahead.all accepts) 1 t = t.takeWhile accepts := by
  induction t with
  | nil => rfl
  | cons ch t ih =>
    rw [skippable, List.takeWhile_cons, ih]
    simp

theorem moves_skipBlanks (c : Cursor) : c.Moves (c.rest.takeWhile Text.isBlank) c.skipBlanks := by
  have hmoves := moves_skipWhile c (fun ahead => ahead.all Text.isBlank) 1
  rwa [skippable_one] at hmoves

theorem rest_skipBlanks (c : Cursor) : c.skipBlanks.rest = c.rest.dropWhile Text.isBlank := by
  have hmoves := moves_skipBlanks c
  have hsplit : c.rest = c.rest.takeWhile Text.isBlank ++ c.rest.dropWhile Text.isBlank :=
    List.takeWhile_append_dropWhile.symm
  exact List.append_cancel_left (hmoves.rest_eq.symm.trans hsplit)

theorem skipBlanks_skipBlanks (c : Cursor) : c.skipBlanks.skipBlanks = c.skipBlanks := by
  have hmoves := moves_skipBlanks c.skipBlanks
  have hnone : c.skipBlanks.rest.takeWhile Text.isBlank = [] := by
    rw [rest_skipBlanks, List.takeWhile_eq_nil_iff]
    intro hpos
    exact List.dropWhile_get_zero_not _ _ hpos
  rw [hnone] at hmoves
  exact hmoves.eq_of_nil

theorem offset_le_byteLength_text (c : Cursor) : c.offset ≤ Text.byteLength c.text := by
  rw [c.offset_eq, text, Text.byteLength_append, Text.byteLength_reverse]
  exact Nat.le_add_right _ _

/-- A cursor that stands at no white space, or need not skip it, is ready where it is. -/
theorem ready_eq_self {c : Cursor} {ch : Char} {skipsBlanks : Bool}
    (hnext : c.next? = some ch) (hblank : (skipsBlanks && Text.isBlank ch) = false) :
    c.ready skipsBlanks = c := by
  cases skipsBlanks with
  | false => rfl
  | true =>
    obtain ⟨rest, hrest⟩ := next?_eq_some_iff.1 hnext
    have hmoves := moves_skipBlanks c
    rw [Bool.true_and] at hblank
    rw [hrest, List.takeWhile_cons, hblank] at hmoves
    exact hmoves.eq_of_nil

/-- Getting ready passes over white space only. -/
theorem moves_ready (c : Cursor) (skipsBlanks : Bool) :
    ∃ blanks, c.Moves blanks (c.ready skipsBlanks) ∧ ∀ ch ∈ blanks, Text.isBlank ch = true := by
  cases skipsBlanks with
  | false => exact ⟨[], .refl c, by simp⟩
  | true => exact ⟨_, moves_skipBlanks c, fun ch hch => List.mem_takeWhile_imp hch⟩

/-- Induction from a place on to the end of the text. -/
@[elab_as_elim]
theorem forward {P : Cursor → Prop} (finished : ∀ c, c.rest = [] → P c)
    (step : ∀ c ch rest, c.rest = ch :: rest → P c.advance → P c) (c : Cursor) : P c := by
  induction hlength : c.rest.length using Nat.strongRecOn generalizing c with
  | ind length ih =>
    cases hrest : c.rest with
    | nil => exact finished c hrest
    | cons ch rest =>
      have hne : c.rest ≠ [] := by
        rw [hrest]
        exact List.cons_ne_nil ch rest
      have hless := length_rest_advance hne
      exact step c ch rest hrest (ih _ (hlength ▸ hless) c.advance rfl)

/-! ## Places ahead -/

namespace Reaches

variable {c c' c'' : Cursor}

theorem refl (c : Cursor) : c.Reaches c := ⟨[], .refl c⟩

theorem trans (h : c.Reaches c') (h' : c'.Reaches c'') : c.Reaches c'' := by
  obtain ⟨t, ht⟩ := h
  obtain ⟨t', ht'⟩ := h'
  exact ⟨t ++ t', ht.trans ht'⟩

theorem moves_textTo (h : c.Reaches c') : c.Moves (c.textTo c') c' := by
  obtain ⟨t, hmoves⟩ := h
  rwa [hmoves.textTo_eq]

theorem length_rest_le (h : c.Reaches c') : c'.rest.length ≤ c.rest.length := by
  obtain ⟨t, hmoves⟩ := h
  have hlength := hmoves.length_rest
  omega

theorem text_eq (h : c.Reaches c') : c'.text = c.text := by
  obtain ⟨t, hmoves⟩ := h
  exact hmoves.text_eq

theorem offset_le (h : c.Reaches c') : c.offset ≤ c'.offset := by
  obtain ⟨t, hmoves⟩ := h
  have hoffset := hmoves.offset_eq
  omega

/-- A place with less text left is another place. -/
theorem offset_ne (h : c.Reaches c') (hless : c'.rest.length < c.rest.length) :
    c'.offset ≠ c.offset := by
  obtain ⟨t, hmoves⟩ := h
  refine hmoves.offset_ne ?_
  rintro rfl
  rw [hmoves.eq_of_nil] at hless
  exact Nat.lt_irrefl _ hless

/-- A place ahead at the same offset is the same place. -/
theorem eq_of_offset_eq (h : c.Reaches c') (hsame : c'.offset = c.offset) : c' = c := by
  obtain ⟨t, hmoves⟩ := h
  by_cases hnil : t = []
  · rw [hnil] at hmoves
    exact hmoves.eq_of_nil
  · exact absurd hsame (hmoves.offset_ne hnil)

/-- Two places that reach one another are the same. -/
theorem antisymm (h : c.Reaches c') (h' : c'.Reaches c) : c = c' := by
  obtain ⟨t, hmoves⟩ := h
  exact (hmoves.eq_of_length_le h'.length_rest_le).symm

/-- A text stands whole at its start only. -/
theorem eq_start {text : Text} (h : (start text).Reaches c) (hstands : text <+: c.rest) :
    c = start text := by
  obtain ⟨t, hmoves⟩ := h
  exact hmoves.eq_of_length_le hstands.length_le

theorem ready (h : c.Reaches c') (skipsBlanks : Bool) : c.Reaches (c'.ready skipsBlanks) := by
  obtain ⟨blanks, hmoves, _⟩ := moves_ready c' skipsBlanks
  exact h.trans ⟨blanks, hmoves⟩

theorem consume (h : c.Reaches c') {front : Text} (htaken : c'.consume front = .ok c'') :
    c.Reaches c'' :=
  h.trans ⟨front, consume_eq_ok_iff.1 htaken⟩

end Reaches

end Excerpt.Cursor
