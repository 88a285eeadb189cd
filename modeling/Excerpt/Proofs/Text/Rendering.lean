import Excerpt.Proofs.Cursor

/-!
# Renderings of tokens

`Renders skipsBlanks tokens t` says that `t` consists of the tokens in their order, with a gap
before each.  A gap is any white space where white space is skipped, and nothing where it is not
(`renders_false_iff`).  There is no gap behind the last token.

A token begins with a character that is no white space (`IsToken`), so the gap before it ends
exactly where `Cursor.ready` goes (`Cursor.moves_ready_of_gap`).  Hence the tokens can be read from a
cursor one after another (`Cursor.reads_cons_iff`), and parted anywhere (`Cursor.reads_append_iff`).
-/

namespace Excerpt

namespace Text

/-- What may stand before a token. -/
structure IsGap (skipsBlanks : Bool) (blanks : Text) : Prop where
  blank : ∀ ch ∈ blanks, isBlank ch = true
  eq_nil : skipsBlanks = false → blanks = []

/-- A text that does not begin with white space, and is not empty. -/
def IsToken (t : Text) : Prop := ∃ ch rest, t = ch :: rest ∧ isBlank ch = false

theorem IsToken.ne_nil {t : Text} (h : IsToken t) : t ≠ [] := by
  obtain ⟨ch, rest, rfl, _⟩ := h
  exact List.cons_ne_nil ch rest

/-- `t` is the tokens one after another, with a gap before each. -/
inductive Renders (skipsBlanks : Bool) : List Text → Text → Prop
  | nil : Renders skipsBlanks [] []
  | cons {blanks token t : Text} {tokens : List Text} (hgap : IsGap skipsBlanks blanks)
    (hrenders : Renders skipsBlanks tokens t) :
    Renders skipsBlanks (token :: tokens) (blanks ++ token ++ t)

variable {skipsBlanks : Bool} {token t u : Text} {tokens tokens' : List Text}

theorem isGap_nil (skipsBlanks : Bool) : IsGap skipsBlanks [] := ⟨by simp, fun _ => rfl⟩

theorem renders_nil_iff : Renders skipsBlanks [] t ↔ t = [] := by
  constructor
  · rintro ⟨⟩
    rfl
  · rintro rfl
    exact .nil

theorem renders_cons_iff :
    Renders skipsBlanks (token :: tokens) t ↔
      ∃ blanks rest, IsGap skipsBlanks blanks ∧ t = blanks ++ token ++ rest ∧
        Renders skipsBlanks tokens rest := by
  constructor
  · rintro ⟨⟩
    exact ⟨_, _, ‹_›, rfl, ‹_›⟩
  · rintro ⟨blanks, rest, hgap, rfl, hrenders⟩
    exact .cons hgap hrenders

theorem Renders.append (h : Renders skipsBlanks tokens t) (h' : Renders skipsBlanks tokens' u) :
    Renders skipsBlanks (tokens ++ tokens') (t ++ u) := by
  induction h with
  | nil => exact h'
  | cons hgap _ ih =>
    rw [List.cons_append, List.append_assoc]
    exact .cons hgap ih

theorem Renders.singleton {blanks : Text} (hgap : IsGap skipsBlanks blanks) (token : Text) :
    Renders skipsBlanks [token] (blanks ++ token) := by
  have h : Renders skipsBlanks [token] (blanks ++ token ++ []) := .cons hgap .nil
  rwa [List.append_nil] at h

/-- A rendering of tokens in two parts is one of each part. -/
theorem renders_append_iff :
    Renders skipsBlanks (tokens ++ tokens') t ↔
      ∃ u u', t = u ++ u' ∧ Renders skipsBlanks tokens u ∧ Renders skipsBlanks tokens' u' := by
  constructor
  · intro h
    induction tokens generalizing t with
    | nil => exact ⟨[], t, rfl, .nil, h⟩
    | cons token tokens ih =>
      obtain ⟨blanks, rest, hgap, rfl, hrest⟩ := renders_cons_iff.1 h
      obtain ⟨u, u', rfl, hu, hu'⟩ := ih hrest
      exact ⟨blanks ++ token ++ u, u', (List.append_assoc _ _ _).symm, .cons hgap hu, hu'⟩
  · rintro ⟨u, u', rfl, hu, hu'⟩
    exact hu.append hu'

/-- Where no white space is skipped the tokens follow one another directly. -/
theorem renders_false_iff : Renders false tokens t ↔ t = tokens.flatten := by
  induction tokens generalizing t with
  | nil => exact renders_nil_iff
  | cons token tokens ih =>
    rw [renders_cons_iff, List.flatten_cons]
    constructor
    · rintro ⟨blanks, rest, hgap, rfl, hrest⟩
      rw [hgap.eq_nil rfl, ih.1 hrest, List.nil_append]
    · rintro rfl
      exact ⟨[], tokens.flatten, isGap_nil false, rfl, ih.2 rfl⟩

end Text

namespace Cursor

open Text

variable {skipsBlanks : Bool} {c : Cursor}

/-- Getting ready passes over a gap. -/
theorem exists_gap_ready (c : Cursor) (skipsBlanks : Bool) :
    ∃ blanks, IsGap skipsBlanks blanks ∧ c.Moves blanks (c.ready skipsBlanks) := by
  cases skipsBlanks with
  | false => exact ⟨[], isGap_nil false, .refl c⟩
  | true =>
    obtain ⟨blanks, hmoves, hblank⟩ := c.moves_ready true
    exact ⟨blanks, ⟨hblank, by simp⟩, hmoves⟩

/-- The gap before a token is what getting ready passes over. -/
theorem moves_ready_of_gap {blanks token rest : Text} (hgap : IsGap skipsBlanks blanks)
    (htoken : IsToken token) (h : c.rest = blanks ++ (token ++ rest)) :
    c.Moves blanks (c.ready skipsBlanks) := by
  cases skipsBlanks with
  | false =>
    rw [hgap.eq_nil rfl]
    exact .refl c
  | true =>
    obtain ⟨ch, token, rfl, hch⟩ := htoken
    have hfront : c.rest.takeWhile isBlank = blanks := by
      rw [h, List.takeWhile_append_of_pos hgap.blank]
      simp [hch]
    have hmoves := moves_skipBlanks c
    rwa [hfront] at hmoves

/-- A place is ready if it is behind what was skipped. -/
@[simp] theorem ready_ready (c : Cursor) (skipsBlanks : Bool) :
    (c.ready skipsBlanks).ready skipsBlanks = c.ready skipsBlanks := by
  cases skipsBlanks with
  | false => rfl
  | true => exact skipBlanks_skipBlanks c

/-! ## Renderings between two places -/

/-- Between two places there stands a rendering of tokens. -/
def Reads (skipsBlanks : Bool) (c : Cursor) (tokens : List Text) (last : Cursor) : Prop :=
  ∃ t, c.Moves t last ∧ Renders skipsBlanks tokens t

variable {last : Cursor} {token : Text} {tokens tokens' : List Text}

theorem reads_nil_iff : c.Reads skipsBlanks [] last ↔ last = c := by
  constructor
  · rintro ⟨t, hmoves, hrenders⟩
    rw [renders_nil_iff.1 hrenders] at hmoves
    exact hmoves.eq_of_nil
  · rintro rfl
    exact ⟨[], .refl last, .nil⟩

/-- The first token stands where the cursor gets ready, and the others behind it. -/
theorem reads_cons_iff (htoken : IsToken token) :
    c.Reads skipsBlanks (token :: tokens) last ↔
      ∃ behind, (c.ready skipsBlanks).Moves token behind ∧
        behind.Reads skipsBlanks tokens last := by
  constructor
  · rintro ⟨t, hmoves, hrenders⟩
    obtain ⟨blanks, rest, hgap, rfl, hrest⟩ := renders_cons_iff.1 hrenders
    rw [List.append_assoc] at hmoves
    have hstands : c.rest = blanks ++ (token ++ (rest ++ last.rest)) := by
      rw [hmoves.rest_eq]
      simp
    have hready := moves_ready_of_gap hgap htoken hstands
    obtain ⟨behind, hbehind, hlast⟩ := (hmoves.right hready).exists_between
    exact ⟨behind, hbehind, rest, hlast, hrest⟩
  · rintro ⟨behind, hbehind, rest, hlast, hrest⟩
    obtain ⟨blanks, hgap, hready⟩ := c.exists_gap_ready skipsBlanks
    exact ⟨blanks ++ token ++ rest, (hready.trans hbehind).trans hlast, .cons hgap hrest⟩

theorem Reads.reaches (h : c.Reads skipsBlanks tokens last) : c.Reaches last := by
  obtain ⟨t, hmoves, _⟩ := h
  exact ⟨t, hmoves⟩

/-- Reading tokens reads some text. -/
theorem Reads.length_rest_lt (h : c.Reads skipsBlanks (token :: tokens) last)
    (htoken : IsToken token) : last.rest.length < c.rest.length := by
  obtain ⟨behind, hmoves, hlast⟩ := (reads_cons_iff htoken).1 h
  have hready := ((Reaches.refl c).ready skipsBlanks).length_rest_le
  have hbehind := hmoves.length_rest_lt htoken.ne_nil
  have hend := hlast.reaches.length_rest_le
  omega

theorem reads_append_iff :
    c.Reads skipsBlanks (tokens ++ tokens') last ↔
      ∃ middle, c.Reads skipsBlanks tokens middle ∧ middle.Reads skipsBlanks tokens' last := by
  constructor
  · rintro ⟨t, hmoves, hrenders⟩
    obtain ⟨u, u', rfl, hu, hu'⟩ := renders_append_iff.1 hrenders
    obtain ⟨middle, hleft, hright⟩ := hmoves.exists_between
    exact ⟨middle, ⟨u, hleft, hu⟩, ⟨u', hright, hu'⟩⟩
  · rintro ⟨middle, ⟨u, hleft, hu⟩, ⟨u', hright, hu'⟩⟩
    exact ⟨u ++ u', hleft.trans hright, hu.append hu'⟩

/-- It makes no difference to a first token whether the white space before it has been skipped. -/
theorem ready_reads_cons_iff (htoken : IsToken token) :
    (c.ready skipsBlanks).Reads skipsBlanks (token :: tokens) last ↔
      c.Reads skipsBlanks (token :: tokens) last := by
  rw [reads_cons_iff htoken, reads_cons_iff htoken, ready_ready]

/-- Tokens can be read from where the cursor is ready on, and then end at the same place but for
a gap, which matters if there are no tokens. -/
theorem reads_ready_iff (htokens : ∀ token ∈ tokens, IsToken token) :
    (∃ x, (c.ready skipsBlanks).Reads skipsBlanks tokens x ∧
        x.ready skipsBlanks = last.ready skipsBlanks) ↔
      ∃ x, c.Reads skipsBlanks tokens x ∧ x.ready skipsBlanks = last.ready skipsBlanks := by
  cases tokens with
  | nil => simp only [reads_nil_iff, exists_eq_left, ready_ready]
  | cons token tokens => simp only [ready_reads_cons_iff (htokens token List.mem_cons_self)]

/-- A text is a rendering of tokens if they can be read from its start to its end. -/
theorem renders_iff_reads {text : Text} :
    Renders skipsBlanks tokens text ↔
      ∃ last, (start text).Moves text last ∧ (start text).Reads skipsBlanks tokens last := by
  constructor
  · intro h
    obtain ⟨last, hmoves⟩ := exists_moves_of_isPrefix (c := start text) (List.prefix_refl text)
    exact ⟨last, hmoves, text, hmoves, h⟩
  · rintro ⟨last, hmoves, t, hmoves', hrenders⟩
    have htext : text = t := hmoves.textTo_eq.symm.trans hmoves'.textTo_eq
    rw [htext]
    exact hrenders

end Cursor

end Excerpt
