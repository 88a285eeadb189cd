import Excerpt.Proofs.Text

/-!
# Places in a text

A place is a byte offset between two characters of a text, or at one of its ends.  It cuts the text
into what is before it and what is ahead.

* `dropBytes?_eq_some_iff`, `takeBytes?_eq_some_iff`, `slice?_eq_some_iff` : a text can be cut at its
  places, and nowhere else.
* `isValid_iff` : the places are the valid positions of the string.
* `exists_between` : of two places, the one at the smaller offset comes first.

`IsFirstPlace` says where a search in a text stops.
-/

namespace Excerpt.Text

variable {t front back middle : Text} {n first last : Nat}

/-! ## Cutting a text -/

theorem dropBytes?_eq_some_iff :
    dropBytes? n t = some back ↔ ∃ front, t = front ++ back ∧ byteLength front = n := by
  constructor
  · intro h
    induction t generalizing n with
    | nil =>
      rw [dropBytes?] at h
      split at h
      · rename_i hzero
        cases h
        exact ⟨[], rfl, hzero.symm⟩
      · cases h
    | cons c t ih =>
      rw [dropBytes?] at h
      split at h
      · rename_i hzero
        cases h
        exact ⟨[], rfl, hzero.symm⟩
      · split at h
        · rename_i hle
          obtain ⟨front, rfl, hfront⟩ := ih h
          refine ⟨c :: front, rfl, ?_⟩
          rw [byteLength_cons, hfront]
          omega
        · cases h
  · rintro ⟨front, rfl, rfl⟩
    exact dropBytes?_append front back

theorem takeBytes?_eq_some_iff :
    takeBytes? n t = some front ↔ front <+: t ∧ byteLength front = n := by
  constructor
  · intro h
    induction t generalizing n front with
    | nil =>
      rw [takeBytes?] at h
      split at h
      · rename_i hzero
        cases h
        exact ⟨List.nil_prefix, hzero.symm⟩
      · cases h
    | cons c t ih =>
      rw [takeBytes?] at h
      split at h
      · rename_i hzero
        cases h
        exact ⟨List.nil_prefix, hzero.symm⟩
      · split at h
        · rename_i hle
          obtain ⟨front', hfront', rfl⟩ := Option.map_eq_some_iff.1 h
          obtain ⟨hstands, hbytes⟩ := ih hfront'
          refine ⟨List.prefix_cons_inj c |>.2 hstands, ?_⟩
          rw [byteLength_cons, hbytes]
          omega
        · cases h
  · rintro ⟨⟨back, rfl⟩, rfl⟩
    exact takeBytes?_append front back

theorem slice?_eq_some_iff :
    slice? t first last = some middle ↔
      ∃ ahead, dropBytes? first t = some ahead ∧ middle <+: ahead ∧
        first + byteLength middle = last := by
  rw [slice?]
  constructor
  · intro h
    split at h
    · rename_i hle
      obtain ⟨ahead, hahead, hmiddle⟩ := Option.bind_eq_some_iff.1 h
      obtain ⟨hstands, hbytes⟩ := takeBytes?_eq_some_iff.1 hmiddle
      exact ⟨ahead, hahead, hstands, by omega⟩
    · cases h
  · rintro ⟨ahead, hahead, hstands, rfl⟩
    rw [if_pos (Nat.le_add_right _ _), hahead, Option.bind_some, Nat.add_sub_cancel_left]
    exact takeBytes?_eq_some_iff.2 ⟨hstands, rfl⟩

/-- The places of a text are the valid positions of the string. -/
theorem isValid_iff :
    (String.Pos.Raw.mk n).IsValid (String.ofList t) ↔ ∃ ahead, dropBytes? n t = some ahead := by
  rw [String.Pos.Raw.isValid_ofList]
  constructor
  · rintro ⟨count, hcount⟩
    refine ⟨t.drop count, dropBytes?_eq_some_iff.2 ⟨t.take count, ?_, ?_⟩⟩
    · exact (List.take_append_drop count t).symm
    · rw [← utf8ByteSize_ofList, ← hcount]
  · rintro ⟨ahead, hahead⟩
    obtain ⟨front, rfl, rfl⟩ := dropBytes?_eq_some_iff.1 hahead
    refine ⟨front.length, ?_⟩
    rw [List.take_left, utf8ByteSize_ofList]

/-- Some text, maybe empty, is between a place and one that is not before it. -/
theorem exists_between {front' back' : Text} (h : front ++ back = front' ++ back')
    (hle : byteLength front ≤ byteLength front') :
    ∃ between, front' = front ++ between ∧ back = between ++ back' := by
  rcases List.append_eq_append_iff.1 h with hbetween | ⟨behind, hfront, hback'⟩
  · exact hbetween
  · have hnil : behind = [] := by
      rw [hfront, byteLength_append] at hle
      exact byteLength_eq_zero_iff.1 (by omega)
    rw [hnil, List.append_nil] at hfront
    rw [hnil, List.nil_append] at hback'
    exact ⟨[], by rw [hfront, List.append_nil], hback'.symm⟩

/-! ## First places -/

/-- From the byte offset `first` on, `stop` is the first place of a text with a text ahead that is
asked for, or the end of the text if there is none. -/
structure IsFirstPlace (asked : Text → Prop) (text : Text) (first stop : Nat) : Prop where
  first_le : first ≤ stop
  stops : ∃ ahead, dropBytes? stop text = some ahead ∧ (asked ahead ∨ stop = byteLength text)
  passed : ∀ place ahead, first ≤ place → place < stop → dropBytes? place text = some ahead →
    ¬ asked ahead

end Excerpt.Text
