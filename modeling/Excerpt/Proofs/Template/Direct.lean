import Excerpt.Proofs.Template.Reading

/-!
# Templates mean what they say

`define_eq_direct` : reading a template with its grammar, and making definitions of the match, is
the same as cutting it at its placeholders and making definitions of the parts.  This holds for all
templates, components and running numbers, and for errors too.  The words that are read one character
at a time are the longest runs free of white space.
-/

namespace Excerpt.Template

open Text

variable {components : Components} {template : String}

theorem wordEntries_cons (next : Nat) (word : Text) (rest : List Text) :
    wordEntries next (word :: rest) =
      .matcher s!"_{next}" (.literal (String.ofList word)) :: wordEntries (next + 1) rest := by
  simp only [wordEntries, List.mapIdx_cons, Nat.add_zero, Nat.add_assoc, Nat.add_comm 1]

/-- Adding words adds a step for each. -/
theorem addWords_eq (d : Definitions) (next : Nat) (text : Text) :
    (Draft.mk d next).addWords text =
      ⟨{ d with entries := d.entries ++ wordEntries next (words text) },
        next + (words text).length⟩ := by
  rw [Draft.addWords]
  generalize words text = ws
  induction ws generalizing d next with
  | nil =>
    cases d
    simp [wordEntries]
  | cons word rest ih =>
    rw [List.foldl_cons, ih, wordEntries_cons]
    simp only [Definitions.add, List.append_assoc, List.cons_append, List.nil_append,
      List.length_cons, Nat.add_assoc, Nat.add_comm 1]

/-- An opening that occurs in the trailing text has both its characters there. -/
theorem malformed_eq {trailing : Match}
    (hend : trailing.offset + byteLength trailing.matched = byteLength template.toList)
    (hoccurs : occursIn opening.toList trailing.matched = true) :
    malformed template
        (trailing.offset + byteLength (before opening.toList trailing.matched)) =
      ⟨.malformedTemplate template, some ⟨"template", template,
        trailing.offset + byteLength (before opening.toList trailing.matched), 2⟩⟩ := by
  obtain ⟨rest, hrest⟩ := isPrefix_behind_before hoccurs
  have hsize : template.utf8ByteSize = byteLength template.toList := by
    rw [← utf8ByteSize_ofList, String.ofList_toList]
  have hopening : byteLength opening.toList = 2 := rfl
  have hlength := congrArg byteLength hrest
  rw [byteLength_append, byteLength_append, hopening] at hlength
  have hmin : min (template.utf8ByteSize -
      (trailing.offset + byteLength (before opening.toList trailing.matched)))
      opening.utf8ByteSize = 2 := by
    have hsize' : opening.utf8ByteSize = 2 := rfl
    rw [hsize, ← hend, hsize']
    omega
  rw [malformed, hmin]
  rfl

/-- The definitions made of matches are those made of the pieces matched. -/
theorem addPieces_eq {offset last : Nat} {pieces : List Piece} {ms : List Match} {trailing : Match}
    (h : PiecesAt offset pieces ms last) (hlast : trailing.offset = last)
    (hend : trailing.offset + byteLength trailing.matched = byteLength template.toList)
    (entries : List (Entry Definitions)) (next : Nat) :
    Draft.addPieces template components (some trailing) ⟨⟨some template, entries, none⟩, next⟩ ms =
      compilePieces components template trailing.matched offset next entries pieces := by
  induction h generalizing entries next with
  | nil offset =>
    subst hlast
    simp only [Draft.addPieces, compilePieces, splitAtBlanks_eq_words, beforeOpening?_eq]
    by_cases hoccurs : occursIn opening.toList trailing.matched = true
    · simp only [if_pos hoccurs, malformed_eq hend hoccurs]
    · simp only [if_neg hoccurs, addWords_eq]
  | @cons offset last piece m pieces ms hpiece hpieces ih =>
    obtain ⟨⟨text, htext, hliteral, _⟩, ⟨name, hname, hkey, hoffset⟩, hmatched⟩ := hpiece
    have htext' : m.child? "literal" = some text := by simpa [Match.partAt?] using htext
    have hnext : offset + byteLength m.matched =
        offset + byteLength piece.text + 2 + byteLength piece.name + 1 := by
      rw [hmatched, byteLength_append, byteLength_placeholderText]
      omega
    simp only [Draft.addPieces, compilePieces, splitAtBlanks_eq_words, htext', hname, hliteral,
      addWords_eq, Draft.addPlaceholder, hkey, hoffset]
    cases components.get? (String.ofList piece.name) with
    | none => rfl
    | some component =>
      simp only [Definitions.names, List.contains_iff_mem]
      by_cases hseen : String.ofList piece.name ∈
          (entries ++ wordEntries next (words piece.text)).map Entry.name
      · simp only [if_pos hseen]
        rfl
      · simp only [if_neg hseen]
        rw [hnext] at ih
        exact ih hlast _ _

theorem define_eq_compilePieces (components : Components) (next : Nat) (template : String) :
    define components next template =
      compilePieces components template (cut template.toList).2 0 next []
        (cut template.toList).1 := by
  obtain ⟨m, these, trailing, hmatch, hthese, htrailing, hpieces, hrest, hend⟩ :=
    exists_matchFront template.toList
  rw [define, Cursor.ofString, hmatch]
  simp only [hthese, htrailing, Option.map_some, Option.getD_some, ← hrest]
  exact addPieces_eq hpieces rfl hend [] next

/-- A template describes the definitions that its parts describe, and the words of its literal text
are the longest runs free of white space. -/
theorem define_eq_direct (components : Components) (next : Nat) (template : String) :
    define components next template = direct components next template ∧
      ∀ text ws, words text = ws ↔ HasWords text ws := by
  refine ⟨?_, fun _ _ => words_eq_iff⟩
  rw [define_eq_compilePieces]
  rfl

end Excerpt.Template
