import Excerpt.Nesting
import Excerpt.Proofs.Text

/-!
# Balanced fronts

`NestingDepth.balancedFront?` reads a text until the depth is back at zero.

* `balancedFront?_isPrefix` : what it answers is a front of the text.
* `exists_eq_append_closer` : from a positive depth on, it ends with the closing delimiter, because
  one character changes the depth by one at most and only the closing delimiter lowers it.
* `Content.exists_eq_enclosed` : under rules that count the opening delimiter at the start of a
  text, the balanced front of a text that begins with it is enclosed in the two delimiters.  The
  usual rules are such, and so are `plain` and `hashComments`.
-/

namespace Excerpt

theorem Delimiters.utf8Size_closer (d : Delimiters) : d.closer.utf8Size = 1 := by
  cases d <;> rfl

namespace NestingDepth

variable {σ : Type} {machine : ContentMachine σ} {d : Delimiters}

theorem balancedFront?_cons (s : NestingDepth σ) (c : Char) (rest : List Char) :
    balancedFront? machine d s (c :: rest) =
      if (step machine d s c).depth = 0 then some [c]
      else (balancedFront? machine d (step machine d s c) rest).map (c :: ·) :=
  rfl

theorem balancedFront?_isPrefix {text front : List Char} :
    ∀ {s : NestingDepth σ}, balancedFront? machine d s text = some front → front <+: text := by
  induction text generalizing front with
  | nil =>
    intro s h
    cases h
  | cons c rest ih =>
    intro s h
    rw [balancedFront?_cons] at h
    split at h
    · cases h
      exact List.prefix_cons_inj c |>.2 List.nil_prefix
    · obtain ⟨front', hfront', rfl⟩ := Option.map_eq_some_iff.1 h
      exact List.prefix_cons_inj c |>.2 (ih hfront')

/-- A balanced front has at least one character, that of the first step. -/
theorem balancedFront?_ne_nil {text front : List Char} {s : NestingDepth σ}
    (h : balancedFront? machine d s text = some front) : front ≠ [] := by
  cases text with
  | nil => cases h
  | cons c rest =>
    rw [balancedFront?_cons] at h
    split at h
    · cases h
      exact List.cons_ne_nil c []
    · obtain ⟨front', _, rfl⟩ := Option.map_eq_some_iff.1 h
      exact List.cons_ne_nil c front'

/-- The depth behind the opening delimiter at the start of a text. -/
theorem depth_step_opener (machine : ContentMachine σ) (d : Delimiters) :
    (step machine d (start machine) d.opener).depth =
      if machine.isNormal (machine.step machine.start d.opener) then 1 else 0 := by
  show (0 : Int) + d.change (machine.isNormal (machine.step machine.start d.opener)) d.opener = _
  rw [Delimiters.change, if_pos rfl, Int.zero_add]

/-- Only the closing delimiter takes a positive depth to zero, and no character takes it below. -/
theorem step_depth_cases (s : NestingDepth σ) (c : Char) (hpos : 1 ≤ s.depth) :
    (step machine d s c).depth = 0 ∧ c = d.closer ∨ 1 ≤ (step machine d s c).depth := by
  have hdepth : (step machine d s c).depth =
      s.depth + d.change (machine.isNormal (machine.step s.content c)) c := rfl
  rw [Delimiters.change] at hdepth
  split_ifs at hdepth with hnormal hopener hcloser
  · right
    omega
  · by_cases hone : s.depth = 1
    · exact Or.inl ⟨by omega, hcloser⟩
    · right
      omega
  · right
    omega
  · right
    omega

/-- A balanced front that begins inside delimiters ends with the closing one. -/
theorem exists_eq_append_closer {text front : List Char} :
    ∀ {s : NestingDepth σ}, 1 ≤ s.depth → balancedFront? machine d s text = some front →
      ∃ inner, front = inner ++ [d.closer] := by
  induction text generalizing front with
  | nil =>
    intro s _ h
    cases h
  | cons c rest ih =>
    intro s hpos h
    rw [balancedFront?_cons] at h
    rcases @step_depth_cases σ machine d s c hpos with ⟨hzero, hcloser⟩ | hnext
    · rw [if_pos hzero] at h
      cases h
      exact ⟨[], by rw [hcloser, List.nil_append]⟩
    · have hne : (step machine d s c).depth ≠ 0 := by omega
      rw [if_neg hne] at h
      obtain ⟨front', hfront', rfl⟩ := Option.map_eq_some_iff.1 h
      obtain ⟨inner, hinner⟩ := ih hnext hfront'
      exact ⟨c :: inner, by rw [hinner, List.cons_append]⟩

/-- If the opening delimiter is ordinary content at the start of a text, the balanced front of a
text that begins with it is enclosed in the two delimiters. -/
theorem exists_eq_enclosed {rest front : List Char}
    (hopener : machine.isNormal (machine.step machine.start d.opener) = true)
    (h : balancedFront? machine d (start machine) (d.opener :: rest) = some front) :
    ∃ inner, front = d.opener :: (inner ++ [d.closer]) := by
  have hone : (step machine d (start machine) d.opener).depth = 1 := by
    rw [depth_step_opener, if_pos hopener]
  have hne : (step machine d (start machine) d.opener).depth ≠ 0 := by omega
  rw [balancedFront?_cons, if_neg hne] at h
  obtain ⟨front', hfront', rfl⟩ := Option.map_eq_some_iff.1 h
  have hpos : 1 ≤ (step machine d (start machine) d.opener).depth := by omega
  obtain ⟨inner, hinner⟩ := exists_eq_append_closer hpos hfront'
  exact ⟨inner, by rw [hinner]⟩

end NestingDepth

/-! ## Content rules -/

/-- A comment runs from a hash sign to the end of the line; all else is ordinary content. -/
def hashComments : ContentMachine Bool where
  start := false
  step inComment c := if c = '#' then true else if c = '\n' then false else inComment
  isNormal inComment := !inComment

namespace Content

/-- Whether the opening delimiter is ordinary content at the start of a text. -/
def countsOpener (content : Content) (d : Delimiters) : Bool :=
  match content with
  | .cFamily => Excerpt.cFamily.isNormal (Excerpt.cFamily.step Excerpt.cFamily.start d.opener)
  | .plain => true
  | .custom _ isNormal => isNormal [d.opener]

theorem countsOpener_cFamily (d : Delimiters) : cFamily.countsOpener d = true := by
  cases d <;> rfl

theorem countsOpener_hashComments (name : String) (d : Delimiters) :
    (ofMachine name hashComments).countsOpener d = true := by
  cases d <;> rfl

theorem balancedFront?_isPrefix {content : Content} {d : Delimiters} {text front : List Char}
    (h : content.balancedFront? d text = some front) : front <+: text := by
  cases content with
  | cFamily | plain | custom _ _ => exact NestingDepth.balancedFront?_isPrefix h

theorem balancedFront?_ne_nil {content : Content} {d : Delimiters} {text front : List Char}
    (h : content.balancedFront? d text = some front) : front ≠ [] := by
  cases content with
  | cFamily | plain | custom _ _ => exact NestingDepth.balancedFront?_ne_nil h

theorem exists_eq_enclosed {content : Content} {d : Delimiters} {rest front : List Char}
    (hopener : content.countsOpener d = true)
    (h : content.balancedFront? d (d.opener :: rest) = some front) :
    ∃ inner, front = d.opener :: (inner ++ [d.closer]) := by
  cases content with
  | cFamily => exact NestingDepth.exists_eq_enclosed hopener h
  | plain => exact NestingDepth.exists_eq_enclosed rfl h
  | custom name isNormal =>
    have hnormal : (historyMachine isNormal).isNormal
        ((historyMachine isNormal).step (historyMachine isNormal).start d.opener) = true := hopener
    exact NestingDepth.exists_eq_enclosed hnormal h

/-- If the opening delimiter does not count, the depth is zero behind it. -/
theorem balancedFront?_of_not_counts {content : Content} {d : Delimiters}
    (hcounts : content.countsOpener d = false) (rest : List Char) :
    content.balancedFront? d (d.opener :: rest) = some [d.opener] := by
  cases content with
  | cFamily =>
    rw [countsOpener_cFamily] at hcounts
    cases hcounts
  | plain => cases hcounts
  | custom name isNormal =>
    refine if_pos ?_
    rw [NestingDepth.depth_step_opener]
    exact if_neg (Bool.eq_false_iff.1 hcounts)

end Content

end Excerpt
