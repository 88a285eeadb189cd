import Excerpt.Proofs.Regex.Steady.Element
import Excerpt.Proofs.Regex.TextStart
import Excerpt.Regex.Pattern

/-!
# An anchor around a pattern

A pattern is not anchored by a flag: an anchor and a group are written around its text, and the
whole is read again.  What the text means comes out the same (`withGroup?_anchored`), but whether it
is a pattern at all need not: the bracket that closes the group stands behind whatever the text
leaves open.  `Behind` lists what can become of that bracket.

* `element_inside`: what is read in a group does not depend on the groups around it.
* `behind_reach`: reading a text with a bracket behind it keeps step with reading the text.
* `parse_anchored_eq_ok_iff`: what the text with the anchor is read as.
* `anchorUnseen_iff`: the texts whose anchor changes nothing.
-/

namespace Excerpt.Regex

namespace State

/-! ## Inside other groups -/

/-- The same state inside other groups, the innermost one first. -/
def inside (s : State) (around : List Frame) : State := { s with frames := s.frames ++ around }

variable {s : State} {around : List Frame} {c : Char} {t : Text}

theorem groupName_inside :
    (s.inside around).groupName t = (s.groupName t).map fun p => (p.1.inside around, p.2) := by
  have hnames : (s.inside around).names = s.names := rfl
  rw [groupName_eq, groupName_eq, hnames]
  rcases upTo? '>' t with _ | ⟨name, rest⟩
  · rfl
  · dsimp only
    split_ifs <;> rfl

theorem flagGroup_inside :
    (s.inside around).flagGroup t = (s.flagGroup t).map fun p => (p.1.inside around, p.2) := by
  have hflags : (s.inside around).flags = s.flags := rfl
  rw [flagGroup, flagGroup, hflags]
  rcases flagLetters [] false false s.flags t with _ | ⟨flags, noLetters, terminator, rest⟩
  · rfl
  · dsimp only [bind, Except.bind]
    split_ifs <;> rfl

theorem group_inside :
    (s.inside around).group t = (s.group t).map fun p => (p.1.inside around, p.2) := by
  have hflags : (s.inside around).flags = s.flags := rfl
  unfold group
  rw [hflags]
  split
  case h_5 | h_6 => exact groupName_inside
  case h_7 => exact flagGroup_inside
  all_goals rfl

theorem repeat_inside (least : Nat) (most : Option Nat) :
    (s.inside around).repeat least most t =
      (s.repeat least most t).map fun p => (p.1.inside around, p.2) := by
  unfold State.repeat
  dsimp only [inside]
  split
  · rfl
  · rfl

/-- What is read in a group does not depend on the groups around it. -/
theorem element_inside (hc : c ≠ ')') :
    (s.inside around).element c t = (s.element c t).map fun p => (p.1.inside around, p.2) := by
  have hflags : (s.inside around).flags = s.flags := rfl
  unfold element
  rw [hflags]
  split
  case h_1 => exact group_inside
  case h_2 => exact absurd rfl hc
  case h_4 =>
    cases bracketClass s.flags t <;> rfl
  case h_5 | h_6 | h_7 => exact repeat_inside _ _
  case h_8 =>
    rcases bounds s.flags t with _ | ⟨⟨least, most⟩, rest⟩
    · rfl
    · exact repeat_inside least most
  case h_9 =>
    rcases escape s.flags t with _ | ⟨_ | _ | _, rest⟩ <;> rfl
  case h_10 => split_ifs <;> rfl
  all_goals rfl

theorem eq_unopenedGroup_of_closeGroup {fault : Fault} (h : s.closeGroup = .error fault) :
    fault = .unopenedGroup := by
  rw [closeGroup] at h
  split at h
  · exact (Except.error.inj h).symm
  · cases h

theorem closeGroup_inside {s' : State} (h : s.closeGroup = .ok s') :
    (s.inside around).closeGroup = .ok (s'.inside around) := by
  obtain ⟨flags, items, branches, frames, groups, names⟩ := s
  cases frames with
  | nil => cases h
  | cons frame frames =>
    cases h
    rfl

/-! ## The state behind a text -/

/-- Reads all elements of a text. -/
def reach : Nat → State → Text → Except Fault State
  | 0, s, _ => .ok s
  | fuel + 1, s, t =>
    match s.flags.skip t with
    | [] => .ok s
    | c :: rest => do
      let (s, rest) ← s.element c rest
      reach fuel s rest

theorem readAll_eq (fuel : Nat) (s : State) (t : Text) :
    readAll fuel s t = reach fuel s t >>= finish := by
  induction fuel generalizing s t with
  | zero => rfl
  | succ fuel ih =>
    rw [readAll, reach]
    cases s.flags.skip t with
    | nil => rfl
    | cons c rest =>
      dsimp only
      rcases s.element c rest with _ | ⟨s, rest⟩
      · rfl
      · exact ih s rest

/-- What a text leads to, whatever the fuel. -/
def Reaches (s : State) (t : Text) (r : Except Fault State) : Prop :=
  ∀ fuel, t.length < fuel → reach fuel s t = r

theorem Reaches.stop (hnext : s.flags.skip t = []) : Reaches s t (.ok s) := by
  intro fuel hfuel
  obtain ⟨fuel, rfl⟩ := Nat.exists_eq_succ_of_ne_zero (Nat.ne_zero_of_lt hfuel)
  rw [reach, hnext]

theorem Reaches.nil (s : State) : Reaches s [] (.ok s) :=
  .stop (List.suffix_nil.1 (skip_suffix s.flags []))

variable {s' : State} {rest rest' : Text} {r : Except Fault State}

theorem Reaches.fault {fault : Fault} (hnext : s.flags.skip t = c :: rest)
    (helement : s.element c rest = .error fault) : Reaches s t (.error fault) := by
  intro fuel hfuel
  obtain ⟨fuel, rfl⟩ := Nat.exists_eq_succ_of_ne_zero (Nat.ne_zero_of_lt hfuel)
  rw [reach, hnext]
  dsimp only
  rw [helement]
  rfl

theorem Reaches.step (hnext : s.flags.skip t = c :: rest)
    (helement : s.element c rest = .ok (s', rest')) (h : Reaches s' rest' r) : Reaches s t r := by
  intro fuel hfuel
  obtain ⟨fuel, rfl⟩ := Nat.exists_eq_succ_of_ne_zero (Nat.ne_zero_of_lt hfuel)
  have hlength := (hnext ▸ skip_suffix s.flags t).length_le
  have hbehind := (element_suffix helement).length_le
  rw [List.length_cons] at hlength
  rw [reach, hnext]
  dsimp only
  rw [helement]
  exact h fuel (by omega)

/-- A closing bracket at the end closes a group. -/
theorem Reaches.close (hnext : s.flags.skip t = [')']) : Reaches s t s.closeGroup := by
  cases hclose : s.closeGroup with
  | error fault =>
    refine .fault hnext ?_
    rw [element_close, hclose]
    rfl
  | ok s' =>
    refine .step hnext ?_ (.nil s')
    rw [element_close, hclose]
    rfl

/-! ## A closing bracket behind a text -/

/-- What becomes of a text that leads from the state `s` to `r` when a closing bracket stands behind
it, as in `t'`. -/
inductive Behind (s : State) (t' : Text) : Except Fault State → Prop where
  /-- A comment hides the bracket. -/
  | hidden {s' : State} (h : ∀ around, Reaches (s.inside around) t' (.ok (s'.inside around))) :
    Behind s t' (.ok s')
  | closes {s' : State} (h : ∀ around, Reaches (s.inside around) t' (s'.inside around).closeGroup) :
    Behind s t' (.ok s')
  /-- A bracket in the text closes a group around it. -/
  | unopened : Behind s t' (.error .unopenedGroup)
  /-- The groups around the text stay open. -/
  | fault {fault : Fault}
    (h : ∀ around, (∃ fault', Reaches (s.inside around) t' (.error fault')) ∨
      ∃ s', Reaches (s.inside around) t' (.ok (inside s' around))) :
    Behind s t' (.error fault)

theorem Behind.step {t' : Text} (hnext : s.flags.skip t' = c :: rest)
    (helement : ∀ around, (s.inside around).element c rest = .ok (s'.inside around, rest'))
    (h : Behind s' rest' r) : Behind s t' r := by
  have hinside : ∀ around, (s.inside around).flags.skip t' = c :: rest := fun _ => hnext
  cases h with
  | hidden h => exact .hidden fun around => .step (hinside around) (helement around) (h around)
  | closes h => exact .closes fun around => .step (hinside around) (helement around) (h around)
  | unopened => exact .unopened
  | fault h =>
    refine .fault fun around => ?_
    obtain ⟨fault', hfault⟩ | ⟨s₂, hreaches⟩ := h around
    · exact Or.inl ⟨fault', .step (hinside around) (helement around) hfault⟩
    · exact Or.inr ⟨s₂, .step (hinside around) (helement around) hreaches⟩

theorem behind_reach {fuel : Nat} {t' : Text} (h : Longer t t') (hfuel : t.length < fuel) :
    Behind s t' (reach fuel s t) := by
  induction fuel generalizing s t t' with
  | zero => exact absurd hfuel (Nat.not_lt_zero _)
  | succ fuel ih =>
    have hskip := h.skip s.flags
    have hsuffix := skip_suffix s.flags t
    rw [reach]
    cases hnext : s.flags.skip t with
    | nil =>
      rw [hnext] at hskip
      obtain hnext' | hnext' := Longer.nil_iff.1 hskip
      · exact .closes fun around => .close hnext'
      · exact .hidden fun around => .stop hnext'
    | cons c rest =>
      rw [hnext] at hskip hsuffix
      obtain ⟨rest', hnext', hrest⟩ := hskip.exists_of_cons
      have hlength := hsuffix.length_le
      rw [List.length_cons] at hlength
      have hshort : rest.length < fuel := by omega
      dsimp only
      by_cases hc : c = ')'
      · subst hc
        rw [element_close]
        cases hclose : s.closeGroup with
        | error fault =>
          rw [eq_unopenedGroup_of_closeGroup hclose]
          exact .unopened
        | ok s₁ =>
          refine .step hnext' (fun around => ?_) (ih hrest hshort)
          rw [element_close, closeGroup_inside hclose]
          rfl
      · have hinside : ∀ around, (s.inside around).element c rest' = _ := fun _ => element_inside hc
        obtain hsame | ⟨⟨fault, hfault⟩, s₁, behind, hflags, ⟨inside, rfl, hstray⟩, helement⟩ :=
          s.element_alike hc hrest
        · generalize s.element c rest = x at hsame ⊢
          generalize s.element c rest' = y at hsame hinside
          cases hsame with
          | read hbehind hlonger =>
            exact .step hnext' hinside
              (ih hlonger (Nat.lt_of_le_of_lt hbehind.length_le hshort))
          | @cut s₁ =>
            exact .fault fun around => Or.inr ⟨s₁, .step hnext' (hinside around) (.nil _)⟩
          | fault => exact .fault fun around => Or.inl ⟨_, .fault hnext' (hinside around)⟩
        · rw [hfault]
          rw [helement] at hinside
          refine .fault fun around => Or.inl ⟨.badCount, .step hnext' (hinside around) ?_⟩
          have hbrace : (s₁.inside around).flags.skip ('\x7b' :: inside) = '\x7b' :: inside := by
            rw [Flags.skip]
            split <;> rfl
          refine .fault hbrace (element_strayBrace _ ?_)
          rw [← hflags] at hstray
          exact hstray

/-! ## Inside the anchor -/

/-- The group of the anchor, before its closing bracket. -/
def anchorFrame : Frame := ⟨none, .none, [], [⟨some (.place .textStart), 0⟩]⟩

/-- The anchor and its opening bracket. -/
theorem readAll_anchored (p : Text) :
    readAll ((Pattern.anchored p).length + 1) (start .none) (Pattern.anchored p) =
      readAll (p.length + 4) ((start .none).inside [anchorFrame]) (p ++ [')']) := by
  have hlength : (Pattern.anchored p).length + 1 = p.length + 4 + 1 + 1 := by
    simp [Pattern.anchored]
  rw [hlength]
  rfl

theorem closeGroup_anchorFrame (h : s.frames = []) :
    (s.inside [anchorFrame]).closeGroup =
      .ok { s with
        flags := .none
        items := [⟨some s.body.expr, s.body.depth + 1⟩, ⟨some (.place .textStart), 0⟩]
        branches := []
        frames := [] } := by
  obtain ⟨flags, items, branches, frames, groups, names⟩ := s
  cases h
  rfl

theorem branches_anchored (e : Expr) : e.anchored.branches = [e.anchored] := by
  have hafter : ∀ e : Expr, (Expr.after (.place .textStart) e).branches =
      [Expr.after (.place .textStart) e] := by
    intro e
    unfold Expr.after
    split <;> rfl
  have hanchored : e.anchored = Expr.after (.place .textStart) (e.parts.foldr .after .empty) := by
    simp [Expr.anchored, Expr.sequence, Expr.parts]
  rw [hanchored, hafter]

theorem choices_anchored (e : Expr) : Expr.choices [e.anchored] = e.anchored := by
  have hbranches : [e.anchored].flatMap Expr.branches = [e.anchored] := by
    rw [List.flatMap_singleton, branches_anchored]
  rw [Expr.choices, hbranches]

theorem inside_nil (s : State) : s.inside [] = s := by
  rw [inside, List.append_nil]

theorem finish_of_nil (hframes : s.frames = []) :
    s.finish = if depthLimit < s.body.depth then .error .tooDeep else .ok s.body.expr := by
  rw [finish, hframes]
  rfl

theorem finish_of_cons {frame : Frame} {frames : List Frame}
    (hframes : s.frames = frame :: frames) :
    s.finish = .error .unclosedGroup := by
  rw [finish, hframes]
  rfl

/-- The expression of the anchor and a group, once all is read. -/
theorem finish_anchored (e : Expr) (depth : Nat) (hframes : s.frames = [])
    (hbranches : s.branches = [])
    (hitems : s.items = [⟨some e, depth + 1⟩, ⟨some (.place .textStart), 0⟩]) :
    s.finish = if depthLimit < depth + 2 then .error .tooDeep else .ok e.anchored := by
  have hbody : s.body = ⟨e.anchored, depth + 2⟩ := by
    rw [body, branch, hbranches, hitems]
    simp only [depthOfParts, List.reverse_cons, List.reverse_nil, List.nil_append, List.map_cons,
      List.map_nil, List.cons_append, List.filterMap_cons, List.filterMap_nil]
    exact congrArg₂ Branch.mk (choices_anchored e) (by simp)
  rw [finish_of_nil hframes, hbody]

theorem finish_inside_ne_ok (s : State) (frame : Frame) (e : Expr) :
    (s.inside [frame]).finish ≠ .ok e := by
  have hopen : (s.inside [frame]).frames.isEmpty = false := by
    simp [inside]
  simp [finish, hopen]

end State

/-- The number of levels of a pattern. -/
def levels (flags : Flags) (pattern : Text) : Except Fault Nat :=
  (State.reach (pattern.length + 1) (.start flags) pattern).map fun s => s.body.depth

open State in
/-- A pattern that closes no group around it can be read inside the anchor if it can be read as it
stands, does not hide the bracket behind it, and leaves two levels for the anchor. -/
theorem parse_anchored_eq_ok_iff {p : Text} {e' : Expr}
    (h : parse .none p ≠ .error .unopenedGroup) :
    parse .none (Pattern.anchored p) = .ok e' ↔
      ∃ e, parse .none p = .ok e ∧ e' = e.anchored ∧
        parse .none (p ++ [')']) = .error .unopenedGroup ∧
        ∃ n, levels .none p = .ok n ∧ n + 2 ≤ depthLimit := by
  have hinside : ∀ r, Reaches ((start .none).inside [anchorFrame]) (p ++ [')']) r →
      parse .none (Pattern.anchored p) = r >>= finish := by
    intro r hr
    rw [parse, readAll_anchored, readAll_eq, hr (p.length + 4) (by simp)]
  have hbare : ∀ r, Reaches ((start .none).inside []) (p ++ [')']) r →
      parse .none (p ++ [')']) = r >>= finish := by
    intro r hr
    have hstart : (start .none).inside [] = start .none := rfl
    rw [parse, readAll_eq, ← hstart, hr _ (Nat.lt_succ_self _)]
  have hp : parse .none p = reach (p.length + 1) (start .none) p >>= finish := by
    rw [parse, readAll_eq]
  have hbehind : Behind (start .none) (p ++ [')']) (reach (p.length + 1) (start .none) p) :=
    behind_reach (Or.inl rfl) (Nat.lt_succ_self _)
  have hok : ∀ s : State, (.ok s : Except Fault State) >>= finish = s.finish := fun _ => rfl
  rw [levels]
  generalize reach (p.length + 1) (start .none) p = r at hbehind hp ⊢
  cases hbehind with
  | @hidden s hreaches =>
    rw [hinside _ (hreaches _), hbare _ (hreaches _), inside_nil]
    refine iff_of_false (finish_inside_ne_ok s _ e') ?_
    rintro ⟨e, he, -, hopened, -⟩
    rw [← hp, he] at hopened
    cases hopened
  | @closes s hreaches =>
    rw [hinside _ (hreaches _), hbare _ (hreaches _), inside_nil]
    cases hframes : s.frames with
    | nil =>
      have hclose : s.closeGroup = .error .unopenedGroup := by
        rw [closeGroup, hframes]
      rw [closeGroup_anchorFrame hframes, hclose, hp, hok s, finish_of_nil hframes, hok,
        finish_anchored s.body.expr s.body.depth rfl rfl rfl]
      constructor
      · intro he
        split at he
        · cases he
        · next hlevels =>
          exact ⟨s.body.expr, if_neg (by omega), (Except.ok.inj he).symm, rfl, s.body.depth, rfl,
            by omega⟩
      · rintro ⟨e, he, rfl, -, n, hn, hlevels⟩
        obtain rfl : s.body.depth = n := Except.ok.inj hn
        split at he
        · cases he
        · rw [if_neg (by omega), Except.ok.inj he]
    | cons frame frames =>
      obtain ⟨s', hclose⟩ : ∃ s', s.closeGroup = .ok s' := by
        rw [closeGroup, hframes]
        exact ⟨_, rfl⟩
      rw [closeGroup_inside hclose]
      refine iff_of_false (finish_inside_ne_ok s' _ e') ?_
      rintro ⟨e, he, -⟩
      rw [hp, hok, finish_of_cons hframes] at he
      cases he
  | unopened => exact absurd hp h
  | @fault fault hfault =>
    refine iff_of_false ?_ ?_
    · obtain ⟨fault', hreaches⟩ | ⟨s, hreaches⟩ := hfault [anchorFrame]
      · rw [hinside _ hreaches]
        exact nofun
      · rw [hinside _ hreaches]
        exact finish_inside_ne_ok s _ e'
    · rintro ⟨e, he, -⟩
      rw [hp] at he
      cases he

end Excerpt.Regex

namespace Excerpt.Pattern

open Regex

/-! ## Patterns -/

/-- The outcome at a cursor, given what was found in the text from there on. -/
def report (p : Pattern) (c : Cursor) (found : Option Found) : Outcome :=
  let front := found.map fun found =>
    let matched := c.rest.take found.length
    match p.group with
    | none | some 0 => (matched, matched)
    | some number => (matched, found.group c.rest number)
  match front with
  | some (matched, value) => .success (.leaf p.id matched c.offset (.string (String.ofList value)))
  | none => .fail p.id c.offset .unstated

theorem attempt_eq_report (p : Pattern) (c : Cursor) :
    p.attempt c = p.report c (p.program.matchFront? c.rest) :=
  rfl

/-- The outcome at a cursor of a search for the leftmost match in the text from there on, which
counts if it begins at the cursor. -/
def searchAttempt (p : Pattern) (c : Cursor) : Outcome :=
  p.report c (p.program.searchFront? c.rest)

theorem searchAttempt_eq_attempt (p : Pattern) (c : Cursor) : p.searchAttempt c = p.attempt c := by
  rw [searchAttempt, Program.searchFront?_eq_matchFront?, attempt_eq_report]

/-- The pattern with the value of a capture group, or with the whole match as its value. -/
def withGroup? (p : Pattern) : Option Nat → Except GrammarError Pattern
  | none => .ok p
  | some number => p.withGroup number

/-- The anchor that is written around a text changes nothing: the text with the anchor is a pattern
exactly if the text is one as it stands, and then both have the same outcomes at all cursors, for
each capture group. -/
def AnchorUnseen (source : String) : Prop :=
  ((∃ p, compile source = .ok p) ↔ ∃ q, compileBare .none source = .ok q) ∧
    ∀ p q, compile source = .ok p → compileBare .none source = .ok q →
      ∀ (group : Option Nat) (c : Cursor),
        (p.withGroup? group).map (fun p => p.searchAttempt c) =
          (q.withGroup? group).map fun q => q.searchAttempt c

/-- The pattern of an expression behind the anchor has the outcomes of the expression. -/
theorem withGroup?_anchored (source : String) (e : Expr) (group : Option Nat) (c : Cursor) :
    (withGroup? ⟨source, e.anchored.program, e.anchored.groupCount, none⟩ group).map
        (fun p => p.searchAttempt c) =
      (withGroup? ⟨source, e.program, e.groupCount, none⟩ group).map fun q =>
        q.searchAttempt c := by
  have hsame : ∀ group, searchAttempt ⟨source, e.anchored.program, e.groupCount, group⟩ c =
      searchAttempt ⟨source, e.program, e.groupCount, group⟩ c := by
    intro group
    rw [searchAttempt_eq_attempt, searchAttempt_eq_attempt, attempt_eq_report, attempt_eq_report,
      Expr.program_anchored, Program.matchFront?_behindStart]
    rfl
  rw [Expr.groupCount_anchored]
  cases group with
  | none => exact congrArg Except.ok (hsame none)
  | some number =>
    rw [withGroup?, withGroup?, withGroup, withGroup]
    dsimp only
    split
    · exact congrArg Except.ok (hsame (some number))
    · rfl

theorem exists_ofExpr_iff {source : String} {e : Expr} :
    (∃ p, ofExpr source e = .ok p) ↔ e.isTooLarge = false := by
  rw [ofExpr]
  cases e.isTooLarge with
  | false => exact iff_of_true ⟨_, rfl⟩ rfl
  | true => exact iff_of_false (fun ⟨_, h⟩ => nomatch h) nofun

theorem eq_of_ofExpr {source : String} {e : Expr} {p : Pattern} (h : ofExpr source e = .ok p) :
    p = ⟨source, e.program, e.groupCount, none⟩ := by
  rw [ofExpr] at h
  split at h
  · cases h
  · exact (Except.ok.inj h).symm

theorem exists_compile_iff {source : String} :
    (∃ p, compile source = .ok p) ↔
      ∃ e, parse .none (anchored source.toList) = .ok e ∧ e.isTooLarge = false := by
  rw [compile]
  cases parse .none (anchored source.toList) with
  | error f => exact iff_of_false (fun ⟨_, h⟩ => nomatch h) fun ⟨_, h, _⟩ => nomatch h
  | ok e => simp [exists_ofExpr_iff]

theorem exists_compileBare_iff {source : String} :
    (∃ q, compileBare .none source = .ok q) ↔
      ∃ e, parse .none source.toList = .ok e ∧ e.isTooLarge = false := by
  rw [compileBare]
  cases parse .none source.toList with
  | error f => exact iff_of_false (fun ⟨_, h⟩ => nomatch h) fun ⟨_, h, _⟩ => nomatch h
  | ok e => simp [exists_ofExpr_iff]

/-- A text that is a pattern both ways has the same outcomes both ways. -/
theorem outcomes_eq {source : String} {p q : Pattern} (hp : compile source = .ok p)
    (hq : compileBare .none source = .ok q) (group : Option Nat) (c : Cursor) :
    (p.withGroup? group).map (fun p => p.searchAttempt c) =
      (q.withGroup? group).map fun q => q.searchAttempt c := by
  rw [compileBare] at hq
  split at hq
  · next e he =>
    rw [compile] at hp
    split at hp
    · next e' he' =>
      obtain ⟨_, hsame, rfl, -⟩ := (parse_anchored_eq_ok_iff (by simp [he])).1 he'
      obtain rfl := Except.ok.inj (he.symm.trans hsame)
      rw [eq_of_ofExpr hp, eq_of_ofExpr hq]
      exact withGroup?_anchored source e group c
    · cases hp
  · cases hq

/-- When the anchor changes nothing.  Behind a text that can be read, the bracket must be seen, and
two levels and the room for the anchor must be left.  A text that closes a group around it must not
happen to close the group of the anchor and to leave another one open.  All other texts are no
pattern either way. -/
theorem anchorUnseen_iff (source : String) :
    AnchorUnseen source ↔
      match parse .none source.toList with
      | .ok e =>
        (parse .none (source.toList ++ [')']) = .error .unopenedGroup ∧
          (∃ n, levels .none source.toList = .ok n ∧ n + 2 ≤ depthLimit) ∧
          e.anchored.isTooLarge = false) ↔ e.isTooLarge = false
      | .error .unopenedGroup =>
        ∀ e, parse .none (anchored source.toList) = .ok e → e.isTooLarge = true
      | .error _ => True := by
  have hsame : AnchorUnseen source ↔
      ((∃ e, parse .none (anchored source.toList) = .ok e ∧ e.isTooLarge = false) ↔
        ∃ e, parse .none source.toList = .ok e ∧ e.isTooLarge = false) := by
    rw [AnchorUnseen, exists_compile_iff, exists_compileBare_iff]
    exact and_iff_left fun p q => outcomes_eq
  rw [hsame]
  split
  · next e he =>
    have hopened : parse .none source.toList ≠ .error .unopenedGroup := by simp [he]
    simp [parse_anchored_eq_ok_iff hopened, he, and_assoc]
  · next he => simp [he]
  · next fault hfault he =>
    have hopened : parse .none source.toList ≠ .error .unopenedGroup := by simpa [he] using hfault
    simp [parse_anchored_eq_ok_iff hopened, he]

/-- The comment of one text hides the bracket of the anchor; the other text closes the group of the
anchor itself, and leaves the bracket a group of its own to close. -/
theorem not_anchorUnseen_commentAndGroup :
    ¬ AnchorUnseen "(?x)a # c" ∧ ¬ AnchorUnseen "a)(b" := by
  have hcomment : ∃ e, parse .none "(?x)a # c".toList = .ok e ∧ e.isTooLarge = false :=
    ⟨_, rfl, by decide +kernel⟩
  have hcommentAnchored : parse .none (anchored "(?x)a # c".toList) = .error .unclosedGroup := rfl
  have hgroup : parse .none "a)(b".toList = .error .unopenedGroup := rfl
  have hgroupAnchored :
      ∃ e, parse .none (anchored "a)(b".toList) = .ok e ∧ e.isTooLarge = false :=
    ⟨_, rfl, by decide +kernel⟩
  constructor
  · intro h
    obtain ⟨e, he, -⟩ := exists_compile_iff.1 (h.1.2 (exists_compileBare_iff.2 hcomment))
    rw [hcommentAnchored] at he
    cases he
  · intro h
    obtain ⟨e, he, -⟩ := exists_compileBare_iff.1 (h.1.1 (exists_compile_iff.2 hgroupAnchored))
    rw [hgroup] at he
    cases he

end Excerpt.Pattern
