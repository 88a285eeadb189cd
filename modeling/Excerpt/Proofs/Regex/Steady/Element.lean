import Excerpt.Proofs.Regex.Steady.Class
import Excerpt.Regex.Parser

/-!
# A closing bracket behind an element

The elements of a pattern are read alike whether or not a closing bracket follows
(`State.element_alike`), unless the element is a bracket itself.  The exception for the sign of a
word boundary and a brace stays; there is no count in that brace (`State.element_strayBrace`).
-/

namespace Excerpt.Regex

variable {t t' : Text} {f : Flags}

/-! ## Counts -/

theorem digitsFrom_alike {fuel fuel' : Nat} (value : Option Nat) (h : Longer t t')
    (hfuel : t.length ≤ fuel) (hfuel' : t'.length ≤ fuel') :
    Alike t (.ok (digitsFrom f fuel value t)) (.ok (digitsFrom f fuel' value t')) := by
  have hstop : ∀ fuel value t, (∀ c ∈ t.head?, c.isDigit = false) →
      digitsFrom f fuel value t = (value, t) := by
    intro fuel value t ht
    rcases fuel with _ | fuel
    · rfl
    · rcases t with _ | ⟨c, rest⟩
      · rfl
      · rw [digitsFrom, ht c rfl]
        rfl
  have htake : ∀ fuel value c rest, c.isDigit = true →
      digitsFrom f (fuel + 1) value (c :: rest) =
        digitsFrom f fuel (some (10 * value.getD 0 + (c.toNat - '0'.toNat))) (f.skip rest) := by
    intro fuel value c rest hc
    rw [digitsFrom, if_pos hc]
  exact @Longer.loop_alike (Option Nat) t t' (Option Nat) f Char.isDigit
    (fun value c => some (10 * value.getD 0 + (c.toNat - '0'.toNat))) (fun _ value => value)
    (fun value => value) (digitsFrom f) rfl hstop htake fuel fuel' value h hfuel hfuel'

theorem count_steady (f : Flags) : Steady fun t => (.ok (count f t) : Except Fault _) := by
  intro t t' h
  have hblank : Longer (t.dropWhile Text.isBlank) (t'.dropWhile Text.isBlank) := h.dropWhile rfl
  have hdigits := @digitsFrom_alike _ _ f _ _ none hblank (Nat.le_refl _) (Nat.le_refl _)
  unfold count
  dsimp only
  generalize digitsFrom f _ none (t.dropWhile Text.isBlank) = x at hdigits ⊢
  generalize digitsFrom f _ none (t'.dropWhile Text.isBlank) = y at hdigits ⊢
  obtain @⟨value, rest, rest', hrest, hlonger⟩ := hdigits
  have hbehind : Longer (rest.dropWhile Text.isBlank) (rest'.dropWhile Text.isBlank) :=
    hlonger.dropWhile rfl
  refine .read ?_ (hbehind.skip f)
  exact (skip_suffix _ _).trans ((List.dropWhile_suffix _).trans
    (hrest.trans (List.dropWhile_suffix _)))

/-- The bound of a repetition from which on it may not go. -/
def upperBound (f : Flags) (least : Nat) (t : Text) : Except Fault ((Nat × Option Nat) × Text) :=
  match count f t with
  | (some most, '\x7d' :: rest) =>
    if least ≤ most then .ok ((least, some most), rest) else .error .reversedCount
  | _ => .error .badCount

theorem upperBound_eq (f : Flags) (least : Nat) (t : Text) :
    upperBound f least t = (.ok (count f t) : Except Fault _) >>= fun p =>
      match p.1 with
      | some most =>
        onChar '\x7d'
          (fun rest =>
            if least ≤ most then .ok ((least, some most), rest) else .error .reversedCount)
          (fun _ => .error .badCount) p.2
      | none => .error .badCount := by
  rw [upperBound]
  rcases count f t with ⟨_ | most, _ | ⟨x, rest⟩⟩
  · rfl
  · rfl
  · rfl
  · by_cases hx : x = '\x7d'
    · subst hx
      rfl
    · simp [bind, Except.bind, onChar, hx]

theorem upperBound_steady (f : Flags) (least : Nat) : Steady (upperBound f least) := by
  rw [funext (upperBound_eq f least)]
  refine (count_steady f).bind fun value => ?_
  cases value with
  | none => exact .error _
  | some most =>
    exact .onChar (by decide) (.ite (.ok _) (.error _)) (.error _)

/-- Behind the comma, a count without an upper bound or with one. -/
theorem behindComma_eq (f : Flags) (least : Nat) (t : Text) :
    (match t with
      | '\x7d' :: rest => .ok ((least, none), rest)
      | rest => upperBound f least rest) =
      onChar '\x7d' (fun rest => .ok ((least, none), rest)) (upperBound f least) t := by
  rcases t with _ | ⟨y, rest⟩
  · rfl
  · by_cases hy : y = '\x7d'
    · subst hy
      rfl
    · simp [onChar, hy]

theorem bounds_eq (f : Flags) (t : Text) :
    bounds f t = (.ok (count f (f.skip t)) : Except Fault _) >>= fun p =>
      match p.1 with
      | some least =>
        onChar '\x7d' (fun rest => .ok ((least, some least), rest))
          (onChar ','
            (fun rest =>
              onChar '\x7d' (fun rest => .ok ((least, none), rest)) (upperBound f least)
                (f.skip rest))
            fun _ => .error .badCount)
          p.2
      | none => .error .badCount := by
  rw [bounds]
  rcases count f (f.skip t) with ⟨_ | least, _ | ⟨x, rest⟩⟩
  · rfl
  · rfl
  · rfl
  · by_cases hx : x = '\x7d'
    · subst hx
      rfl
    · by_cases hcomma : x = ','
      · subst hcomma
        exact behindComma_eq f least (f.skip rest)
      · simp [bind, Except.bind, onChar, hx, hcomma]

theorem bounds_steady (f : Flags) : Steady (bounds f) := by
  rw [funext (bounds_eq f)]
  refine Steady.bind ((count_steady f).skip f) fun value => ?_
  cases value with
  | none => exact .error _
  | some least =>
    exact .onChar (by decide) (.ok _) <| .onChar (by decide)
      (.skip (.onChar (by decide) (.ok _) (upperBound_steady f least)) f) (.error _)

/-! ## Groups -/

namespace State

theorem groupName_eq (s : State) (t : Text) :
    s.groupName t =
      match upTo? '>' t with
      | none => .error .badGroupName
      | some (name, rest) =>
        if name.isEmpty || !(isNameChar true (name.headD ' ') &&
            (name.drop 1).all (isNameChar false)) then .error .badGroupName
        else if s.names.contains name then .error .repeatedGroupName
        else .ok ({ s.openCapture with names := name :: s.names }, rest) := by
  simp only [groupName, upTo?]
  cases t.drop (t.takeWhile (· != '>')).length <;> rfl

theorem groupName_steady (s : State) : Steady s.groupName := by
  intro t t' h
  have hname := upTo?_steady (show '>' ≠ ')' by decide) h
  rw [groupName_eq, groupName_eq]
  generalize upTo? '>' t = x at hname ⊢
  generalize upTo? '>' t' = y at hname ⊢
  cases hname with
  | none => exact .fault
  | read hrest hlonger =>
    dsimp only
    split
    · exact .fault
    · split
      · exact .fault
      · exact .read hrest hlonger

/-- Flags with what ends them, apart from what is behind. -/
def flagsApart (p : Flags × Bool × Char × Text) : (Flags × Bool × Char) × Text :=
  ((p.1, p.2.1, p.2.2.1), p.2.2.2)

theorem flagLetters_steady (seen : Text) (negated dangling : Bool) (f : Flags) :
    Steady fun t => (flagLetters seen negated dangling f t).map flagsApart := by
  intro t t' h
  induction t generalizing seen negated dangling f t' with
  | nil =>
    obtain rfl | rfl := Longer.nil_iff.1 h
    · cases dangling with
      | true => exact .fault
      | false => exact .cut
    · exact .fault
  | cons c rest ih =>
    obtain ⟨rest', rfl, hrest⟩ := h.exists_of_cons
    have hgo : ∀ (seen : Text) (negated dangling : Bool) (f : Flags),
        Alike (c :: rest) ((flagLetters seen negated dangling f rest).map flagsApart)
          ((flagLetters seen negated dangling f rest').map flagsApart) :=
      fun seen negated dangling f =>
        (ih seen negated dangling f hrest).mono (List.suffix_cons c rest)
    dsimp only
    rw [flagLetters, flagLetters]
    split
    · split
      · exact .fault
      · exact .read (List.suffix_cons c rest) hrest
    · split
      · split
        · exact .fault
        · exact hgo seen true true f
      · cases f.set? (!negated) c with
        | none => exact .fault
        | some f =>
          dsimp only
          split
          · exact .fault
          · exact hgo (c :: seen) negated false f

/-- A group that sets flags, or flags that are set on their own. -/
def flagGroup (s : State) (t : Text) : Except Fault (State × Text) := do
  let (flags, noLetters, terminator, rest) ← flagLetters [] false false s.flags t
  if terminator = ':' then return (s.openGroup none flags, rest)
  else if noLetters then throw .nothingToRepeat
  else return ({ s with flags := flags, items := ⟨none, 0⟩ :: s.items }, rest)

/-- What the flags of a group come to. -/
def flagged (s : State) (p : Flags × Bool × Char) (rest : Text) : Except Fault (State × Text) :=
  if p.2.2 = ':' then .ok (s.openGroup none p.1, rest)
  else if p.2.1 then .error .nothingToRepeat
  else .ok ({ s with flags := p.1, items := ⟨none, 0⟩ :: s.items }, rest)

theorem flagged_steady (s : State) (p : Flags × Bool × Char) : Steady (s.flagged p) :=
  .ite (.ok _) (.ite (.error _) (.ok _))

theorem flagGroup_steady (s : State) : Steady s.flagGroup := by
  have heq : s.flagGroup = fun t =>
      (flagLetters [] false false s.flags t).map flagsApart >>= fun p => s.flagged p.1 p.2 := by
    funext t
    rw [flagGroup]
    cases flagLetters [] false false s.flags t <;> rfl
  rw [heq]
  exact (flagLetters_steady [] false false s.flags).bind s.flagged_steady

/-- A group with a name that is written with a letter in front, or one with flags. -/
def nameOrFlags (s : State) : Text → Except Fault (State × Text)
  | 'P' :: '<' :: rest => s.groupName rest
  | t => s.flagGroup t

theorem nameOrFlags_of_ne {c : Char} (hc : c ≠ 'P') (s : State) (rest : Text) :
    s.nameOrFlags (c :: rest) = s.flagGroup (c :: rest) := by
  simp [nameOrFlags, hc]

theorem nameOrFlags_letter {d : Char} (hd : d ≠ '<') (s : State) (rest : Text) :
    s.nameOrFlags ('P' :: d :: rest) = s.flagGroup ('P' :: d :: rest) := by
  simp [nameOrFlags, hd]

theorem nameOrFlags_steady (s : State) : Steady s.nameOrFlags := by
  intro t t' h
  rcases t with _ | ⟨c, rest⟩
  · obtain rfl | rfl := Longer.nil_iff.1 h <;> exact s.flagGroup_steady h
  · obtain ⟨rest', rfl, hrest⟩ := h.exists_of_cons
    by_cases hc : c = 'P'
    · subst hc
      rcases rest with _ | ⟨d, rest⟩
      · obtain rfl | rfl := Longer.nil_iff.1 hrest <;> exact s.flagGroup_steady h
      · obtain ⟨rest', rfl, hbehind⟩ := hrest.exists_of_cons
        by_cases hd : d = '<'
        · subst hd
          exact (s.groupName_steady hbehind).mono
            ((List.suffix_cons _ rest).trans (List.suffix_cons _ _))
        · rw [nameOrFlags_letter hd, nameOrFlags_letter hd]
          exact s.flagGroup_steady h
    · rw [nameOrFlags_of_ne hc, nameOrFlags_of_ne hc]
      exact s.flagGroup_steady h

/-- A group that begins with a question mark, behind it. -/
def special (s : State) : Text → Except Fault (State × Text) :=
  onChar '=' (fun _ => .error .lookAround) <| onChar '!' (fun _ => .error .lookAround) <|
    onChar '<'
      (onChar '=' (fun _ => .error .lookAround) <| onChar '!' (fun _ => .error .lookAround)
        s.groupName)
      s.nameOrFlags

theorem special_steady (s : State) : Steady s.special :=
  .onChar (by decide) (.error _) <| .onChar (by decide) (.error _) <| .onChar (by decide)
    (.onChar (by decide) (.error _) <| .onChar (by decide) (.error _) s.groupName_steady)
    s.nameOrFlags_steady

theorem group_eq (s : State) (t : Text) :
    s.group t = onChar '?' s.special (fun t => .ok (s.openCapture, t)) (s.flags.skip t) := by
  rw [group]
  rcases s.flags.skip t with _ | ⟨c, rest⟩
  · rfl
  · by_cases hc : c = '?'
    · subst hc
      rcases rest with _ | ⟨c, rest⟩
      · rfl
      · by_cases hequal : c = '='
        · subst hequal
          rfl
        · by_cases hnot : c = '!'
          · subst hnot
            rfl
          · by_cases hangle : c = '<'
            · subst hangle
              rcases rest with _ | ⟨d, rest⟩
              · rfl
              · by_cases hequal : d = '='
                · subst hequal
                  rfl
                · by_cases hnot : d = '!'
                  · subst hnot
                    rfl
                  · simp [onChar, special, hequal, hnot]
            · by_cases hletter : c = 'P'
              · subst hletter
                rcases rest with _ | ⟨d, rest⟩
                · rfl
                · by_cases hname : d = '<'
                  · subst hname
                    rfl
                  · simp [onChar, special, nameOrFlags, hname, flagGroup]
              · simp [onChar, special, hequal, hnot, hangle, nameOrFlags, hletter, flagGroup]
    · simp [onChar, hc]

theorem group_steady (s : State) : Steady s.group := by
  rw [funext s.group_eq]
  exact Steady.skip (.onChar (by decide) s.special_steady (.ok _)) s.flags

/-! ## Elements -/

theorem repeat_steady (s : State) (least : Nat) (most : Option Nat) :
    Steady (s.repeat least most) := by
  obtain ⟨flags, items, branches, frames, groups, names⟩ := s
  rcases items with _ | ⟨⟨_ | e, depth⟩, items⟩
  · exact .error .nothingToRepeat
  · exact .error .nothingToRepeat
  · have heq : State.repeat ⟨flags, ⟨some e, depth⟩ :: items, branches, frames, groups, names⟩
          least most =
        onChar '?'
          (fun rest => .ok (⟨flags,
            ⟨some (e.repeated least most flags.swapGreed), depth + 1⟩ :: items,
            branches, frames, groups, names⟩, rest))
          fun rest => .ok (⟨flags,
            ⟨some (e.repeated least most !flags.swapGreed), depth + 1⟩ :: items,
            branches, frames, groups, names⟩, rest) := by
      funext t
      rcases t with _ | ⟨c, rest⟩
      · rfl
      · by_cases hc : c = '?'
        · subst hc
          rfl
        · simp [State.repeat, onChar, hc]
    rw [heq]
    exact .onChar (by decide) (.ok _) (.ok _)

/-- An element is read from the longer text as from the text, unless it is a brace behind the sign
of a word boundary. -/
theorem element_alike (s : State) {c : Char} (hc : c ≠ ')') (h : Longer t t') :
    Alike t (s.element c t) (s.element c t') ∨
      (∃ fault, s.element c t = .error fault) ∧
        ∃ s' rest, s'.flags = s.flags ∧ IsStrayBrace s.flags rest ∧
          s.element c t' = .ok (s', rest) := by
  unfold element
  split
  case h_1 => exact Or.inl (s.group_steady h)
  case h_2 => exact absurd rfl hc
  case h_3 => exact Or.inl (.read (List.suffix_refl t) h)
  case h_4 =>
    have heq : ∀ t, (bracketClass s.flags t >>= fun p => .ok (s.push (.ofSet p.1) p.2.1, p.2.2)) =
        (bracketClass s.flags t).map classApart >>= fun p =>
          .ok (s.push (.ofSet p.1.1) p.1.2, p.2) := by
      intro t
      cases bracketClass s.flags t <;> rfl
    left
    show Alike t (bracketClass s.flags t >>= fun p => .ok (s.push (.ofSet p.1) p.2.1, p.2.2))
      (bracketClass s.flags t' >>= fun p => .ok (s.push (.ofSet p.1) p.2.1, p.2.2))
    rw [heq, heq]
    exact (bracketClass_steady s.flags h).bind fun p => .ok (s.push (.ofSet p.1) p.2)
  case h_5 | h_6 | h_7 => exact Or.inl (s.repeat_steady _ _ h)
  case h_8 =>
    left
    exact (bounds_steady s.flags h).bind fun bounds =>
      (s.repeat_steady bounds.1 bounds.2).skip s.flags
  case h_9 =>
    obtain hsame | ⟨⟨fault, hfault⟩, rest, hstray, hplace⟩ := escape_alike s.flags h
    · left
      refine hsame.bind fun atom => ?_
      cases atom with
      | char c => exact .ok _
      | set set => exact .ok _
      | place p => exact .ok _
    · rw [hfault, hplace]
      exact Or.inr ⟨⟨fault, rfl⟩, s.push (.place (.boundary s.flags.wordSet)) 0, rest, rfl, hstray,
        rfl⟩
  case h_10 =>
    left
    split
    · exact .fault
    · exact .read (List.suffix_refl t) h
  all_goals exact Or.inl (.read (List.suffix_refl t) h)

/-- There is no count in a brace that a closing bracket follows. -/
theorem element_strayBrace (s : State) (h : s.flags.skip t = [')']) :
    s.element '\x7b' t = .error .badCount := by
  have hbounds : bounds s.flags t = .error .badCount := by
    rw [bounds_eq, h]
    rfl
  show (bounds s.flags t >>= fun p => s.repeat p.1.1 p.1.2 (s.flags.skip p.2)) = _
  rw [hbounds]
  rfl

theorem element_close (s : State) : s.element ')' t = s.closeGroup.map fun s' => (s', t) := by
  show (s.closeGroup >>= fun s' => .ok (s', t)) = _
  cases s.closeGroup <;> rfl

/-- An element leaves what is behind it. -/
theorem element_suffix {s s' : State} {c : Char} {rest : Text}
    (h : s.element c t = .ok (s', rest)) : rest <:+ t := by
  by_cases hc : c = ')'
  · rw [hc, element_close] at h
    cases hclose : s.closeGroup with
    | error _ =>
      rw [hclose] at h
      cases h
    | ok _ =>
      rw [hclose] at h
      cases h
      exact List.suffix_refl t
  · obtain hsame | ⟨⟨fault, hfault⟩, -⟩ := s.element_alike hc (Or.inl rfl)
    · rw [h] at hsame
      generalize s.element c (t ++ [')']) = y at hsame
      cases hsame with
      | read hrest _ => exact hrest
    · rw [h] at hfault
      cases hfault

end State

end Excerpt.Regex
