import Excerpt.Proofs.Regex.Steady.Basic
import Excerpt.Regex.Escape

/-!
# A closing bracket behind an escape sequence

Escape sequences are read alike whether or not a closing bracket follows (`escape_alike`), but for
one.  What follows `\b` is a kind of word boundary if it begins like one in braces, so a brace at
the end of the text is a fault, and a brace before a closing bracket is not (`boundaryKind_alike`).
It is left to be read as a count then, and there is no number in it (`IsStrayBrace`).
-/

namespace Excerpt.Regex

variable {t t' : Text} {f : Flags}

theorem fixedHex_succ (f : Flags) (count n : Nat) :
    fixedHex f (count + 1) n = fun t =>
      onNext .danglingBackslash
        (fun c rest =>
          match Text.hexValue? c with
          | some d => fixedHex f count (16 * n + d) rest
          | none => .error .badCharacterNumber)
        (f.skip t) := by
  funext t
  rw [fixedHex]
  cases f.skip t <;> rfl

theorem fixedHex_steady (f : Flags) (count n : Nat) : Steady (fixedHex f count n) := by
  induction count generalizing n with
  | zero =>
    cases hc : charOfNumber n with
    | error fault =>
      have heq : fixedHex f 0 n = fun _ => .error fault := by
        funext t
        rw [fixedHex, hc]
        rfl
      rw [heq]
      exact .error fault
    | ok c =>
      have heq : fixedHex f 0 n = fun t => .ok (c, f.skip t) := by
        funext t
        rw [fixedHex, hc]
        rfl
      rw [heq]
      exact Steady.skip (.ok c) f
  | succ count ih =>
    rw [fixedHex_succ]
    refine Steady.skip (.onNext fun c => ?_) f
    cases Text.hexValue? c with
    | none => exact .error _
    | some d => exact ih _

theorem bracedHex_succ (f : Flags) (fuel : Nat) (n : Option Nat) (t : Text) :
    bracedHex f (fuel + 1) n t =
      onNext .danglingBackslash
        (fun c rest =>
          if c = '\x7d' then
            match n with
            | some n => do return (← charOfNumber n, f.skip rest)
            | none => .error .badCharacterNumber
          else
            match Text.hexValue? c with
            | some d => bracedHex f fuel (some (16 * n.getD 0 + d)) rest
            | none => .error .badCharacterNumber)
        (f.skip t) := by
  rw [bracedHex]
  cases f.skip t <;> rfl

theorem bracedHex_alike {fuel fuel' : Nat} (n : Option Nat) (h : Longer t t')
    (hfuel : t.length < fuel) (hfuel' : t'.length < fuel') :
    Alike t (bracedHex f fuel n t) (bracedHex f fuel' n t') := by
  induction fuel generalizing fuel' n t t' with
  | zero => exact absurd hfuel (Nat.not_lt_zero _)
  | succ fuel ih =>
    obtain ⟨fuel', rfl⟩ := Nat.exists_eq_succ_of_ne_zero (Nat.ne_zero_of_lt hfuel')
    have hlength := (skip_suffix f t).length_le
    have hlength' := (skip_suffix f t').length_le
    rw [bracedHex_succ, bracedHex_succ]
    refine ((h.skip f).onNext (fun _ => .fault) fun c rest rest' hc hc' hrest => ?_).mono
      (skip_suffix f t)
    rw [← hc, List.length_cons] at hlength
    rw [← hc', List.length_cons] at hlength'
    split
    · cases n with
      | none => exact .fault
      | some n =>
        dsimp only
        cases charOfNumber n with
        | error _ => exact .fault
        | ok a => exact .read (skip_suffix f rest) (hrest.skip f)
    · cases Text.hexValue? c with
      | none => exact .fault
      | some d => exact ih _ hrest (by omega) (by omega)

/-- A character number in braces. -/
theorem bracedHex_steady (f : Flags) :
    Steady fun rest => bracedHex f (rest.length + 1) none rest :=
  fun _ _ h => bracedHex_alike none h (Nat.lt_succ_self _) (Nat.lt_succ_self _)

theorem characterNumber_eq (f : Flags) (digits : Nat) (t : Text) :
    characterNumber f digits t =
      onChar '\x7b' (fun rest => bracedHex f (rest.length + 1) none rest) (fixedHex f digits 0)
        (f.skip t) := by
  rw [characterNumber]
  rcases f.skip t with _ | ⟨c, rest⟩
  · rfl
  · by_cases hc : c = '\x7b'
    · subst hc
      rfl
    · simp [onChar, hc]

theorem characterNumber_steady (f : Flags) (digits : Nat) : Steady (characterNumber f digits) := by
  rw [funext (characterNumber_eq f digits)]
  exact Steady.skip (.onChar (by decide) (bracedHex_steady f) (fixedHex_steady f digits 0)) f

theorem byteNumber_steady (f : Flags) : Steady (byteNumber f) := by
  intro t t' h
  have hbrace : ((f.skip t').head? != some '\x7b') = ((f.skip t).head? != some '\x7b') := by
    have hskip := h.skip f
    cases hnext : f.skip t with
    | nil =>
      rw [hnext] at hskip
      obtain hnext' | hnext' := Longer.nil_iff.1 hskip
      · rw [hnext']
        rfl
      · rw [hnext']
    | cons c rest =>
      rw [hnext] at hskip
      obtain ⟨rest', hnext', -⟩ := hskip.exists_of_cons
      rw [hnext']
      rfl
  rw [byteNumber, byteNumber, hbrace]
  exact (characterNumber_steady f 2 h).bind fun c => .ite (.error .notText) (.ok c)

theorem className_succ (f : Flags) (fuel : Nat) (t : Text) :
    className f (fuel + 1) t =
      onNext .danglingBackslash
        (fun c rest =>
          if c = '\x7d' then .ok ([], rest)
          else do
            let (name, rest) ← className f fuel rest
            return (c :: name, rest))
        (f.skip t) := by
  rw [className]
  cases f.skip t <;> rfl

theorem className_alike {fuel fuel' : Nat} (h : Longer t t') (hfuel : t.length < fuel)
    (hfuel' : t'.length < fuel') : Alike t (className f fuel t) (className f fuel' t') := by
  induction fuel generalizing fuel' t t' with
  | zero => exact absurd hfuel (Nat.not_lt_zero _)
  | succ fuel ih =>
    obtain ⟨fuel', rfl⟩ := Nat.exists_eq_succ_of_ne_zero (Nat.ne_zero_of_lt hfuel')
    have hnil : className f fuel' [] = .error .danglingBackslash := by
      cases fuel' with
      | zero => rfl
      | succ fuel' => rw [className_succ]; simp [Flags.skip, Flags.skipFree, onNext]
    have hlength := (skip_suffix f t).length_le
    have hlength' := (skip_suffix f t').length_le
    rw [className_succ, className_succ]
    refine ((h.skip f).onNext (fun _ => ?_) fun c rest rest' hc hc' hrest => ?_).mono
      (skip_suffix f t)
    · rw [hnil]
      exact .fault
    · rw [← hc, List.length_cons] at hlength
      rw [← hc', List.length_cons] at hlength'
      split
      · exact .read (List.suffix_refl _) hrest
      · exact (ih hrest (by omega) (by omega)).bind fun name => .ok _

/-- The name of a class: one letter, or what stands in braces. -/
def classNameOf (f : Flags) : Text → Except Fault (Text × Text) :=
  onNext .danglingBackslash fun c rest =>
    if c = '\x7b' then className f (rest.length + 1) rest
    else if c = '\\' then .error .unknownClass
    else .ok ([c], rest)

theorem classNameOf_steady (f : Flags) : Steady (classNameOf f) :=
  .onNext fun _ =>
    .ite (fun _ _ h => className_alike h (Nat.lt_succ_self _) (Nat.lt_succ_self _))
      (.ite (.error _) (.ok _))

theorem namedClass_eq (f : Flags) (negated : Bool) (t : Text) :
    namedClass f negated t = (do
      let (name, rest) ← classNameOf f (f.skip t)
      if f.asciiOnly then throw .unknownClass
      match setOfName? name with
      | some (s, unequal) =>
        let s := f.close s
        return (if negated != unequal then s.complement else s, rest)
      | none => throw .unknownClass) := by
  rw [namedClass, classNameOf]
  rcases f.skip t with _ | ⟨c, rest⟩
  · rfl
  · by_cases hbrace : c = '\x7b'
    · subst hbrace
      rfl
    · by_cases hbackslash : c = '\\'
      · subst hbackslash
        rfl
      · simp only [onNext, hbrace, hbackslash, if_false]
        rfl

theorem namedClass_steady (f : Flags) (negated : Bool) : Steady (namedClass f negated) := by
  rw [funext (namedClass_eq f negated)]
  refine Steady.bind ((classNameOf_steady f).skip f) fun name => .ite (.error _) ?_
  dsimp only
  cases setOfName? name with
  | none => exact .error _
  | some found => exact .ok _

/-! ## Boundaries -/

theorem boundaryName_alike {fuel fuel' : Nat} (h : Longer t t') (hfuel : t.length ≤ fuel)
    (hfuel' : t'.length ≤ fuel') :
    Alike t (.ok (boundaryName f fuel t)) (.ok (boundaryName f fuel' t')) := by
  have hstop : ∀ fuel t, (∀ c ∈ t.head?, isBoundaryChar c = false) →
      boundaryName f fuel t = ([], t) := by
    intro fuel t ht
    rcases fuel with _ | fuel
    · rfl
    · rcases t with _ | ⟨c, rest⟩
      · rfl
      · rw [boundaryName, ht c rfl]
        rfl
  have htake : ∀ fuel c rest, isBoundaryChar c = true →
      boundaryName f (fuel + 1) (c :: rest) =
        (fun p => (c :: p.1, p.2)) (boundaryName f fuel (f.skip rest)) := by
    intro fuel c rest hc
    rw [boundaryName, if_pos hc]
  exact @Longer.loop_alike Text t t' Unit f isBoundaryChar (fun _ _ => ()) List.cons (fun _ => [])
    (fun fuel _ => boundaryName f fuel) rfl (fun fuel _ => hstop fuel) (fun fuel _ => htake fuel)
    fuel fuel' () h hfuel hfuel'

/-- The place of a word boundary with a kind, at its closing brace. -/
def namedBoundary (f : Flags) (name : Text) : Text → Except Fault (Place × Text) :=
  onChar '\x7d'
    (fun after =>
      match String.ofList name with
      | "start" => .ok (.wordStart f.wordSet, after)
      | "end" => .ok (.wordEnd f.wordSet, after)
      | "start-half" => .ok (.wordStartHalf f.wordSet, after)
      | "end-half" => .ok (.wordEndHalf f.wordSet, after)
      | _ => .error .badBoundary)
    fun _ => .error .badBoundary

theorem namedBoundary_steady (f : Flags) (name : Text) : Steady (namedBoundary f name) := by
  refine .onChar (by decide) (fun t t' h => ?_) (.error _)
  split
  all_goals first | exact .read (List.suffix_refl _) h | exact .fault

/-- A brace that a closing bracket follows, so that no name or count is in it. -/
def IsStrayBrace (f : Flags) (t : Text) : Prop := ∃ rest, t = '\x7b' :: rest ∧ f.skip rest = [')']

theorem boundaryKind_brace (f : Flags) (rest : Text) :
    boundaryKind f ('\x7b' :: rest) =
      match f.skip rest with
      | [] => .error .badBoundary
      | c :: inside =>
        if isBoundaryChar c then
          (.ok (boundaryName f (c :: inside).length (c :: inside)) : Except Fault _) >>= fun p =>
            namedBoundary f p.1 p.2
        else .ok (.boundary f.wordSet, '\x7b' :: rest) := by
  simp only [boundaryKind]
  rcases f.skip rest with _ | ⟨c, inside⟩
  · rfl
  · cases hc : isBoundaryChar c with
    | false => simp [hc]
    | true =>
      simp only [hc, Bool.not_true, Bool.false_eq_true, if_false, if_true]
      rcases boundaryName f (c :: inside).length (c :: inside) with ⟨name, _ | ⟨x, after⟩⟩
      · rfl
      · by_cases hx : x = '\x7d'
        · subst hx
          rfl
        · simp [namedBoundary, onChar, hx, bind, Except.bind]

theorem boundaryKind_of_not_brace {t : Text} (h : t.head? ≠ some '\x7b') :
    boundaryKind f t = .ok (.boundary f.wordSet, t) := by
  rcases t with _ | ⟨c, rest⟩
  · rfl
  · have hc : c ≠ '\x7b' := fun hc => h (congrArg some hc)
    simp [boundaryKind, hc]

theorem boundaryKind_alike (f : Flags) (h : Longer t t') :
    Alike t (boundaryKind f t) (boundaryKind f t') ∨
      (∃ fault, boundaryKind f t = .error fault) ∧ IsStrayBrace f t' ∧
        boundaryKind f t' = .ok (.boundary f.wordSet, t') := by
  cases t with
  | nil =>
    left
    obtain rfl | rfl := Longer.nil_iff.1 h <;> exact .read (List.suffix_refl _) h
  | cons c rest =>
    obtain ⟨rest', rfl, hrest⟩ := h.exists_of_cons
    by_cases hbrace : c = '\x7b'
    · subst hbrace
      have hskip := hrest.skip f
      have hsuffix := skip_suffix f rest
      rw [boundaryKind_brace, boundaryKind_brace]
      cases hnext : f.skip rest with
      | nil =>
        rw [hnext] at hskip
        obtain hnext' | hnext' := Longer.nil_iff.1 hskip
        · exact Or.inr ⟨⟨_, rfl⟩, ⟨rest', rfl, hnext'⟩, by rw [hnext']; rfl⟩
        · rw [hnext']
          exact Or.inl .fault
      | cons d inside =>
        left
        rw [hnext] at hskip hsuffix
        obtain ⟨inside', hnext', -⟩ := hskip.exists_of_cons
        rw [hnext'] at hskip ⊢
        dsimp only
        split
        · exact ((boundaryName_alike hskip (Nat.le_refl _) (Nat.le_refl _)).bind fun name =>
            namedBoundary_steady f name).mono (hsuffix.trans (List.suffix_cons _ rest))
        · exact .read (List.suffix_refl _) h
    · left
      have hother : ∀ rest, (c :: rest).head? ≠ some '\x7b' :=
        fun rest hc => hbrace (Option.some.inj hc)
      rw [boundaryKind_of_not_brace (hother rest), boundaryKind_of_not_brace (hother rest')]
      exact .read (List.suffix_refl _) h

/-! ## Whole escape sequences -/

theorem letterClass_steady (f : Flags) (letter : Char) :
    Steady fun rest => letterClass f letter >>= fun s => .ok (Atom.set s, rest) := by
  cases letterClass f letter with
  | error fault => exact .error fault
  | ok s => exact .ok (Atom.set s)

theorem escape_alike (f : Flags) (h : Longer t t') :
    Alike t (escape f t) (escape f t') ∨
      (∃ fault, escape f t = .error fault) ∧
        ∃ rest, IsStrayBrace f rest ∧ escape f t' = .ok (.place (.boundary f.wordSet), rest) := by
  cases t with
  | nil =>
    left
    obtain rfl | rfl := Longer.nil_iff.1 h
    · exact .cut
    · exact .fault
  | cons c rest =>
    obtain ⟨rest', rfl, hrest⟩ := h.exists_of_cons
    have hread : ∀ {x y : Except Fault (Atom × Text)}, Alike rest x y → Alike (c :: rest) x y :=
      fun hxy => hxy.mono (List.suffix_cons c rest)
    unfold escape
    dsimp only
    split
    · exact Or.inl .fault
    · split
      · exact Or.inl (.read (List.suffix_cons c rest) hrest)
      · split
        case h_1 =>
          exact Or.inl (hread ((byteNumber_steady f hrest).bind fun c => .ok (Atom.char c)))
        case h_2 =>
          exact Or.inl (hread ((characterNumber_steady f 4 hrest).bind fun c => .ok (Atom.char c)))
        case h_3 =>
          exact Or.inl (hread ((characterNumber_steady f 8 hrest).bind fun c => .ok (Atom.char c)))
        case h_4 | h_5 | h_6 | h_7 | h_8 | h_9 =>
          exact Or.inl (hread (letterClass_steady f _ hrest))
        case h_10 | h_11 =>
          exact Or.inl (hread ((namedClass_steady f _ hrest).bind fun s => .ok (Atom.set s)))
        case h_20 =>
          obtain hsame | ⟨⟨fault, hfault⟩, hstray, hkind⟩ := boundaryKind_alike f hrest
          · exact Or.inl (hread (hsame.bind fun p => .ok (Atom.place p)))
          · rw [hfault, hkind]
            exact Or.inr ⟨⟨fault, rfl⟩, rest', hstray, rfl⟩
        case h_24 => exact Or.inl .fault
        all_goals exact Or.inl (.read (List.suffix_cons _ rest) hrest)

end Excerpt.Regex
