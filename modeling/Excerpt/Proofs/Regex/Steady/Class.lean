import Excerpt.Proofs.Regex.Steady.Escape
import Excerpt.Regex.BracketClass

/-!
# A closing bracket behind a class

Classes in square brackets are read alike whether or not a closing bracket follows
(`bracketClass_steady`).  A class that is not at its end has a fault in both texts, as the bracket
is one more member of it at most.
-/

namespace Excerpt.Regex

variable {t t' : Text} {f : Flags}

/-! ## Members -/

theorem leadingHyphens_alike {fuel fuel' : Nat} (c : OpenClass) (h : Longer t t')
    (hfuel : t.length ≤ fuel) (hfuel' : t'.length ≤ fuel') :
    Alike t (.ok (leadingHyphens f fuel c t)) (.ok (leadingHyphens f fuel' c t')) := by
  have hstop : ∀ fuel c t, (∀ x ∈ t.head?, (x == '-') = false) →
      leadingHyphens f fuel c t = (c, t) := by
    intro fuel c t ht
    rcases fuel with _ | fuel
    · rfl
    · rcases t with _ | ⟨x, rest⟩
      · rfl
      · have hx : x ≠ '-' := ne_of_beq_false (ht x rfl)
        simp [leadingHyphens, hx]
  have htake : ∀ fuel c x rest, (x == '-') = true →
      leadingHyphens f (fuel + 1) c (x :: rest) =
        leadingHyphens f fuel (c.add (.single '-') 0) (f.skip rest) := by
    intro fuel c x rest hx
    rw [eq_of_beq hx, leadingHyphens]
  exact @Longer.loop_alike OpenClass t t' OpenClass f (· == '-')
    (fun c _ => c.add (.single '-') 0) (fun _ c => c) (fun c => c) (leadingHyphens f) rfl hstop
    htake fuel fuel' c h hfuel hfuel'

/-- The front of a class behind its negation. -/
def classFront (f : Flags) (negated : Bool) (t : Text) : OpenClass × Text :=
  let (c, t) := leadingHyphens f t.length (.start negated) t
  match c.depths, t with
  | [], ']' :: rest => (c.add (.single ']') 0, f.skip rest)
  | _, t => (c, t)

theorem classFront_steady (f : Flags) (negated : Bool) :
    Steady fun t => (.ok (classFront f negated t) : Except Fault _) := by
  have heq : ∀ t, (.ok (classFront f negated t) : Except Fault _) =
      (.ok (leadingHyphens f t.length (.start negated) t) : Except Fault _) >>= fun p =>
        if p.1.depths = [] then
          onChar ']' (fun rest => .ok (p.1.add (.single ']') 0, f.skip rest))
            (fun t => .ok (p.1, t)) p.2
        else .ok (p.1, p.2) := by
    intro t
    rw [classFront]
    rcases leadingHyphens f t.length (.start negated) t with ⟨⟨n, l, m, _ | ⟨d, ds⟩⟩, _ | ⟨x, rest⟩⟩
    · rfl
    · by_cases hx : x = ']'
      · subst hx
        rfl
      · simp [onChar, hx, bind, Except.bind]
    · rfl
    · rfl
  intro t t' h
  dsimp only
  rw [heq, heq]
  refine (leadingHyphens_alike _ h (Nat.le_refl _) (Nat.le_refl _)).bind fun c => ?_
  have hbracket : Steady fun rest =>
      (.ok (c.add (.single ']') 0, f.skip rest) : Except Fault (OpenClass × Text)) :=
    Steady.skip (.ok _) f
  have hchar : ']' ≠ ')' := by decide
  show Steady fun rest => if c.depths = [] then
    Regex.onChar ']' (fun rest => .ok (c.add (.single ']') 0, f.skip rest))
      (fun t => .ok (c, t)) rest
    else .ok (c, rest)
  exact .ite (.onChar hchar hbracket (.ok c)) (.ok c)

theorem openClass_eq (f : Flags) (t : Text) :
    openClass f t = (fun p => classFront f p.1 p.2)
      (match f.skip t with
        | '^' :: rest => (true, f.skip rest)
        | _ => (false, f.skip t)) :=
  rfl

theorem openClass_steady (f : Flags) :
    Steady fun t => (.ok (openClass f t) : Except Fault _) := by
  have heq : ∀ t, (.ok (openClass f t) : Except Fault _) =
      onChar '^' (fun rest => .ok (classFront f true (f.skip rest)))
        (fun t => .ok (classFront f false t)) (f.skip t) := by
    intro t
    rw [openClass_eq]
    rcases f.skip t with _ | ⟨x, rest⟩
    · rfl
    · by_cases hx : x = '^'
      · subst hx
        rfl
      · simp [onChar, hx]
  rw [funext heq]
  exact Steady.skip (.onChar (by decide) (.skip (classFront_steady f true) f)
    (classFront_steady f false)) f

/-- An item of a class that begins with the character `x`. -/
def itemAt (f : Flags) (x : Char) (rest : Text) : Except Fault (Atom × Text) :=
  if x = '\\' then escape f rest else .ok (.char x, rest)

theorem classItem_eq (f : Flags) : classItem f = onNext .unclosedClass (itemAt f) := by
  funext t
  rcases t with _ | ⟨x, rest⟩
  · rfl
  · by_cases hx : x = '\\'
    · subst hx
      rfl
    · simp [classItem, onNext, itemAt, hx]

theorem itemAt_alike (f : Flags) (x : Char) (h : Longer t t') :
    Alike t (itemAt f x t) (itemAt f x t') ∨
      (∃ fault, itemAt f x t = .error fault) ∧
        ∃ rest, IsStrayBrace f rest ∧ itemAt f x t' = .ok (.place (.boundary f.wordSet), rest) := by
  rw [itemAt, itemAt]
  split
  · exact escape_alike f h
  · exact Or.inl (.read (List.suffix_refl _) h)

theorem classItem_alike (f : Flags) (h : Longer t t') :
    Alike t (classItem f t) (classItem f t') ∨
      (∃ fault, classItem f t = .error fault) ∧
        ∃ rest, IsStrayBrace f rest ∧
          classItem f t' = .ok (.place (.boundary f.wordSet), rest) := by
  rw [classItem_eq]
  cases t with
  | nil =>
    left
    obtain rfl | rfl := Longer.nil_iff.1 h
    · exact .cut
    · exact .fault
  | cons x rest =>
    obtain ⟨rest', rfl, hrest⟩ := h.exists_of_cons
    exact (itemAt_alike f x hrest).imp_left fun hsame => hsame.mono (List.suffix_cons x rest)

/-- Whether a hyphen comes next that makes a range. -/
def beginsRange (f : Flags) : Text → Bool
  | '-' :: after => f.peek after != some ']' && f.peek after != some '-'
  | _ => false

/-- The rest of a range, after its hyphen. -/
def rangeFrom (f : Flags) (first : Atom) (t : Text) : Except Fault (CharSet × Text) := do
  let (last, rest) ← classItem f t
  match first, last with
  | .char a, .char b => return (← rangeSet f a b, rest)
  | _, _ => throw .notInClass

/-- A member that is no range. -/
def loneMember (f : Flags) (first : Atom) (rest : Text) : Except Fault (CharSet × Text) :=
  match first with
  | .char c => do return (← rangeSet f c c, rest)
  | .set s => return (s, rest)
  | .place _ => throw .notInClass

theorem peekFree_append (signSeen : Bool) (t : Text) :
    Flags.peekFree signSeen (t ++ [')']) = (Flags.peekFree signSeen t).or (some ')') := by
  fun_induction Flags.peekFree signSeen t with
  | case1 signSeen => cases signSeen <;> rfl
  | case2 signSeen c rest hblank ih => simpa [Flags.peekFree, hblank] using ih
  | case3 signSeen c rest hblank hsign ih =>
    rw [List.cons_append, Flags.peekFree, if_neg hblank, if_pos hsign, ih]
  | case4 signSeen c rest hblank hsign =>
    rw [List.cons_append, Flags.peekFree, if_neg hblank, if_neg hsign, Option.some_or]

/-- A character is looked through only if it is white space or a number sign. -/
theorem eq_of_peekFree {c : Char} (h : Flags.peekFree false t = none) (hc : t.head? = some c) :
    Text.isBlank c = true ∨ c = '#' := by
  obtain ⟨rest, rfl⟩ := List.head?_eq_some_iff.1 hc
  by_contra hnone
  rw [not_or] at hnone
  simp [Flags.peekFree, hnone] at h

/-- What decides whether a hyphen makes a range is in the text already. -/
theorem peek_eq_iff (f : Flags) (h : Longer t t') {c : Char} (hc : c ≠ ')')
    (hblank : Text.isBlank c = false) (hsign : c ≠ '#') :
    f.peek t' = some c ↔ f.peek t = some c := by
  obtain rfl | ⟨rfl, rfl⟩ := h
  · have hhead : (t ++ [')']).head? = some c ↔ t.head? = some c := by
      cases t with
      | nil => simpa using Ne.symm hc
      | cons x rest => rfl
    have hfree : Flags.peekFree false t = none → t.head? ≠ some c := by
      intro hnone hc
      obtain hblank' | hsign' := eq_of_peekFree hnone hc
      · rw [hblank] at hblank'
        cases hblank'
      · exact hsign hsign'
    rw [Flags.peek, Flags.peek, peekFree_append]
    split
    · cases hpeek : Flags.peekFree false t with
      | none => simpa [Ne.symm hc] using hfree hpeek
      | some d => rfl
    · exact hhead
  · rfl

theorem beginsRange_eq (f : Flags) (h : Longer t t') : beginsRange f t' = beginsRange f t := by
  cases t with
  | nil => obtain rfl | rfl := Longer.nil_iff.1 h <;> rfl
  | cons x rest =>
    obtain ⟨rest', rfl, hrest⟩ := h.exists_of_cons
    by_cases hx : x = '-'
    · subst hx
      have hbracket := peek_eq_iff f hrest (show ']' ≠ ')' by decide) rfl (by decide)
      have hhyphen := peek_eq_iff f hrest (show '-' ≠ ')' by decide) rfl (by decide)
      simp only [beginsRange, bne, beq_eq_decide, hbracket, hhyphen]
    · simp [beginsRange, hx]

theorem rangeSet_steady (f : Flags) (first last : Char) :
    Steady fun rest => rangeSet f first last >>= fun s => .ok (s, rest) := by
  cases rangeSet f first last with
  | error fault => exact .error fault
  | ok s => exact .ok s

theorem rangeFrom_steady (f : Flags) (first : Atom) : Steady (rangeFrom f first) := by
  intro t t' h
  obtain hsame | ⟨⟨fault, hfault⟩, rest, -, hplace⟩ := classItem_alike f h
  · refine hsame.bind fun last => ?_
    rcases first with a | _ | _
    · rcases last with b | _ | _
      · exact rangeSet_steady f a b
      · exact .error .notInClass
      · exact .error .notInClass
    · exact .error .notInClass
    · exact .error .notInClass
  · rw [rangeFrom, rangeFrom, hfault, hplace]
    cases first <;> exact .fault

theorem loneMember_steady (f : Flags) (first : Atom) : Steady (loneMember f first) := by
  cases first with
  | char c => exact rangeSet_steady f c c
  | set s => exact .ok s
  | place p => exact .error .notInClass

/-- What is behind the first item of a member. -/
def memberRest (f : Flags) (first : Atom) (t : Text) : Except Fault (CharSet × Text) :=
  if beginsRange f t then rangeFrom f first (f.skip (t.drop 1)) else loneMember f first t

theorem memberRest_steady (f : Flags) (first : Atom) : Steady (memberRest f first) := by
  intro t t' h
  rw [memberRest, memberRest, beginsRange_eq f h]
  split
  · next hrange =>
    cases t with
    | nil => cases hrange
    | cons x rest =>
      obtain ⟨rest', rfl, hrest⟩ := h.exists_of_cons
      exact ((rangeFrom_steady f first).skip f hrest).mono (List.suffix_cons x rest)
  · exact loneMember_steady f first h

theorem classRange_cons (f : Flags) (x : Char) (rest : Text) :
    classRange f (x :: rest) = itemAt f x rest >>= fun p => memberRest f p.1 (f.skip p.2) := by
  have heq : classRange f (x :: rest) =
      classItem f (x :: rest) >>= fun p => memberRest f p.1 (f.skip p.2) := rfl
  rw [heq, classItem_eq, onNext]

theorem classRange_steady (f : Flags) (x : Char) : Steady fun rest => classRange f (x :: rest) := by
  intro t t' h
  dsimp only
  rw [classRange_cons, classRange_cons]
  obtain hsame | ⟨⟨fault, hfault⟩, rest, ⟨inside, rfl, -⟩, hplace⟩ := itemAt_alike f x h
  · exact hsame.bind fun first => (memberRest_steady f first).skip f
  · -- a place is no member
    have hbrace : f.skip ('\x7b' :: inside) = '\x7b' :: inside := by
      rw [Flags.skip]
      split <;> rfl
    rw [hfault, hplace]
    show Alike t (.error fault) (memberRest f _ (f.skip ('\x7b' :: inside)))
    rw [hbrace]
    exact .fault

/-! ## Named members -/

/-- The closing bracket behind a name. -/
def endOfName (name : Text) : Text → Option (Text × Text) :=
  onChar ']' (fun after => some (name, after)) fun _ => none

/-- A name up to a colon and a closing bracket. -/
def nameUpTo? (t : Text) : Option (Text × Text) :=
  (upTo? ':' t).bind fun p => endOfName p.1 p.2

theorem nameUpTo?_steady : SteadyIfAny nameUpTo? :=
  .bind (upTo?_steady (by decide)) fun name => .onChar (by decide) (.some name) .none

theorem nameUpTo?_eq (t : Text) :
    nameUpTo? t =
      match t.drop (t.takeWhile (· != ':')).length with
      | ':' :: ']' :: after => some (t.takeWhile (· != ':'), after)
      | _ => none := by
  have hcolon : ∀ c ∈ (t.drop (t.takeWhile (· != ':')).length).head?, c = ':' := by
    induction t with
    | nil => exact nofun
    | cons c rest ih =>
      rw [List.takeWhile_cons]
      split
      · exact ih
      · next hc =>
        intro d hd
        rw [← Option.some.inj hd]
        exact Decidable.of_not_not fun hne => hc (bne_iff_ne.2 hne)
  rw [nameUpTo?, upTo?]
  generalize t.drop (t.takeWhile (· != ':')).length = behind at hcolon ⊢
  rcases behind with _ | ⟨c, behind⟩
  · rfl
  · obtain rfl := hcolon c rfl
    rcases behind with _ | ⟨x, after⟩
    · rfl
    · by_cases hx : x = ']'
      · subst hx
        rfl
      · simp [endOfName, onChar, hx]

/-- The set of a class that is named between colons. -/
def setOfColonName (f : Flags) (negated : Bool) (p : Text × Text) :
    Option (Except Fault CharSet × Text) := do
  let s ← CharSet.named? (String.ofList p.1)
  let s := f.close s
  if !negated then return (.ok s, p.2)
  else if f.asciiOnly then return (.error .notText, p.2)
  else return (.ok s.complement, p.2)

theorem setOfColonName_steady (f : Flags) (negated : Bool) :
    SteadyIfAny fun t => (nameUpTo? t).bind (setOfColonName f negated) := by
  refine nameUpTo?_steady.bind fun name => ?_
  intro t t' h
  simp only [setOfColonName]
  cases CharSet.named? (String.ofList name) with
  | none => exact .none
  | some s =>
    simp only [Option.bind_eq_bind, Option.bind_some]
    split
    · exact .read (List.suffix_refl _) h
    · split <;> exact .read (List.suffix_refl _) h

theorem colonName?_eq :
    colonName? = onChar ':'
      (onChar '^' (fun rest => (nameUpTo? rest).map fun p => (true, p))
        fun rest => (nameUpTo? rest).map fun p => (false, p))
      fun _ => none := by
  have hname : ∀ (negated : Bool) (rest : Text),
      (match rest.drop (rest.takeWhile (· != ':')).length with
        | ':' :: ']' :: after => some (negated, rest.takeWhile (· != ':'), after)
        | _ => none) = (nameUpTo? rest).map fun p => (negated, p) := by
    intro negated rest
    rw [nameUpTo?_eq]
    split <;> rfl
  funext t
  rcases t with _ | ⟨c, rest⟩
  · rfl
  · by_cases hc : c = ':'
    · subst hc
      rcases rest with _ | ⟨x, rest⟩
      · rfl
      · by_cases hx : x = '^'
        · subst hx
          exact hname true rest
        · simp only [colonName?, onChar, List.cons.injEq, hx, false_and, imp_self, implies_true,
            if_false]
          exact hname false (x :: rest)
    · simp [colonName?, onChar, hc]

theorem bind_setOfColonName (f : Flags) (negated : Bool) (name : Option (Text × Text)) :
    ((name.map fun p => (negated, p)).bind fun (negated, name, after) => do
        let s ← CharSet.named? (String.ofList name)
        let s := f.close s
        if !negated then return (.ok s, after)
        else if f.asciiOnly then return (.error .notText, after)
        else return (.ok s.complement, after)) =
      name.bind (setOfColonName f negated) := by
  cases name <;> rfl

theorem namedClass?_eq (f : Flags) :
    namedClass? f = onChar ':'
      (onChar '^' (fun rest => (nameUpTo? rest).bind (setOfColonName f true))
        fun rest => (nameUpTo? rest).bind (setOfColonName f false))
      fun _ => none := by
  funext t
  rw [namedClass?, colonName?_eq]
  rcases t with _ | ⟨c, rest⟩
  · rfl
  · rw [onChar, onChar]
    split
    · rcases rest with _ | ⟨x, rest⟩
      · exact bind_setOfColonName f false (nameUpTo? [])
      · rw [onChar, onChar]
        split
        · exact bind_setOfColonName f true (nameUpTo? rest)
        · exact bind_setOfColonName f false (nameUpTo? (x :: rest))
    · rfl

theorem namedClass?_steady (f : Flags) : SteadyIfAny (namedClass? f) := by
  rw [namedClass?_eq]
  exact .onChar (by decide)
    (.onChar (by decide) (setOfColonName_steady f true) (setOfColonName_steady f false)) .none

/-! ## Whole classes -/

/-- The operator that is written as a character twice. -/
def SetOperator.twice? : Char → Option SetOperator
  | '&' => some .intersection
  | '-' => some .difference
  | '~' => some .symmetricDifference
  | _ => none

/-- An operator between members, and what is behind it. -/
def operator? : Text → Option (SetOperator × Text)
  | x :: y :: rest => if x = y then (SetOperator.twice? x).map (·, rest) else none
  | _ => none

theorem operator?_alike (x : Char) (h : Longer t t') :
    AlikeIfAny t (operator? (x :: t)) (operator? (x :: t')) := by
  cases t with
  | nil =>
    obtain rfl | rfl := Longer.nil_iff.1 h
    · have hnone : operator? [x, ')'] = none := by
        by_cases hx : x = ')'
        · subst hx
          rfl
        · rw [operator?, if_neg hx]
      rw [hnone]
      exact .none
    · exact .none
  | cons y rest =>
    obtain ⟨rest', rfl, hrest⟩ := h.exists_of_cons
    rw [operator?, operator?]
    split
    · cases SetOperator.twice? x with
      | none => exact .none
      | some op => exact .read (List.suffix_cons y rest) hrest
    · exact .none

/-- A class with its depth, apart from what is behind it. -/
def classApart (p : CharSet × Nat × Text) : (CharSet × Nat) × Text := ((p.1, p.2.1), p.2.2)

theorem classRest_nil (f : Flags) (fuel : Nat) (c : OpenClass) (outer : List OpenClass) :
    classRest f fuel c outer [] = .error .unclosedClass := by
  have hskip : f.skip [] = [] := List.suffix_nil.1 (skip_suffix f [])
  cases fuel with
  | zero => rfl
  | succ fuel => rw [classRest, hskip]

/-- What a class does with its next characters. -/
theorem classRest_cons (f : Flags) (fuel : Nat) (c : OpenClass) (outer : List OpenClass)
    (t : Text) (x : Char) (rest : Text) (hnext : f.skip t = x :: rest) :
    classRest f (fuel + 1) c outer t =
      if x = '[' then
        match namedClass? f rest with
        | some (s, rest) => s >>= fun s => classRest f fuel (c.add s 0) outer rest
        | none => classRest f fuel (openClass f rest).1 (c :: outer) (openClass f rest).2
      else if x = ']' then
        c.finish f >>= fun s =>
          match outer with
          | [] => .ok (s, c.depth + 1, rest)
          | around :: outer => classRest f fuel (around.add s (c.depth + 1)) outer rest
      else
        match operator? (x :: rest) with
        | some (op, rest) => classRest f fuel (c.operate f op) outer rest
        | none =>
          classRange f (x :: rest) >>= fun p => classRest f fuel (c.add p.1 0) outer p.2 := by
  rw [classRest, hnext]
  split
  · next heq => cases heq
  · next heq =>
    cases heq
    refine Eq.trans ?_ (if_pos rfl).symm
    cases namedClass? f rest <;> rfl
  · next heq =>
    cases heq
    rfl
  · next heq =>
    cases heq
    rfl
  · next heq =>
    cases heq
    rfl
  · next heq =>
    cases heq
    rfl
  · next hopen hclose hand hminus htilde =>
    have hnone : operator? (x :: rest) = none := by
      rcases rest with _ | ⟨y, rest⟩
      · rfl
      · rw [operator?]
        split
        · next hsame =>
          subst hsame
          rw [SetOperator.twice?.eq_def]
          split
          · exact (hand rest rfl).elim
          · exact (hminus rest rfl).elim
          · exact (htilde rest rfl).elim
          · rfl
        · rfl
    have hx : x ≠ '[' := fun hx => hopen rest (by rw [hx])
    have hx' : x ≠ ']' := fun hx => hclose rest (by rw [hx])
    rw [if_neg hx, if_neg hx', hnone]

/-- A class whose next member is what was missing has no end. -/
theorem classRest_of_fault {fuel : Nat} {c : OpenClass} {outer : List OpenClass} {fault : Fault}
    {member : Except Fault (CharSet × Text)} (h : Alike t (.error fault) member) :
    Alike t' (.error fault)
      ((member >>= fun p => classRest f fuel (c.add p.1 0) outer p.2).map classApart) := by
  cases h with
  | @cut a =>
    show Alike t' (.error fault) ((classRest f fuel (c.add a 0) outer []).map classApart)
    rw [classRest_nil]
    exact .fault
  | fault => exact .fault

/-- Where nothing is left of a text, it has no end of the class, and the closing bracket is one more
member of it at most. -/
theorem classRest_alike_nil {fuel fuel' : Nat} (c : OpenClass) (outer : List OpenClass)
    (hnext : f.skip t = []) (hlonger : Longer [] (f.skip t')) :
    Alike t ((classRest f (fuel + 1) c outer t).map classApart)
      ((classRest f (fuel' + 1) c outer t').map classApart) := by
  rw [classRest, hnext]
  obtain hnext' | hnext' := Longer.nil_iff.1 hlonger
  · have hmember : Alike t (.error .unclosedClass) (classRange f [')']) :=
      (classRange_steady f ')').alike_nil _
    have hclass : classRest f (fuel' + 1) c outer t' = classRange f [')'] >>= fun p =>
        classRest f fuel' (c.add p.1 0) outer p.2 :=
      classRest_cons f fuel' c outer t' ')' [] hnext'
    rw [hclass]
    exact classRest_of_fault hmember
  · rw [classRest, hnext']
    exact .fault

/-- What a class does with the same next character, it does alike, if it goes on alike behind it. -/
theorem classRest_alike_cons {fuel fuel' : Nat} (c : OpenClass) (outer : List OpenClass) {x : Char}
    {rest rest' : Text} (hnext : f.skip t = x :: rest) (hnext' : f.skip t' = x :: rest')
    (hrest : Longer rest rest')
    (hgo : ∀ (c : OpenClass) (outer : List OpenClass) {behind behind' : Text},
      behind <:+ rest → Longer behind behind' →
        Alike rest ((classRest f fuel c outer behind).map classApart)
          ((classRest f fuel' c outer behind').map classApart)) :
    Alike rest ((classRest f (fuel + 1) c outer t).map classApart)
      ((classRest f (fuel' + 1) c outer t').map classApart) := by
  rw [classRest_cons f fuel c outer t x rest hnext,
    classRest_cons f fuel' c outer t' x rest' hnext']
  split
  · have hnamed := namedClass?_steady f hrest
    generalize namedClass? f rest = named at hnamed ⊢
    generalize namedClass? f rest' = named' at hnamed ⊢
    cases hnamed with
    | @read s behind behind' hbehind hlonger =>
      cases s with
      | error _ => exact .fault
      | ok s => exact hgo _ _ hbehind hlonger
    | none =>
      have hopen := openClass_steady f hrest
      dsimp only at hopen ⊢
      generalize openClass f rest = inner at hopen ⊢
      generalize openClass f rest' = inner' at hopen ⊢
      obtain @⟨inner, behind, behind', hbehind, hlonger⟩ := hopen
      exact hgo _ _ hbehind hlonger
  · split
    · cases c.finish f with
      | error _ => exact .fault
      | ok s =>
        cases outer with
        | nil => exact .read (List.suffix_refl _) hrest
        | cons around outer => exact hgo _ _ (List.suffix_refl _) hrest
    · have hoperator := operator?_alike x hrest
      generalize operator? (x :: rest) = operator at hoperator ⊢
      generalize operator? (x :: rest') = operator' at hoperator ⊢
      cases hoperator with
      | read hbehind hlonger => exact hgo _ _ hbehind hlonger
      | none =>
        have hmember := classRange_steady f x hrest
        dsimp only at hmember ⊢
        generalize classRange f (x :: rest) = member at hmember ⊢
        generalize classRange f (x :: rest') = member' at hmember ⊢
        cases hmember with
        | read hbehind hlonger => exact hgo _ _ hbehind hlonger
        | cut => exact classRest_of_fault (t := rest) .cut
        | fault => exact .fault

/-- The rest of a class is read alike.  The induction is on the fuel, of which each character takes
some. -/
theorem classRest_alike {fuel fuel' : Nat} (c : OpenClass) (outer : List OpenClass)
    (h : Longer t t') (hfuel : t.length < fuel) (hfuel' : t'.length < fuel') :
    Alike t ((classRest f fuel c outer t).map classApart)
      ((classRest f fuel' c outer t').map classApart) := by
  induction fuel generalizing fuel' c outer t t' with
  | zero => exact absurd hfuel (Nat.not_lt_zero _)
  | succ fuel ih =>
    obtain ⟨fuel', rfl⟩ := Nat.exists_eq_succ_of_ne_zero (Nat.ne_zero_of_lt hfuel')
    have hskip := h.skip f
    have hsuffix := skip_suffix f t
    have hlength' := (skip_suffix f t').length_le
    cases hnext : f.skip t with
    | nil =>
      rw [hnext] at hskip
      exact classRest_alike_nil c outer hnext hskip
    | cons x rest =>
      rw [hnext] at hskip hsuffix
      obtain ⟨rest', hnext', hrest⟩ := hskip.exists_of_cons
      have hlength := hsuffix.length_le
      rw [hnext'] at hskip
      rw [hnext', List.length_cons] at hlength'
      rw [List.length_cons] at hlength
      refine (classRest_alike_cons c outer hnext hnext' hrest ?_).mono
        ((List.suffix_cons x rest).trans hsuffix)
      intro c outer behind behind' hbehind hlonger
      have hle := hbehind.length_le
      have hle' := hlonger.length_le
      have hsame := hskip.length_of_cons
      simp only [List.length_cons] at hsame
      exact (ih c outer hlonger (by omega) (by omega)).mono hbehind

theorem bracketClass_steady (f : Flags) : Steady fun t => (bracketClass f t).map classApart := by
  intro t t' h
  have hopen := openClass_steady f h
  have heq : ∀ t, bracketClass f t =
      classRest f ((openClass f t).2.length + 1) (openClass f t).1 [] (openClass f t).2 :=
    fun _ => rfl
  dsimp only at hopen ⊢
  rw [heq, heq]
  generalize openClass f t = inner at hopen ⊢
  generalize openClass f t' = inner' at hopen ⊢
  obtain @⟨inner, rest, rest', hrest, hlonger⟩ := hopen
  exact (classRest_alike inner [] hlonger (Nat.lt_succ_self _) (Nat.lt_succ_self _)).mono hrest

end Excerpt.Regex
