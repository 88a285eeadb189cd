import Excerpt.Regex.Fault
import Excerpt.Regex.Flags
import Mathlib.Data.List.Infix

/-!
# A closing bracket behind a pattern

What becomes of a pattern when a closing bracket is written behind it.  If the pattern ends in a
comment, it hides the bracket; else all that was read before is read again (`Longer`).

A reader is `Steady` if it finds in the longer text what it finds in the text, and leaves the longer
rest.  Where it has a fault in the text, it may have used up the longer text, or have a fault there
too (`Alike`).  Steady readers one after another are steady (`Steady.bind`), and so are readers that
look at the next character first (`Steady.onChar`, `Steady.onNext`) and loops that go on as long as
they like the next character (`Longer.loop_alike`).  `SteadyIfAny` is the same for readers that may
find nothing.
-/

namespace Excerpt.Regex

variable {α β : Type} {t t' : Text}

/-! ## The longer text -/

/-- The text with a closing bracket behind it, unless a comment that ends the text hides it. -/
def Longer (t t' : Text) : Prop := t' = t ++ [')'] ∨ t = [] ∧ t' = []

namespace Longer

theorem nil_iff : Longer [] t' ↔ t' = [')'] ∨ t' = [] := by
  simp [Longer]

theorem exists_of_cons {c : Char} (h : Longer (c :: t) t') : ∃ u, t' = c :: u ∧ Longer t u := by
  obtain rfl | ⟨hnil, -⟩ := h
  · exact ⟨t ++ [')'], rfl, Or.inl rfl⟩
  · cases hnil

theorem skipFree (inComment : Bool) (t : Text) :
    Longer (Flags.skipFree inComment t) (Flags.skipFree inComment (t ++ [')'])) := by
  fun_induction Flags.skipFree inComment t with
  | case1 inComment => cases inComment <;> simp [Flags.skipFree, Longer, Text.isBlank]
  | case2 c rest ih => exact ih
  | case3 c rest hblank ih => simpa [Flags.skipFree, hblank] using ih
  | case4 rest hblank ih => simpa [Flags.skipFree, hblank] using ih
  | case5 c rest hblank hsign => simp [Flags.skipFree, hblank, hsign, Longer]

theorem skip (f : Flags) (h : Longer t t') : Longer (f.skip t) (f.skip t') := by
  obtain rfl | ⟨rfl, rfl⟩ := h
  · rw [Flags.skip, Flags.skip]
    split
    · exact skipFree false t
    · exact Or.inl rfl
  · exact Or.inr ⟨by simp [Flags.skip, Flags.skipFree], by simp [Flags.skip, Flags.skipFree]⟩

theorem dropWhile {p : Char → Bool} (hp : p ')' = false) (h : Longer t t') :
    Longer (t.dropWhile p) (t'.dropWhile p) := by
  obtain rfl | ⟨rfl, rfl⟩ := h
  · induction t with
    | nil => exact Or.inl (by simp [hp])
    | cons c t ih =>
      rw [List.cons_append, List.dropWhile_cons, List.dropWhile_cons]
      split
      · exact ih
      · exact Or.inl rfl
  · exact Or.inr ⟨rfl, rfl⟩

theorem length_of_cons {c : Char} (h : Longer (c :: t) t') : t'.length = (c :: t).length + 1 := by
  obtain rfl | ⟨hnil, -⟩ := h
  · simp
  · cases hnil

theorem length_le (h : Longer t t') : t'.length ≤ t.length + 1 := by
  obtain rfl | ⟨rfl, rfl⟩ := h
  · simp
  · simp

end Longer

theorem skipFree_suffix (inComment : Bool) (t : Text) : Flags.skipFree inComment t <:+ t := by
  fun_induction Flags.skipFree inComment t with
  | case1 => exact List.suffix_refl _
  | case2 c rest ih => exact ih.trans (List.suffix_cons c rest)
  | case3 c rest _ ih => exact ih.trans (List.suffix_cons c rest)
  | case4 rest _ ih => exact ih.trans (List.suffix_cons _ rest)
  | case5 => exact List.suffix_refl _

theorem skip_suffix (f : Flags) (t : Text) : f.skip t <:+ t := by
  rw [Flags.skip]
  split
  · exact skipFree_suffix false t
  · exact List.suffix_refl t

/-! ## Steady readers -/

/-- What is read from a text `t`, and what is read from the longer one. -/
inductive Alike (t : Text) : Except Fault (α × Text) → Except Fault (α × Text) → Prop where
  | read {a : α} {rest rest' : Text} (hrest : rest <:+ t) (h : Longer rest rest') :
    Alike t (.ok (a, rest)) (.ok (a, rest'))
  /-- The bracket is what was missing. -/
  | cut {a : α} {fault : Fault} : Alike t (.error fault) (.ok (a, []))
  | fault {fault fault' : Fault} : Alike t (.error fault) (.error fault')

/-- A reader that reads the same from the longer text. -/
def Steady (r : Text → Except Fault (α × Text)) : Prop :=
  ∀ ⦃t t' : Text⦄, Longer t t' → Alike t (r t) (r t')

theorem Alike.mono {x y : Except Fault (α × Text)} {rest : Text} (h : Alike rest x y)
    (hrest : rest <:+ t) : Alike t x y := by
  cases h with
  | read hsuffix hlonger => exact .read (hsuffix.trans hrest) hlonger
  | cut => exact .cut
  | fault => exact .fault

/-- A reader that has nothing left to read leaves nothing. -/
theorem Steady.alike_nil {r : Text → Except Fault (α × Text)} (hr : Steady r) (fault : Fault) :
    Alike t (.error fault) (r []) := by
  have hnil : Alike [] (r []) (r []) := hr (Or.inr ⟨rfl, rfl⟩)
  cases hx : r [] with
  | error _ => exact .fault
  | ok result =>
    rw [hx] at hnil
    obtain ⟨b, rest⟩ := result
    cases hnil with
    | read hrest _ =>
      rw [List.suffix_nil.1 hrest]
      exact .cut

theorem Alike.bind {x y : Except Fault (α × Text)} {k : α × Text → Except Fault (β × Text)}
    (h : Alike t x y) (hk : ∀ a, Steady fun rest => k (a, rest)) : Alike t (x >>= k) (y >>= k) := by
  cases h with
  | read hrest hlonger => exact (hk _ hlonger).mono hrest
  | cut => exact (hk _).alike_nil _
  | fault => exact .fault

/-- Reads on behind a character if it comes next; `other` reads all else. -/
def onChar (c : Char) (behind other : Text → β) : Text → β
  | [] => other []
  | x :: rest => if x = c then behind rest else other (x :: rest)

/-- Whichever way two readings are alike, a look at the next character keeps it. -/
theorem Longer.onChar {R : Text → β → β → Prop} {c : Char} {r other : Text → β}
    (hmono : ∀ {t rest x y}, R rest x y → rest <:+ t → R t x y) (hc : c ≠ ')')
    (hr : ∀ {t t'}, Longer t t' → R t (r t) (r t'))
    (hother : ∀ {t t'}, Longer t t' → R t (other t) (other t')) (h : Longer t t') :
    R t (Regex.onChar c r other t) (Regex.onChar c r other t') := by
  cases t with
  | nil =>
    have hnil : Regex.onChar c r other t' = other t' := by
      obtain rfl | rfl := Longer.nil_iff.1 h
      · exact if_neg (Ne.symm hc)
      · rfl
    rw [hnil]
    exact hother h
  | cons x rest =>
    obtain ⟨rest', rfl, hrest⟩ := h.exists_of_cons
    rw [Regex.onChar, Regex.onChar]
    split
    · exact hmono (hr hrest) (List.suffix_cons x rest)
    · exact hother h

/-- Reads on with the next character; there must be one. -/
def onNext (ended : Fault) (behind : Char → Text → Except Fault (β × Text)) :
    Text → Except Fault (β × Text)
  | [] => .error ended
  | c :: rest => behind c rest

theorem Longer.onNext {ended : Fault} {behind later : Char → Text → Except Fault (β × Text)}
    (h : Longer t t') (hnil : ∀ fault, Alike t (.error fault) (later ')' []))
    (hcons : ∀ c rest rest', c :: rest = t → c :: rest' = t' → Longer rest rest' →
      Alike rest (behind c rest) (later c rest')) :
    Alike t (onNext ended behind t) (onNext ended later t') := by
  cases t with
  | nil =>
    obtain rfl | rfl := Longer.nil_iff.1 h
    · exact hnil ended
    · exact .fault
  | cons c rest =>
    obtain ⟨rest', rfl, hrest⟩ := h.exists_of_cons
    exact (hcons c rest rest' rfl rfl hrest).mono (List.suffix_cons c rest)

namespace Steady

variable {r other : Text → Except Fault (α × Text)}

theorem ok (a : α) : Steady fun rest => .ok (a, rest) :=
  fun _ _ h => .read (List.suffix_refl _) h

theorem error (fault : Fault) : Steady fun _ => (.error fault : Except Fault (α × Text)) :=
  fun _ _ _ => .fault

theorem bind {k : α × Text → Except Fault (β × Text)} (hr : Steady r)
    (hk : ∀ a, Steady fun rest => k (a, rest)) : Steady fun t => r t >>= k :=
  fun _ _ h => (hr h).bind hk

theorem ite {p : Prop} [Decidable p] (hr : Steady r) (hother : Steady other) :
    Steady fun t => if p then r t else other t := by
  intro t t' h
  dsimp only
  split
  · exact hr h
  · exact hother h

theorem skip (hr : Steady r) (f : Flags) : Steady fun t => r (f.skip t) :=
  fun _ _ h => (hr (h.skip f)).mono (skip_suffix f _)

theorem onChar {c : Char} (hc : c ≠ ')') (hr : Steady r) (hother : Steady other) :
    Steady (Regex.onChar c r other) :=
  fun _ _ h => h.onChar Alike.mono hc (fun h => hr h) fun h => hother h

theorem onNext {ended : Fault} {behind : Char → Text → Except Fault (β × Text)}
    (hbehind : ∀ c, Steady (behind c)) : Steady (Regex.onNext ended behind) :=
  fun _ _ h => h.onNext (fun _ => (hbehind ')').alike_nil _) fun c _ _ _ _ hrest => hbehind c hrest

end Steady

/-- A reader that goes on as long as the next character is one that it takes, and skips what may be
free behind each.  Its fuel is at least the length of the text. -/
theorem Longer.loop_alike {σ : Type} {f : Flags} {takes : Char → Bool} {next : σ → Char → σ}
    {keep : Char → α → α} {stop : σ → α} {loop : Nat → σ → Text → α × Text}
    (hbracket : takes ')' = false)
    (hstop : ∀ fuel s t, (∀ c ∈ t.head?, takes c = false) → loop fuel s t = (stop s, t))
    (htake : ∀ fuel s c rest, takes c = true →
      loop (fuel + 1) s (c :: rest) =
        (fun p => (keep c p.1, p.2)) (loop fuel (next s c) (f.skip rest)))
    {fuel fuel' : Nat} (s : σ) (h : Longer t t') (hfuel : t.length ≤ fuel)
    (hfuel' : t'.length ≤ fuel') :
    Alike t (.ok (loop fuel s t)) (.ok (loop fuel' s t')) := by
  have hended : ∀ {t'}, Longer [] t' → ∀ c ∈ t'.head?, takes c = false := by
    intro t' h
    obtain rfl | rfl := nil_iff.1 h <;> simp [hbracket]
  induction fuel generalizing fuel' s t t' with
  | zero =>
    obtain rfl := List.eq_nil_of_length_eq_zero (Nat.le_zero.1 hfuel)
    rw [hstop 0 s [] nofun, hstop fuel' s t' (hended h)]
    exact .read (List.suffix_refl _) h
  | succ fuel ih =>
    cases t with
    | nil =>
      rw [hstop _ s [] nofun, hstop fuel' s t' (hended h)]
      exact .read (List.suffix_refl _) h
    | cons c rest =>
      obtain ⟨rest', rfl, hrest⟩ := h.exists_of_cons
      obtain ⟨fuel', rfl⟩ := Nat.exists_eq_succ_of_ne_zero (Nat.ne_zero_of_lt hfuel')
      cases hc : takes c with
      | false =>
        have hhead : ∀ rest : Text, ∀ d ∈ (c :: rest).head?, takes d = false := by
          intro rest d hd
          rw [← Option.some.inj hd, hc]
        rw [hstop _ s _ (hhead rest), hstop _ s _ (hhead rest')]
        exact .read (List.suffix_refl _) h
      | true =>
        have hlength := (skip_suffix f rest).length_le
        have hlength' := (skip_suffix f rest').length_le
        rw [List.length_cons] at hfuel hfuel'
        have hbehind := @ih _ _ fuel' (next s c) (hrest.skip f) (by omega) (by omega)
        rw [htake fuel s c rest hc, htake fuel' s c rest' hc]
        generalize loop fuel (next s c) (f.skip rest) = x at hbehind ⊢
        generalize loop fuel' (next s c) (f.skip rest') = y at hbehind ⊢
        obtain @⟨a, after, after', hafter, hlonger⟩ := hbehind
        exact .read ((hafter.trans (skip_suffix f rest)).trans (List.suffix_cons c rest)) hlonger

/-! ## Readers that may find nothing -/

/-- What may be read from a text, and what may be read from the longer one. -/
inductive AlikeIfAny (t : Text) : Option (α × Text) → Option (α × Text) → Prop where
  | read {a : α} {rest rest' : Text} (hrest : rest <:+ t) (h : Longer rest rest') :
    AlikeIfAny t (some (a, rest)) (some (a, rest'))
  | none : AlikeIfAny t none none

theorem AlikeIfAny.mono {x y : Option (α × Text)} {rest : Text} (h : AlikeIfAny rest x y)
    (hrest : rest <:+ t) : AlikeIfAny t x y := by
  cases h with
  | read hsuffix hlonger => exact .read (hsuffix.trans hrest) hlonger
  | none => exact .none

/-- A reader that finds the same in the longer text, or nothing in both. -/
def SteadyIfAny (r : Text → Option (α × Text)) : Prop :=
  ∀ ⦃t t' : Text⦄, Longer t t' → AlikeIfAny t (r t) (r t')

namespace SteadyIfAny

variable {r other : Text → Option (α × Text)}

theorem some (a : α) : SteadyIfAny fun rest => .some (a, rest) :=
  fun _ _ h => .read (List.suffix_refl _) h

theorem none : SteadyIfAny fun _ => (.none : Option (α × Text)) :=
  fun _ _ _ => .none

theorem bind {k : α × Text → Option (β × Text)} (hr : SteadyIfAny r)
    (hk : ∀ a, SteadyIfAny fun rest => k (a, rest)) : SteadyIfAny fun t => (r t).bind k := by
  intro t t' h
  have hfound := hr h
  dsimp only
  generalize r t = x at hfound ⊢
  generalize r t' = y at hfound ⊢
  cases hfound with
  | read hrest hlonger => exact (hk _ hlonger).mono hrest
  | none => exact .none

theorem onChar {c : Char} (hc : c ≠ ')') (hr : SteadyIfAny r) (hother : SteadyIfAny other) :
    SteadyIfAny (Regex.onChar c r other) :=
  fun _ _ h => h.onChar AlikeIfAny.mono hc (fun h => hr h) fun h => hother h

end SteadyIfAny

/-- The text up to a character, and the text behind that character. -/
def upTo? (stop : Char) (t : Text) : Option (Text × Text) :=
  match t.drop (t.takeWhile (· != stop)).length with
  | [] => none
  | _ :: rest => some (t.takeWhile (· != stop), rest)

theorem upTo?_stop (stop : Char) (rest : Text) : upTo? stop (stop :: rest) = some ([], rest) := by
  simp [upTo?]

theorem upTo?_cons {stop c : Char} (hc : c ≠ stop) (rest : Text) :
    upTo? stop (c :: rest) = (upTo? stop rest).map fun p => (c :: p.1, p.2) := by
  have htake : (c :: rest).takeWhile (· != stop) = c :: rest.takeWhile (· != stop) :=
    List.takeWhile_cons_of_pos (by simpa using hc)
  simp only [upTo?, htake, List.length_cons, List.drop_succ_cons]
  split <;> rfl

theorem upTo?_steady {stop : Char} (hstop : stop ≠ ')') : SteadyIfAny (upTo? stop) := by
  intro t t' h
  induction t generalizing t' with
  | nil =>
    obtain rfl | rfl := Longer.nil_iff.1 h
    · rw [upTo?_cons (Ne.symm hstop)]
      exact .none
    · exact .none
  | cons c rest ih =>
    obtain ⟨rest', rfl, hrest⟩ := h.exists_of_cons
    by_cases hc : c = stop
    · subst hc
      rw [upTo?_stop, upTo?_stop]
      exact .read (List.suffix_cons c rest) hrest
    · have hname := ih hrest
      rw [upTo?_cons hc, upTo?_cons hc]
      generalize upTo? stop rest = x at hname ⊢
      generalize upTo? stop rest' = y at hname ⊢
      cases hname with
      | read hsuffix hlonger => exact .read (hsuffix.trans (List.suffix_cons c rest)) hlonger
      | none => exact .none

end Excerpt.Regex
