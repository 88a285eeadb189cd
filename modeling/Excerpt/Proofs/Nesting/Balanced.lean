import Excerpt.Proofs.Preconditions
import Excerpt.Proofs.Text.FirstFront

/-!
# Balanced spans

What a matcher of balanced delimiters covers, and which content rules it may be given.

* `Content.Closes` : the text covered is the shortest one, of at least one character, that brings
  the depth back to zero.  `balanced_closes` says so for the content rules that come with the engine
  and those for hash comments.
* `balanced_safe_iff` : under the rules of any machine, a match is enclosed in its delimiters, and
  there is no outcome exactly at an opening delimiter that does not count.  The depth is at zero
  behind such a delimiter, so that the match is over with its first character and nothing is left to
  slice between two delimiters (`silent_slices_outOfRange`).
-/

namespace Excerpt

/-! ## The depth along a text -/

namespace NestingDepth

variable {σ τ : Type} {machine : ContentMachine σ} {d : Delimiters}

theorem run_cons (s : NestingDepth σ) (c : Char) (rest : List Char) :
    run machine d s (c :: rest) = run machine d (step machine d s c) rest :=
  rfl

/-- A balanced front is the first one behind which the depth is zero. -/
theorem balancedFront?_eq_some_iff {text front : Text} {s : NestingDepth σ} :
    balancedFront? machine d s text = some front ↔
      Text.IsFirstFront (step machine d) (fun s => s.depth = 0) s text front := by
  induction text generalizing front s with
  | nil =>
    refine iff_of_false ?_ Text.not_isFirstFront_nil
    intro h
    cases h
  | cons c rest ih =>
    rw [balancedFront?_cons, Text.isFirstFront_cons_iff]
    by_cases hzero : (step machine d s c).depth = 0
    · rw [if_pos hzero, Option.some.injEq]
      exact ⟨fun h => Or.inl ⟨hzero, h.symm⟩,
        fun h => (h.resolve_right fun h' => h'.1 hzero).2.symm⟩
    · rw [if_neg hzero, Option.map_eq_some_iff]
      constructor
      · rintro ⟨front', hfront', rfl⟩
        exact Or.inr ⟨hzero, front', rfl, ih.1 hfront'⟩
      · intro h
        obtain ⟨front', rfl, hfront'⟩ := (h.resolve_left fun h' => hzero h'.1).2
        exact ⟨front', ih.2 hfront', rfl⟩

/-- From a positive depth on, the depth stays positive as long as it is not zero. -/
theorem one_le_depth_run {text : Text} {s : NestingDepth σ} (hpos : 1 ≤ s.depth)
    (hfirst : ∀ front, front <+: text → front ≠ [] → (run machine d s front).depth ≠ 0) :
    1 ≤ (run machine d s text).depth := by
  induction text generalizing s with
  | nil => exact hpos
  | cons c rest ih =>
    have hne : (step machine d s c).depth ≠ 0 :=
      hfirst [c] (List.prefix_cons_inj c |>.2 List.nil_prefix) (List.cons_ne_nil c [])
    have hnext : 1 ≤ (step machine d s c).depth :=
      (step_depth_cases s c hpos).resolve_left fun h => hne h.1
    rw [run_cons]
    exact ih hnext fun front hfront _ =>
      hfirst (c :: front) (List.prefix_cons_inj c |>.2 hfront) (List.cons_ne_nil c front)

/-! ### Machines that answer alike -/

variable {other : ContentMachine τ} (image : σ → τ)

/-- If the states of one machine have images among those of another, which moves with them and
finds the same ones normal, then both count the same depth. -/
theorem step_image (hstep : ∀ s c, image (machine.step s c) = other.step (image s) c)
    (hnormal : ∀ s, other.isNormal (image s) = machine.isNormal s) (s : NestingDepth σ) (c : Char) :
    step other d ⟨image s.content, s.depth⟩ c =
      ⟨image (step machine d s c).content, (step machine d s c).depth⟩ := by
  simp only [step, ← hstep, hnormal]

theorem run_image (hstep : ∀ s c, image (machine.step s c) = other.step (image s) c)
    (hnormal : ∀ s, other.isNormal (image s) = machine.isNormal s) (s : NestingDepth σ)
    (text : List Char) :
    (run other d ⟨image s.content, s.depth⟩ text).depth = (run machine d s text).depth := by
  induction text generalizing s with
  | nil => rfl
  | cons c rest ih => rw [run_cons, run_cons, step_image image hstep hnormal, ih]

end NestingDepth

/-! ## Content rules -/

namespace Content

/-- The depth behind a text that is read from its start. -/
def depthAfter (content : Content) (d : Delimiters) (text : Text) : Int :=
  match content with
  | .cFamily => (NestingDepth.run Excerpt.cFamily d (.start Excerpt.cFamily) text).depth
  | .plain => (NestingDepth.run plainText d (.start plainText) text).depth
  | .custom _ isNormal =>
    (NestingDepth.run (historyMachine isNormal) d (.start (historyMachine isNormal)) text).depth

/-- Rules that are given as a machine count as the machine does. -/
theorem depthAfter_ofMachine {σ : Type} (name : String) (machine : ContentMachine σ)
    (d : Delimiters) (text : Text) :
    (ofMachine name machine).depthAfter d text =
      (NestingDepth.run machine d (.start machine) text).depth := by
  -- the state of the machine is what it makes of the characters read so far
  let image (read : List Char) : σ := read.foldr (fun c s => machine.step s c) machine.start
  let history := historyMachine fun read => machine.isNormal (image read)
  have hrun : (NestingDepth.run machine d ⟨image history.start, 0⟩ text).depth =
      (NestingDepth.run history d (.start history) text).depth :=
    @NestingDepth.run_image _ _ history d machine image (fun _ _ => rfl) (fun _ => rfl)
      (.start history) text
  exact hrun.symm

theorem countsOpener_ofMachine {σ : Type} (name : String) (machine : ContentMachine σ)
    (d : Delimiters) :
    (ofMachine name machine).countsOpener d =
      machine.isNormal (machine.step machine.start d.opener) :=
  rfl

/-- `front` is the shortest text at the front of `text`, of at least one character, at the end of
which all is closed, and inside of it something is always open. -/
structure Closes (content : Content) (d : Delimiters) (text front : Text) : Prop where
  isPrefix : front <+: text
  ne_nil : front ≠ []
  depth_eq : content.depthAfter d front = 0
  one_le_depth : ∀ shorter, shorter <+: front → shorter ≠ [] → shorter ≠ front →
    1 ≤ content.depthAfter d shorter

/-- There is a balanced front exactly if the depth comes back to zero. -/
theorem exists_balancedFront?_iff {content : Content} {d : Delimiters} {text : Text} :
    (∃ front, content.balancedFront? d text = some front) ↔
      ∃ front, front <+: text ∧ front ≠ [] ∧ content.depthAfter d front = 0 := by
  cases content with
  | cFamily | plain | custom _ _ =>
    simp only [balancedFront?, NestingDepth.balancedFront?_eq_some_iff]
    exact Text.exists_isFirstFront_iff

end Content

/-- Inside a balanced front that begins with an opening delimiter that counts, something is always
open. -/
theorem NestingDepth.one_le_depth_of_shorter {σ : Type} {machine : ContentMachine σ}
    {d : Delimiters} {rest front shorter : Text}
    (hopener : machine.isNormal (machine.step machine.start d.opener) = true)
    (h : balancedFront? machine d (start machine) (d.opener :: rest) = some front)
    (hshorter : shorter <+: front) (hne : shorter ≠ []) (hproper : shorter ≠ front) :
    1 ≤ (run machine d (start machine) shorter).depth := by
  have hfront := balancedFront?_eq_some_iff.1 h
  rcases List.prefix_cons_iff.1 (hshorter.trans hfront.isPrefix) with rfl | ⟨shorter', rfl, -⟩
  · exact absurd rfl hne
  · have hone : (step machine d (start machine) d.opener).depth = 1 := by
      rw [depth_step_opener, if_pos hopener]
    rw [run_cons]
    refine one_le_depth_run (Int.le_of_eq hone.symm) fun between hbetween _ hzero => ?_
    have hinside : d.opener :: between <+: d.opener :: shorter' :=
      List.prefix_cons_inj _ |>.2 hbetween
    have hsame : d.opener :: between = front :=
      hfront.first _ (hinside.trans hshorter) (List.cons_ne_nil _ _) hzero
    rw [hsame] at hinside
    exact hproper (hshorter.eq_of_length_le hinside.length_le)

namespace Content

theorem closes_of_balancedFront? {content : Content} {d : Delimiters} {rest front : Text}
    (hopener : content.countsOpener d = true)
    (h : content.balancedFront? d (d.opener :: rest) = some front) :
    content.Closes d (d.opener :: rest) front := by
  cases content with
  | cFamily =>
    obtain ⟨hstands, hne, hdepth, -⟩ := NestingDepth.balancedFront?_eq_some_iff.1 h
    exact ⟨hstands, hne, hdepth, fun _ => NestingDepth.one_le_depth_of_shorter hopener h⟩
  | plain =>
    obtain ⟨hstands, hne, hdepth, -⟩ := NestingDepth.balancedFront?_eq_some_iff.1 h
    exact ⟨hstands, hne, hdepth, fun _ => NestingDepth.one_le_depth_of_shorter rfl h⟩
  | custom name isNormal =>
    obtain ⟨hstands, hne, hdepth, -⟩ := NestingDepth.balancedFront?_eq_some_iff.1 h
    exact ⟨hstands, hne, hdepth, fun _ =>
      @NestingDepth.one_le_depth_of_shorter _ (historyMachine isNormal) d rest front _ hopener h⟩

end Content

/-! ## Minimal spans -/

/-- Balanced delimiters match exactly where the opening delimiter stands and the depth comes back
to zero.  The match is the shortest text that closes all it opens, it is enclosed in the two
delimiters, and its value is the text between them. -/
theorem balanced_closes {content : Content} (hcontent : content ∈ knownContents) (d : Delimiters)
    (rules : Rules) (c : Cursor) :
    ∃ o, (Matcher.balanced d content).matchIn rules c = some o ∧
      ((∃ found, o = .success found) ↔
        [d.opener] <+: c.rest ∧
          ∃ front, front <+: c.rest ∧ front ≠ [] ∧ content.depthAfter d front = 0) ∧
      ∀ found, o = .success found →
        content.Closes d c.rest found.matched ∧
          ∃ inner, found.matched = d.opener :: (inner ++ [d.closer]) ∧
            found.value = .string (String.ofList inner) := by
  have hopener := countsOpener_of_mem_knownContents hcontent d
  obtain ⟨o, hattempt, hencloses⟩ := exists_attemptBalanced hopener c
  refine ⟨o, ?_, ?_, ?_⟩
  · rw [Matcher.matchIn_eq_attempt, Matcher.attempt, hattempt]
  · have hmatch := @exists_attemptBalanced_success_iff d content c
    simp only [hattempt, Option.some.injEq, hopener, true_and] at hmatch
    rw [hmatch, Content.exists_balancedFront?_iff]
  · rintro found rfl
    refine ⟨?_, hencloses⟩
    obtain h | h | ⟨front, inner, ⟨rest, hrest⟩, hfront, h⟩ := attemptBalanced_cases hattempt <;>
      cases h
    rw [← hrest] at hfront ⊢
    exact Content.closes_of_balancedFront? hopener hfront

theorem balanced_closes_hashBlock :
    .ofMachine "hash" hashComments ∈ knownContents ∧
      ∃ found, (Matcher.balanced .block (.ofMachine "hash" hashComments)).matchIn []
          (.ofString "\x7b # \x7d\n é\x7d \x7d") = some (.success found) ∧
        found.matched = "\x7b # \x7d\n é\x7d".toList ∧
        ∃ inner, found.matched = '\x7b' :: (inner ++ ['\x7d']) ∧
          found.value = .string (String.ofList inner) := by
  have hmem : .ofMachine "hash" hashComments ∈ knownContents :=
    List.mem_cons_of_mem _ (List.mem_cons_of_mem _ (List.mem_singleton.2 rfl))
  obtain ⟨o, hmatch, -, hfound⟩ :=
    balanced_closes hmem .block [] (.ofString "\x7b # \x7d\n é\x7d \x7d")
  have hrun : o = .success (.leaf "Balanced[\x7b\x7d;hash]" "\x7b # \x7d\n é\x7d".toList 0
      (.string " # \x7d\n é")) := by
    rw [Matcher.matchIn_eq_attempt, Matcher.attempt] at hmatch
    exact Option.some.inj (hmatch.symm.trans rfl)
  subst hrun
  exact ⟨hmem, _, hmatch, rfl, (hfound _ rfl).2⟩

/-! ## Any content rules -/

/-- Under the rules of any machine, a matcher of balanced delimiters takes a slice that is out of
range, and so has no outcome, exactly where the opening delimiter stands and the machine does not
find it to be ordinary content at the start of a text.  Otherwise it fails or answers with a match
that is enclosed in the delimiters, and it matches if the depth comes back to zero. -/
theorem balanced_safe_iff {σ : Type} (name : String) (machine : ContentMachine σ) (d : Delimiters)
    (rules : Rules) (c : Cursor) :
    ((Matcher.balanced d (.ofMachine name machine)).matchIn rules c = none ↔
      [d.opener] <+: c.rest ∧
        machine.isNormal (machine.step machine.start d.opener) = false) ∧
    (∀ o, (Matcher.balanced d (.ofMachine name machine)).matchIn rules c = some o →
      o.Encloses d) ∧
    ((∃ found, (Matcher.balanced d (.ofMachine name machine)).matchIn rules c =
        some (.success found)) ↔
      [d.opener] <+: c.rest ∧
        machine.isNormal (machine.step machine.start d.opener) = true ∧
        ∃ front, front <+: c.rest ∧ front ≠ [] ∧
          (NestingDepth.run machine d (.start machine) front).depth = 0) := by
  have hmatch : (Matcher.balanced d (.ofMachine name machine)).matchIn rules c =
      attemptBalanced d (.ofMachine name machine) c := by
    rw [Matcher.matchIn_eq_attempt, Matcher.attempt]
  rw [hmatch]
  refine ⟨attemptBalanced_eq_none_iff, fun o => encloses_of_attemptBalanced, ?_⟩
  rw [exists_attemptBalanced_success_iff, Content.exists_balancedFront?_iff,
    Content.countsOpener_ofMachine]
  simp only [Content.depthAfter_ofMachine]

/-- No character is ordinary content. -/
def silent : ContentMachine Unit where
  start := ()
  step _ _ := ()
  isNormal _ := false

/-- The opening delimiter is the whole match, and the text between it and its last byte is out of
range. -/
theorem silent_slices_outOfRange :
    (Content.ofMachine "silent" silent).balancedFront? .block ['\x7b', '\x7d'] = some ['\x7b'] ∧
      Text.slice? ['\x7b'] 1 0 = none ∧
      (Matcher.balanced .block (.ofMachine "silent" silent)).matchIn [] (.ofString "\x7b\x7d") =
        none := by
  refine ⟨rfl, rfl, ?_⟩
  rw [Matcher.matchIn_eq_attempt, Matcher.attempt]
  exact attemptBalanced_eq_none_iff.2 ⟨⟨['\x7d'], rfl⟩, rfl⟩

end Excerpt
