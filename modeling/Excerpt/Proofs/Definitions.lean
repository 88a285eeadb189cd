import Excerpt.Definitions
import Excerpt.Proofs.Sequence.Splice
import Mathlib.Data.List.Forall2

/-!
# Compiling definitions

Definitions compile entry by entry, all inside one configuration, and are then a sequence if their
names pass the checks.  `Definitions.Compiles` says this without the recursion, and
`compile?_eq_ok_iff` that it is what `compile?` does.

Definitions can be put into others in two ways: `extend` makes their entries entries of the others,
and a nested entry makes them a sequence of its own.  `splice_or_nest` compares the two.
-/

namespace Excerpt

variable {config inherited : Config} {entries : List (Entry Definitions)} {entry : Entry Definitions}
  {step : Step Matcher} {steps : List (Step Matcher)} {names : List String} {name : String}

/-! ## Entries -/

/-- The step that an entry describes. -/
def Entry.compile? (config : Config) : Entry Definitions → Except ErrorKind (Step Matcher)
  | matcher name m => .ok (.take name m)
  | nested name definitions => (definitions.compile? config).map (Step.take name)
  | veto name accepts => .ok (.veto name accepts)
  | alter name value => .ok (.alter name value)

namespace Entry

theorem compile?_nested_eq_ok_iff {d : Definitions} :
    (nested name d).compile? config = .ok step ↔
      ∃ m, d.compile? config = .ok m ∧ step = .take name m := by
  rw [compile?]
  cases d.compile? config <;> simp [Except.map, eq_comm]

theorem name_of_compile? (h : entry.compile? config = .ok step) : step.name = entry.name := by
  cases entry with
  | nested name d =>
    obtain ⟨m, _, rfl⟩ := compile?_nested_eq_ok_iff.1 h
    rfl
  | matcher _ _ | veto _ _ | alter _ _ =>
    cases h
    rfl

/-- The entry looks only at fields under some names. -/
def ReadsOnly (names : List String) : Entry Definitions → Prop
  | matcher _ _ => True
  | nested _ _ => True
  | veto _ accepts => Excerpt.ReadsOnly names accepts
  | alter _ value => Excerpt.ReadsOnly names value

theorem readsOnly_of_compile? (h : entry.compile? config = .ok step)
    (hreads : entry.ReadsOnly names) : step.ReadsOnly names := by
  cases entry with
  | nested name d =>
    obtain ⟨m, _, rfl⟩ := compile?_nested_eq_ok_iff.1 h
    trivial
  | matcher _ _ | veto _ _ | alter _ _ =>
    cases h
    exact hreads

end Entry

theorem compileEntries?_cons :
    compileEntries? (entry :: entries) config =
      (entry.compile? config).bind fun step => (compileEntries? entries config).map (step :: ·) := by
  cases entry with
  | nested name definitions =>
    rw [compileEntries?, Entry.compile?]
    cases definitions.compile? config <;> rfl
  | matcher _ _ | veto _ _ | alter _ _ =>
    rw [compileEntries?]
    rfl

/-- Entries compile one by one. -/
theorem compileEntries?_eq_ok_iff :
    compileEntries? entries config = .ok steps ↔
      List.Forall₂ (fun entry step => entry.compile? config = .ok step) entries steps := by
  induction entries generalizing steps with
  | nil =>
    rw [compileEntries?, List.forall₂_nil_left_iff, Except.ok.injEq, eq_comm]
  | cons entry entries ih =>
    rw [compileEntries?_cons, List.forall₂_cons_left_iff]
    cases hentry : entry.compile? config with
    | error error => simp [Except.bind]
    | ok step =>
      cases hentries : compileEntries? entries config with
      | error error =>
        simp only [hentries, reduceCtorEq, false_iff] at ih
        simp [Except.bind, Except.map, ih]
      | ok rest =>
        simp only [hentries, Except.ok.injEq] at ih
        simp [Except.bind, Except.map, ← ih, eq_comm (a := steps)]

theorem map_name_of_compileEntries? (h : compileEntries? entries config = .ok steps) :
    steps.map Step.name = entries.map Entry.name := by
  have hsame : List.Forall₂ (fun step entry => step.name = entry.name) steps entries :=
    (compileEntries?_eq_ok_iff.1 h).flip.imp fun _ _ hstep => Entry.name_of_compile? hstep
  rw [← List.forall₂_eq_eq_eq, List.forall₂_map_left_iff, List.forall₂_map_right_iff]
  exact hsame

/-- Each step is that of an entry. -/
theorem exists_entry_of_compileEntries? (h : compileEntries? entries config = .ok steps)
    (hstep : step ∈ steps) : ∃ entry ∈ entries, entry.compile? config = .ok step := by
  obtain ⟨index, hindex, rfl⟩ := List.getElem_of_mem hstep
  have hcompiled := compileEntries?_eq_ok_iff.1 h
  have hentry : index < entries.length := hcompiled.length_eq ▸ hindex
  exact ⟨_, List.getElem_mem hentry, hcompiled.get hentry hindex⟩

/-- Entries compile together with further ones if both do. -/
theorem compileEntries?_append_eq_ok_iff {entries' : List (Entry Definitions)} :
    compileEntries? (entries ++ entries') config = .ok steps ↔
      ∃ front rest, compileEntries? entries config = .ok front ∧
        compileEntries? entries' config = .ok rest ∧ steps = front ++ rest := by
  simp only [compileEntries?_eq_ok_iff]
  constructor
  · intro h
    induction entries generalizing steps with
    | nil => exact ⟨[], steps, .nil, h, rfl⟩
    | cons entry entries ih =>
      obtain ⟨step, steps, hstep, hsteps, rfl⟩ := List.forall₂_cons_left_iff.1 h
      obtain ⟨front, rest, hfront, hrest, rfl⟩ := ih hsteps
      exact ⟨step :: front, rest, .cons hstep hfront, hrest, rfl⟩
  · rintro ⟨front, rest, hfront, hrest, rfl⟩
    exact List.rel_append hfront hrest

/-! ## Definitions -/

namespace Definitions

variable {d outer inner : Definitions} {front : List (Step Matcher)} {m : Matcher}

/-- The steps of definitions whose entries compile and whose names pass the checks. -/
structure Compiles (config : Config) (d : Definitions) (steps : List (Step Matcher)) : Prop where
  entries_eq : compileEntries? d.entries config = .ok steps
  valid : ∀ name ∈ d.names, validateStepName name = .ok ()
  nodup : d.names.Nodup

theorem Compiles.names_eq (h : d.Compiles config steps) : steps.map Step.name = d.names :=
  map_name_of_compileEntries? h.entries_eq

/-- Definitions compile to the sequence of their steps. -/
theorem compile?_eq_ok_iff :
    d.compile? inherited = .ok m ↔
      ∃ steps, d.Compiles (d.config.getD inherited) steps ∧
        m = .sequence (d.id.getD (Matcher.defaultSequenceId d.names)) steps
          (d.config.getD inherited) := by
  obtain ⟨id, entries, config⟩ := d
  rw [compile?]
  constructor
  · intro h
    cases hentries : compileEntries? entries (config.getD inherited) with
    | error error =>
      rw [hentries] at h
      cases h
    | ok steps =>
      rw [hentries] at h
      have hnames := map_name_of_compileEntries? hentries
      obtain ⟨hvalid, hnodup, rfl⟩ := Matcher.sequence?_eq_ok_iff.1 h
      rw [hnames] at hvalid hnodup ⊢
      exact ⟨steps, ⟨hentries, hvalid, hnodup⟩, rfl⟩
  · rintro ⟨steps, hcompiles, rfl⟩
    have hnames := hcompiles.names_eq
    simp only [hcompiles.entries_eq]
    rw [Matcher.sequence?_eq_ok_iff, hnames]
    exact ⟨hcompiles.valid, hcompiles.nodup, rfl⟩

/-- Definitions with other names compile together if both do. -/
theorem compiles_extend_iff (hdisjoint : outer.names.Disjoint inner.names) :
    (outer.extend inner).Compiles config steps ↔
      ∃ front rest, outer.Compiles config front ∧ inner.Compiles config rest ∧
        steps = front ++ rest := by
  have hnames : (outer.extend inner).names = outer.names ++ inner.names := List.map_append
  constructor
  · rintro ⟨hentries, hvalid, hnodup⟩
    obtain ⟨front, rest, hfront, hrest, rfl⟩ := compileEntries?_append_eq_ok_iff.1 hentries
    rw [hnames] at hvalid hnodup
    obtain ⟨hvalid, hvalid'⟩ := List.forall_mem_append.1 hvalid
    obtain ⟨hnodup, hnodup', _⟩ := List.nodup_append.1 hnodup
    exact ⟨front, rest, ⟨hfront, hvalid, hnodup⟩, ⟨hrest, hvalid', hnodup'⟩, rfl⟩
  · rintro ⟨front, rest, hfront, hrest, rfl⟩
    refine ⟨compileEntries?_append_eq_ok_iff.2 ⟨_, _, hfront.entries_eq, hrest.entries_eq, rfl⟩, ?_,
      ?_⟩
    · rw [hnames]
      exact List.forall_mem_append.2 ⟨hfront.valid, hrest.valid⟩
    · rw [hnames, List.nodup_append]
      refine ⟨hfront.nodup, hrest.nodup, ?_⟩
      rintro name hname _ hname' rfl
      exact hdisjoint hname hname'

/-- Definitions compile with a new entry behind them if both do. -/
theorem compiles_add_iff (hfresh : entry.name ∉ outer.names) :
    (outer.add entry).Compiles config steps ↔
      ∃ front step, outer.Compiles config front ∧ entry.compile? config = .ok step ∧
        validateStepName entry.name = .ok () ∧ steps = front ++ [step] := by
  have hdisjoint : outer.names.Disjoint (names ⟨none, [entry], none⟩) := by
    intro name hname hname'
    obtain rfl : name = entry.name := List.mem_singleton.1 hname'
    exact hfresh hname
  have hsingle : compileEntries? [entry] config = (entry.compile? config).map ([·]) := by
    rw [compileEntries?_cons]
    cases entry.compile? config <;> rfl
  show (outer.extend ⟨none, [entry], none⟩).Compiles config steps ↔ _
  rw [compiles_extend_iff hdisjoint]
  constructor
  · rintro ⟨front, rest, hfront, ⟨hentry, hvalid, _⟩, rfl⟩
    rw [hsingle] at hentry
    cases hstep : entry.compile? config with
    | error error =>
      rw [hstep] at hentry
      cases hentry
    | ok step =>
      rw [hstep] at hentry
      cases hentry
      exact ⟨front, step, hfront, rfl, hvalid _ (List.mem_singleton.2 rfl), rfl⟩
  · rintro ⟨front, step, hfront, hstep, hvalid, rfl⟩
    refine ⟨front, [step], hfront, ⟨?_, ?_, List.nodup_singleton _⟩, rfl⟩
    · rw [hsingle, hstep]
      rfl
    · intro name hname
      obtain rfl : name = entry.name := List.mem_singleton.1 hname
      exact hvalid

/-! ## Splicing and nesting -/

/-- The definitions look only at fields that they name themselves. -/
def ReadsOwn (d : Definitions) : Prop := ∀ entry ∈ d.entries, entry.ReadsOnly d.names

theorem Compiles.apart (hfront : outer.Compiles config front) (h : inner.Compiles config steps)
    (hdisjoint : outer.names.Disjoint inner.names) (hreads : inner.ReadsOwn) :
    StepsApart inner.names front steps where
  nodup_front := hfront.names_eq ▸ hfront.nodup
  nodup := h.names_eq ▸ h.nodup
  not_mem _ hname := hdisjoint (hfront.names_eq ▸ hname)
  mem _ hname := h.names_eq ▸ hname
  reads _ hstep := by
    obtain ⟨entry, hentry, hcompiled⟩ := exists_entry_of_compileEntries? h.entries_eq hstep
    exact Entry.readsOnly_of_compile? hcompiled (hreads entry hentry)

/-- Definitions compile with others nested in them if both do. -/
theorem compiles_add_nested_iff (hfresh : name ∉ outer.names) (hconfig : inner.config = none) :
    (outer.add (.nested name inner)).Compiles config steps ↔
      ∃ front rest, outer.Compiles config front ∧ inner.Compiles config rest ∧
        validateStepName name = .ok () ∧
        steps = front ++ [.take name (.sequence
          (inner.id.getD (Matcher.defaultSequenceId inner.names)) rest config)] := by
  have hinherits : inner.config.getD config = config := by rw [hconfig, Option.getD_none]
  rw [compiles_add_iff hfresh]
  constructor
  · rintro ⟨front, step, hfront, hstep, hvalid, rfl⟩
    obtain ⟨m, hm, rfl⟩ := Entry.compile?_nested_eq_ok_iff.1 hstep
    obtain ⟨rest, hrest, rfl⟩ := compile?_eq_ok_iff.1 hm
    rw [hinherits] at hrest ⊢
    exact ⟨front, rest, hfront, hrest, hvalid, rfl⟩
  · rintro ⟨front, rest, hfront, hrest, hvalid, rfl⟩
    refine ⟨front, _, hfront, Entry.compile?_nested_eq_ok_iff.2 ⟨_, ?_, rfl⟩, hvalid, rfl⟩
    rw [compile?_eq_ok_iff, hinherits]
    exact ⟨rest, hrest, rfl⟩

/-- Definitions may be spliced into others or nested in them.  If the others have other names, and
the definitions have no configuration of their own and look only at fields of their own, then both
compile together, and what they compile to matches together, with the same text.  The fields are the
same as well, but that nesting bundles those of the definitions under a name. -/
theorem splice_or_nest (hdisjoint : outer.names.Disjoint inner.names) (hfresh : name ∉ outer.names)
    (hconfig : inner.config = none) (hreads : inner.ReadsOwn) (inherited : Config) :
    (validateStepName name = .ok () →
      ((∃ spliced, (outer.extend inner).compile? inherited = .ok spliced) ↔
        ∃ nested, (outer.add (.nested name inner)).compile? inherited = .ok nested)) ∧
    ∀ spliced nested, (outer.extend inner).compile? inherited = .ok spliced →
      (outer.add (.nested name inner)).compile? inherited = .ok nested →
      ∀ rules c,
        (∀ m, spliced.matchIn rules c = some (.success m) →
          ∃ m', nested.matchIn rules c = some (.success m') ∧ m.Splices name m') ∧
        ∀ m', nested.matchIn rules c = some (.success m') →
          ∃ m, spliced.matchIn rules c = some (.success m) ∧ m.Splices name m' := by
  simp only [compile?_eq_ok_iff, compiles_extend_iff hdisjoint,
    compiles_add_nested_iff hfresh hconfig]
  refine ⟨fun hvalid => ⟨?_, ?_⟩, ?_⟩
  · rintro ⟨_, _, ⟨front, rest, hfront, hrest, rfl⟩, rfl⟩
    exact ⟨_, _, ⟨front, rest, hfront, hrest, hvalid, rfl⟩, rfl⟩
  · rintro ⟨_, _, ⟨front, rest, hfront, hrest, _, rfl⟩, rfl⟩
    exact ⟨_, _, ⟨front, rest, hfront, hrest, rfl⟩, rfl⟩
  · rintro _ _ ⟨_, ⟨front, rest, hfront, hrest, rfl⟩, rfl⟩
      ⟨_, ⟨front', rest', hfront', hrest', _, rfl⟩, rfl⟩ rules c
    -- The entries compile to the same steps in both.
    obtain rfl : front' = front :=
      Except.ok.inj (hfront'.entries_eq.symm.trans hfront.entries_eq)
    obtain rfl : rest' = rest := Except.ok.inj (hrest'.entries_eq.symm.trans hrest.entries_eq)
    exact Matcher.spliced_iff_nested (hfront.apart hrest hdisjoint hreads)
      (hfront.names_eq ▸ hfresh)

/-- A letter. -/
def firstLetter : Definitions := ⟨none, [.matcher "first" (.literal "x")], none⟩

/-- A letter that has to be there, though its matcher does not say so, and a copy of it. -/
def secondLetter : Definitions where
  id := none
  entries :=
    [.matcher "second" (.optional (.literal "y") none),
      .veto "there" fun fields => (Fields.get? fields "second").isSome,
      .alter "copy" fun fields => (Fields.get? fields "second").getD .nil]
  config := none

theorem readsOwn_secondLetter : secondLetter.ReadsOwn := by
  intro entry hentry
  simp only [secondLetter, List.mem_cons, List.not_mem_nil, or_false] at hentry
  have hname : "second" ∈ secondLetter.names := List.mem_cons_self
  rcases hentry with rfl | rfl | rfl
  · trivial
  · refine readsOnly_of_get? fun fields fields' hsame => ?_
    rw [hsame _ hname]
  · refine readsOnly_of_get? fun fields fields' hsame => ?_
    rw [hsame _ hname]

theorem splice_or_nest_secondLetter :
    ∃ (spliced nested : Matcher) (m m' : Match),
      (firstLetter.extend secondLetter).compile? .relaxed = .ok spliced ∧
      (firstLetter.add (.nested "rest" secondLetter)).compile? .relaxed = .ok nested ∧
      spliced.matchIn [] (Cursor.ofString "x y") = some (.success m) ∧
      nested.matchIn [] (Cursor.ofString "x y") = some (.success m') ∧
      m.Splices "rest" m' := by
  obtain ⟨spliced, hspliced, hmatches⟩ : ∃ spliced,
      (firstLetter.extend secondLetter).compile? .relaxed = .ok spliced ∧
        ∃ m, spliced.matchIn [] (Cursor.ofString "x y") = some (.success m) := ⟨_, rfl, _, rfl⟩
  obtain ⟨nested, hnested⟩ : ∃ nested,
      (firstLetter.add (.nested "rest" secondLetter)).compile? .relaxed = .ok nested := ⟨_, rfl⟩
  obtain ⟨m, hm⟩ := hmatches
  have hdisjoint : firstLetter.names.Disjoint secondLetter.names := by
    simp [firstLetter, secondLetter, names, Entry.name]
  have hfresh : "rest" ∉ firstLetter.names := by decide
  obtain ⟨_, hboth⟩ := splice_or_nest hdisjoint hfresh rfl readsOwn_secondLetter .relaxed
  obtain ⟨hnests, _⟩ := hboth spliced nested hspliced hnested [] (Cursor.ofString "x y")
  obtain ⟨m', hm', hsplices⟩ := hnests m hm
  exact ⟨spliced, nested, m, m', hspliced, hnested, hm, hm', hsplices⟩

end Definitions

end Excerpt
