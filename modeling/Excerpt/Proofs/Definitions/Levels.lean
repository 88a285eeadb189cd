import Excerpt.Proofs.Definitions

/-!
# Levels of definitions

Definitions are a tree: those that are nested in others are levels of their own, each with its names
and perhaps with a configuration.  `extend` has put spliced entries into the level that they are
spliced into.  Two things pass through the levels, in opposite directions:

* errors come up.  `levels` lists the levels in the order in which they are compiled, nested ones
  before those around them, and the first one whose names are faulty is reported
  (`errorOf?_compile?`).
* configurations go down.  Each level has that of the nearest level around it that sets one
  (`nearestConfig`), so it makes no difference if they are written out everywhere (`writtenOut`).

`compile_by_levels` puts both together.
-/

namespace Excerpt

/-! ## Faults of names -/

/-- A name that a step can have: some letters, digits and underscores. -/
def IsStepName (name : String) : Prop := name ≠ "" ∧ ∀ ch ∈ name.toList, isStepChar ch = true

/-- What is wrong with a name behind others in the steps of `owner`, and how it is reported. -/
inductive NameFault (owner : String) (before : List String) : String → ErrorKind → Prop
  | empty : NameFault owner before "" (.invalidStep "" "step name is empty")
  | character {name : String} {ch : Char} (hch : ch ∈ name.toList)
    (hnot : isStepChar ch = false) :
    NameFault owner before name
      (.invalidStep name "step names may only contain ASCII letters, digits and '_'")
  | repeated {name : String} (hname : IsStepName name) (hbefore : name ∈ before) :
    NameFault owner before name (.duplicateStep name owner)

theorem NameFault.mono {owner name : String} {before before' : List String} {e : ErrorKind}
    (h : NameFault owner before name e) (hsubset : before ⊆ before') :
    NameFault owner before' name e := by
  cases h with
  | empty => exact .empty
  | character hch hnot => exact .character hch hnot
  | repeated hname hbefore => exact .repeated hname (hsubset hbefore)

theorem validateStepName_eq_ok_iff {name : String} :
    validateStepName name = .ok () ↔ IsStepName name := by
  rw [validateStepName, IsStepName, ← List.all_eq_true, Ne, ← String.isEmpty_iff]
  cases name.isEmpty <;> cases name.toList.all isStepChar <;> simp

/-- A name that is not valid is faulty wherever it stands. -/
theorem validateStepName_eq_error_iff {owner name : String} {before : List String}
    {e : ErrorKind} :
    validateStepName name = .error e ↔ NameFault owner before name e ∧ ¬ IsStepName name := by
  rw [← validateStepName_eq_ok_iff]
  constructor
  · intro h
    refine ⟨?_, by simp [h]⟩
    rw [validateStepName] at h
    split at h
    · rename_i hempty
      cases h
      rw [String.isEmpty_iff.1 hempty]
      exact .empty
    · split at h
      · cases h
      · rename_i hall
        cases h
        obtain ⟨ch, hch, hnot⟩ := List.all_eq_false.1 (Bool.not_eq_true _ |>.mp hall)
        exact .character hch (Bool.not_eq_true _ |>.mp hnot)
  · rintro ⟨hfault, hnot⟩
    cases hfault with
    | empty => rfl
    | @character _ ch hch hnotChar =>
      have hne : name.isEmpty = false := by
        rw [Bool.eq_false_iff, Ne, String.isEmpty_iff]
        rintro rfl
        cases hch
      have hall : name.toList.all isStepChar = false :=
        List.all_eq_false.2 ⟨ch, hch, by simp [hnotChar]⟩
      rw [validateStepName, hne, hall]
      rfl
    | repeated hname _ => exact absurd (validateStepName_eq_ok_iff.2 hname) hnot

/-- A name that is valid can only be faulty because it is there already. -/
theorem NameFault.of_isStepName {owner name : String} {before : List String} {e : ErrorKind}
    (h : NameFault owner before name e) (hname : IsStepName name) :
    name ∈ before ∧ e = .duplicateStep name owner := by
  cases h with
  | empty => exact absurd rfl hname.1
  | character hch hnot =>
    rw [hname.2 _ hch] at hnot
    cases hnot
  | repeated _ hbefore => exact ⟨hbefore, rfl⟩

section Names

variable {owner first : String} {seen names rest : List String} {e : ErrorKind}

theorem validateStepNames_cons_eq_ok_iff :
    validateStepNames owner seen (first :: rest) = .ok () ↔
      IsStepName first ∧ first ∉ seen ∧ validateStepNames owner (first :: seen) rest = .ok () := by
  rw [validateStepNames, ← validateStepName_eq_ok_iff]
  cases validateStepName first with
  | error e' => simp
  | ok => by_cases hseen : first ∈ seen <;> simp [hseen]

theorem validateStepNames_cons_eq_error_iff :
    validateStepNames owner seen (first :: rest) = .error e ↔
      NameFault owner seen first e ∨
        IsStepName first ∧ first ∉ seen ∧
          validateStepNames owner (first :: seen) rest = .error e := by
  rw [validateStepNames]
  cases hfirst : validateStepName first with
  | error e' =>
    obtain ⟨hfault, hnot⟩ : NameFault owner seen first e' ∧ ¬ IsStepName first :=
      validateStepName_eq_error_iff.1 hfirst
    simp only [hnot, false_and, or_false]
    constructor
    · intro h
      cases h
      exact hfault
    · intro hfault'
      rw [← hfirst]
      exact validateStepName_eq_error_iff.2 ⟨hfault', hnot⟩
  | ok =>
    have hname := validateStepName_eq_ok_iff.1 hfirst
    by_cases hseen : first ∈ seen
    · simp only [List.contains_iff_mem, hseen, if_true, not_true, false_and, and_false, or_false]
      constructor
      · intro h
        cases h
        exact .repeated hname hseen
      · intro hfault
        rw [(hfault.of_isStepName hname).2]
    · simp only [List.contains_iff_mem, hseen, if_false, not_false_eq_true, true_and, hname]
      exact ⟨Or.inr, fun h => h.resolve_left fun hfault => hseen (hfault.of_isStepName hname).1⟩

/-- The first name that is faulty behind those before it is reported. -/
theorem validateStepNames_eq_error_iff :
    validateStepNames owner seen names = .error e ↔
      ∃ front name rest, names = front ++ name :: rest ∧
        validateStepNames owner seen front = .ok () ∧ NameFault owner (front ++ seen) name e := by
  induction names generalizing seen with
  | nil => simp [validateStepNames]
  | cons first names ih =>
    rw [validateStepNames_cons_eq_error_iff, ih]
    constructor
    · rintro (hfault | ⟨hname, hfresh, front, name, rest, rfl, hfront, hfault⟩)
      · exact ⟨[], first, names, rfl, rfl, hfault⟩
      · exact ⟨first :: front, name, rest, rfl,
          validateStepNames_cons_eq_ok_iff.2 ⟨hname, hfresh, hfront⟩, hfault.mono (by simp)⟩
    · rintro ⟨_ | ⟨_, front⟩, name, rest, hnames, hfront, hfault⟩
      · cases hnames
        exact Or.inl hfault
      · obtain ⟨rfl, rfl⟩ := List.cons.inj hnames
        obtain ⟨hname, hfresh, hfront⟩ := validateStepNames_cons_eq_ok_iff.1 hfront
        exact Or.inr ⟨hname, hfresh, front, name, rest, rfl, hfront, hfault.mono (by simp)⟩

end Names

/-! ## Levels -/

/-- Induction on definitions, with those nested in them. -/
@[elab_as_elim]
theorem Definitions.induct {P : Definitions → Prop}
    (level : ∀ d : Definitions, (∀ name nested, .nested name nested ∈ d.entries → P nested) → P d)
    (d : Definitions) : P d := by
  induction hsize : sizeOf d using Nat.strongRecOn generalizing d with
  | ind size ih =>
    subst hsize
    refine level d fun name nested hnested => ih _ ?_ nested rfl
    have hlt := List.sizeOf_lt_of_mem hnested
    obtain ⟨id, entries, config⟩ := d
    rw [Entry.nested.sizeOf_spec] at hlt
    rw [Definitions.mk.sizeOf_spec]
    dsimp only at hlt
    omega

mutual

/-- The levels of definitions in the order in which they are compiled: those of the nested ones in
their order, and then the definitions themselves. -/
def Definitions.levels : Definitions → List Definitions
  | ⟨id, entries, config⟩ => entriesLevels entries ++ [⟨id, entries, config⟩]

/-- The levels of the definitions nested in some entries. -/
def entriesLevels : List (Entry Definitions) → List Definitions
  | [] => []
  | .matcher _ _ :: rest => entriesLevels rest
  | .nested _ nested :: rest => nested.levels ++ entriesLevels rest
  | .veto _ _ :: rest => entriesLevels rest
  | .alter _ _ :: rest => entriesLevels rest

end

namespace Definitions

/-- The names of a level are step names and differ. -/
structure WellNamed (d : Definitions) : Prop where
  valid : ∀ name ∈ d.names, IsStepName name
  nodup : d.names.Nodup

/-- The first faulty name of a level is reported so. -/
def Rejected (d : Definitions) (e : ErrorKind) : Prop :=
  ∃ front name rest, d.names = front ++ name :: rest ∧ (∀ n ∈ front, IsStepName n) ∧
    front.Nodup ∧ NameFault (d.id.getD "sequence") front name e

end Definitions

/-! ## Errors come up -/

/-- The error of a computation that has one. -/
def errorOf? {α : Type} : Except ErrorKind α → Option ErrorKind
  | .error e => some e
  | .ok _ => none

theorem errorOf?_eq_some_iff {α : Type} {x : Except ErrorKind α} {e : ErrorKind} :
    errorOf? x = some e ↔ x = .error e := by
  cases x <;> simp [errorOf?]

theorem errorOf?_eq_none_iff {α : Type} {x : Except ErrorKind α} :
    errorOf? x = none ↔ ∃ a, x = .ok a := by
  cases x <;> simp [errorOf?]

theorem errorOf?_map {α β : Type} (f : α → β) (x : Except ErrorKind α) :
    errorOf? (x.map f) = errorOf? x := by
  cases x <;> rfl

namespace Definitions

/-- The error of the names of a level, if there is one. -/
def ownError? (d : Definitions) : Option ErrorKind :=
  errorOf? (validateStepNames (d.id.getD "sequence") [] d.names)

theorem ownError?_eq_none_iff {d : Definitions} : d.ownError? = none ↔ d.WellNamed := by
  have hnames : (∀ name ∈ d.names, validateStepName name = .ok ()) ↔
      ∀ name ∈ d.names, IsStepName name :=
    forall₂_congr fun _ _ => validateStepName_eq_ok_iff
  rw [ownError?, errorOf?_eq_none_iff]
  constructor
  · rintro ⟨_, h⟩
    obtain ⟨hvalid, hnodup, _⟩ := validateStepNames_eq_ok_iff.1 h
    exact ⟨hnames.1 hvalid, hnodup⟩
  · intro h
    exact ⟨(), validateStepNames_eq_ok_iff.2 ⟨hnames.2 h.valid, h.nodup, by simp⟩⟩

theorem ownError?_eq_some_iff {d : Definitions} {e : ErrorKind} :
    d.ownError? = some e ↔ d.Rejected e := by
  rw [ownError?, errorOf?_eq_some_iff, validateStepNames_eq_error_iff, Rejected]
  simp only [validateStepNames_eq_ok_iff, validateStepName_eq_ok_iff, List.append_nil,
    List.not_mem_nil, not_false_eq_true, implies_true, and_true, and_assoc]

end Definitions

theorem errorOf?_sequence? (id : Option String) (steps : List (Step Matcher)) (config : Config) :
    errorOf? (Matcher.sequence? id steps config) =
      errorOf? (validateStepNames (id.getD "sequence") [] (steps.map Step.name)) := by
  rw [Matcher.sequence?]
  cases validateStepNames (id.getD "sequence") [] (steps.map Step.name) <;> rfl

/-- The first level with an error is reported, among those nested in some entries. -/
theorem errorOf?_compileEntries? {entries : List (Entry Definitions)} {config : Config}
    (hnested : ∀ name nested, .nested name nested ∈ entries →
      errorOf? (nested.compile? config) = nested.levels.findSome? Definitions.ownError?) :
    errorOf? (compileEntries? entries config) =
      (entriesLevels entries).findSome? Definitions.ownError? := by
  induction entries with
  | nil => rfl
  | cons entry entries ih =>
    have hrest := ih fun name nested hmem => hnested name nested (List.mem_cons_of_mem _ hmem)
    cases entry with
    | matcher _ _ | veto _ _ | alter _ _ =>
      rw [compileEntries?, entriesLevels, errorOf?_map]
      exact hrest
    | nested name nested =>
      have hlevels := hnested name nested List.mem_cons_self
      rw [compileEntries?, entriesLevels, List.findSome?_append, ← hlevels, ← hrest]
      cases nested.compile? config with
      | error e => rfl
      | ok m => exact errorOf?_map _ _

/-- The first level with an error is reported. -/
theorem errorOf?_compile? (d : Definitions) : ∀ inherited,
    errorOf? (d.compile? inherited) = d.levels.findSome? Definitions.ownError? := by
  induction d using Definitions.induct with
  | level d ih =>
    obtain ⟨id, entries, config⟩ := d
    intro inherited
    have hentries : errorOf? (compileEntries? entries (config.getD inherited)) =
        (entriesLevels entries).findSome? Definitions.ownError? :=
      errorOf?_compileEntries? fun name nested hmem => ih name nested hmem _
    rw [Definitions.compile?, Definitions.levels, List.findSome?_append, ← hentries]
    cases hsteps : compileEntries? entries (config.getD inherited) with
    | error e => rfl
    | ok steps =>
      have hown : errorOf? (Matcher.sequence? id steps (config.getD inherited)) =
          Definitions.ownError? ⟨id, entries, config⟩ := by
        rw [errorOf?_sequence?, map_name_of_compileEntries? hsteps]
        rfl
      rw [List.findSome?_singleton, ← hown]
      rfl

theorem Definitions.exists_compile?_iff {d : Definitions} {inherited : Config} :
    (∃ m, d.compile? inherited = .ok m) ↔ ∀ level ∈ d.levels, level.WellNamed := by
  rw [← errorOf?_eq_none_iff, errorOf?_compile?, List.findSome?_eq_none_iff]
  exact forall₂_congr fun _ _ => ownError?_eq_none_iff

theorem Definitions.compile?_eq_error_iff {d : Definitions} {inherited : Config} {e : ErrorKind} :
    d.compile? inherited = .error e ↔
      ∃ before level behind, d.levels = before ++ level :: behind ∧
        (∀ l ∈ before, l.WellNamed) ∧ level.Rejected e := by
  rw [← errorOf?_eq_some_iff, errorOf?_compile?, List.findSome?_eq_some_iff]
  simp only [ownError?_eq_some_iff, ownError?_eq_none_iff, and_comm]

/-! ## Configurations go down -/

/-- A way leads through entries, given by their places, to a level.  The levels that it leaves
behind stand above it, the outermost one first. -/
inductive Definitions.Way : Definitions → List Nat → List Definitions → Definitions → Prop
  | here (d : Definitions) : Way d [] [] d
  | nested {d level nested : Definitions} {name : String} {index : Nat} {address : List Nat}
    {above : List Definitions} (hentry : d.entries[index]? = some (.nested name nested))
    (hway : Way nested address above level) : Way d (index :: address) (d :: above) level

theorem mem_entriesLevels_iff {entries : List (Entry Definitions)} {level : Definitions} :
    level ∈ entriesLevels entries ↔
      ∃ name nested, .nested name nested ∈ entries ∧ level ∈ nested.levels := by
  induction entries with
  | nil => simp [entriesLevels]
  | cons entry entries ih =>
    cases entry with
    | matcher _ _ | veto _ _ | alter _ _ => simp [entriesLevels, ih]
    | nested name nested =>
      rw [entriesLevels, List.mem_append, ih]
      constructor
      · rintro (hlevel | ⟨name', nested', hmem, hlevel⟩)
        · exact ⟨name, nested, List.mem_cons_self, hlevel⟩
        · exact ⟨name', nested', List.mem_cons_of_mem _ hmem, hlevel⟩
      · rintro ⟨name', nested', hmem, hlevel⟩
        rcases List.mem_cons.1 hmem with hfirst | hmem
        · cases hfirst
          exact Or.inl hlevel
        · exact Or.inr ⟨name', nested', hmem, hlevel⟩

/-- The levels are those to which a way leads. -/
theorem Definitions.mem_levels_iff (d : Definitions) : ∀ {level : Definitions},
    level ∈ d.levels ↔ ∃ address above, d.Way address above level := by
  induction d using Definitions.induct with
  | level d ih =>
    intro level
    have hlevels : d.levels = entriesLevels d.entries ++ [d] := by
      cases d
      rfl
    rw [hlevels, List.mem_append, mem_entriesLevels_iff, List.mem_singleton]
    constructor
    · rintro (⟨name, nested, hmem, hlevel⟩ | rfl)
      · obtain ⟨address, above, hway⟩ := (ih name nested hmem).1 hlevel
        obtain ⟨index, hentry⟩ := List.getElem?_of_mem hmem
        exact ⟨index :: address, d :: above, .nested hentry hway⟩
      · exact ⟨[], [], .here level⟩
    · rintro ⟨address, above, hway⟩
      cases hway with
      | here => exact Or.inr rfl
      | nested hentry hway =>
        have hmem := List.mem_of_getElem? hentry
        exact Or.inl ⟨_, _, hmem, (ih _ _ hmem).2 ⟨_, _, hway⟩⟩

/-- The matcher to which a way leads through the steps of sequences, given by their places. -/
def Matcher.inside? : Matcher → List Nat → Option Matcher
  | m, [] => some m
  | .sequence _ steps _, index :: address =>
    match steps[index]? with
    | some (.take _ m) => m.inside? address
    | _ => none
  | _, _ :: _ => none

/-- The configuration that the nearest of some levels sets, and otherwise the inherited one.  The
levels stand inside one another, the outermost one first. -/
def nearestConfig (levels : List Definitions) (inherited : Config) : Config :=
  (levels.reverse.findSome? Definitions.config).getD inherited

theorem nearestConfig_cons (d : Definitions) (levels : List Definitions) (inherited : Config) :
    nearestConfig (d :: levels) inherited = nearestConfig levels (d.config.getD inherited) := by
  rw [nearestConfig, nearestConfig, List.reverse_cons, List.findSome?_append,
    List.findSome?_singleton]
  cases levels.reverse.findSome? Definitions.config <;> rfl

/-- The step of an entry stands where the entry does. -/
theorem exists_step_of_entry {entries : List (Entry Definitions)} {entry : Entry Definitions}
    {steps : List (Step Matcher)} {config : Config} {index : Nat}
    (h : compileEntries? entries config = .ok steps) (hentry : entries[index]? = some entry) :
    ∃ step, steps[index]? = some step ∧ entry.compile? config = .ok step := by
  have hcompiled := compileEntries?_eq_ok_iff.1 h
  obtain ⟨hindex, rfl⟩ := List.getElem?_eq_some_iff.1 hentry
  have hstep : index < steps.length := hcompiled.length_eq ▸ hindex
  exact ⟨_, List.getElem?_eq_getElem hstep, hcompiled.get hindex hstep⟩

namespace Definitions

/-- The sequence of a level stands where the level does, and has the configuration that the nearest
level around it sets. -/
theorem Way.exists_sequence {d level : Definitions} {address : List Nat} {above : List Definitions}
    (h : d.Way address above level) : ∀ {inherited : Config} {m : Matcher},
      d.compile? inherited = .ok m →
      ∃ steps, steps.map Step.name = level.names ∧
        m.inside? address = some (.sequence (level.id.getD (Matcher.defaultSequenceId level.names))
          steps (nearestConfig (above ++ [level]) inherited)) := by
  induction h with
  | here d =>
    intro inherited m hm
    obtain ⟨steps, hsteps, rfl⟩ := compile?_eq_ok_iff.1 hm
    refine ⟨steps, hsteps.names_eq, ?_⟩
    rw [List.nil_append, nearestConfig_cons]
    rfl
  | @nested d level nested name index address above hentry _ ih =>
    intro inherited m hm
    obtain ⟨steps, hsteps, rfl⟩ := compile?_eq_ok_iff.1 hm
    obtain ⟨step, hstep, hcompiled⟩ := exists_step_of_entry hsteps.entries_eq hentry
    obtain ⟨m, hm, rfl⟩ := Entry.compile?_nested_eq_ok_iff.1 hcompiled
    rw [List.cons_append, nearestConfig_cons, Matcher.inside?, hstep]
    exact ih hm

end Definitions

/-! ## Configurations written out -/

mutual

/-- The definitions with a configuration at each level: its own, or the one that it inherits. -/
def Definitions.writtenOut : Definitions → Config → Definitions
  | ⟨id, entries, config⟩, inherited =>
    ⟨id, entriesWrittenOut entries (config.getD inherited), some (config.getD inherited)⟩

/-- Entries inside a configuration, with one at each level nested in them. -/
def entriesWrittenOut : List (Entry Definitions) → Config → List (Entry Definitions)
  | [], _ => []
  | .matcher name m :: rest, config => .matcher name m :: entriesWrittenOut rest config
  | .nested name nested :: rest, config =>
    .nested name (nested.writtenOut config) :: entriesWrittenOut rest config
  | .veto name accepts :: rest, config => .veto name accepts :: entriesWrittenOut rest config
  | .alter name value :: rest, config => .alter name value :: entriesWrittenOut rest config

end

theorem compileEntries?_entriesWrittenOut {entries : List (Entry Definitions)} {config : Config}
    (hnested : ∀ name nested, .nested name nested ∈ entries →
      ((nested.writtenOut config).compile? config) = nested.compile? config) :
    compileEntries? (entriesWrittenOut entries config) config =
      compileEntries? entries config := by
  induction entries with
  | nil => rfl
  | cons entry entries ih =>
    have hrest := ih fun name nested hmem => hnested name nested (List.mem_cons_of_mem _ hmem)
    cases entry with
    | matcher _ _ | veto _ _ | alter _ _ =>
      rw [entriesWrittenOut, compileEntries?, compileEntries?, hrest]
    | nested name nested =>
      rw [entriesWrittenOut, compileEntries?, compileEntries?, hrest,
        hnested name nested List.mem_cons_self]

theorem getElem?_entriesWrittenOut {entries : List (Entry Definitions)} {index : Nat}
    {name : String} {nested : Definitions} (h : entries[index]? = some (.nested name nested))
    (config : Config) :
    (entriesWrittenOut entries config)[index]? =
      some (.nested name (nested.writtenOut config)) := by
  induction entries generalizing index with
  | nil => cases h
  | cons entry entries ih =>
    cases index with
    | zero =>
      cases h
      rfl
    | succ index => cases entry with
      | matcher _ _ | nested _ _ | veto _ _ | alter _ _ => exact ih h

namespace Definitions

theorem config_writtenOut (d : Definitions) (inherited : Config) :
    (d.writtenOut inherited).config = some (d.config.getD inherited) := by
  cases d
  rfl

theorem entries_writtenOut (d : Definitions) (inherited : Config) :
    (d.writtenOut inherited).entries =
      entriesWrittenOut d.entries (d.config.getD inherited) := by
  cases d
  rfl

/-- Each level writes out the configuration that the nearest level around it sets. -/
theorem Way.writtenOut {d level : Definitions} {address : List Nat} {above : List Definitions}
    (h : d.Way address above level) : ∀ inherited : Config, ∃ above' level',
      (d.writtenOut inherited).Way address above' level' ∧
        level'.config = some (nearestConfig (above ++ [level]) inherited) := by
  induction h with
  | here d =>
    intro inherited
    refine ⟨[], _, .here _, ?_⟩
    rw [config_writtenOut, List.nil_append, nearestConfig_cons]
    rfl
  | @nested d level nested name index address above hentry _ ih =>
    intro inherited
    obtain ⟨above', level', hway, hconfig⟩ := ih (d.config.getD inherited)
    have hentry' := getElem?_entriesWrittenOut hentry (d.config.getD inherited)
    rw [← entries_writtenOut] at hentry'
    rw [List.cons_append, nearestConfig_cons]
    exact ⟨_, level', .nested hentry' hway, hconfig⟩

/-- Definitions with their configurations written out compile alike, inside whatever
configuration. -/
theorem compile?_writtenOut (d : Definitions) : ∀ inherited other,
    (d.writtenOut inherited).compile? other = d.compile? inherited := by
  induction d using Definitions.induct with
  | level d ih =>
    obtain ⟨id, entries, config⟩ := d
    intro inherited other
    rw [Definitions.writtenOut, compile?, compile?, Option.getD_some,
      compileEntries?_entriesWrittenOut fun name nested hmem => ih name nested hmem _ _]

/-- How definitions compile, level by level. -/
theorem compile_by_levels (d : Definitions) (inherited : Config) :
    -- They compile exactly if each level has valid names that differ.
    ((∃ m, d.compile? inherited = .ok m) ↔ ∀ level ∈ d.levels, level.WellNamed) ∧
    -- Otherwise the first level whose names are faulty is reported, nested ones first.
    (∀ e, d.compile? inherited = .error e ↔
      ∃ before level behind, d.levels = before ++ level :: behind ∧
        (∀ l ∈ before, l.WellNamed) ∧ level.Rejected e) ∧
    -- To each level there is a way,
    (∀ level, level ∈ d.levels ↔ ∃ address above, d.Way address above level) ∧
    -- at the end of which its sequence has the configuration that the nearest level on it sets.
    (∀ m, d.compile? inherited = .ok m → ∀ address above level, d.Way address above level →
      ∃ steps, steps.map Step.name = level.names ∧
        m.inside? address = some (.sequence (level.id.getD (Matcher.defaultSequenceId level.names))
          steps (nearestConfig (above ++ [level]) inherited))) ∧
    -- With these configurations written out, the result is the same inside any other one.
    (∀ address above level, d.Way address above level → ∃ above' level',
      (d.writtenOut inherited).Way address above' level' ∧
        level'.config = some (nearestConfig (above ++ [level]) inherited)) ∧
    ∀ other, (d.writtenOut inherited).compile? other = d.compile? inherited :=
  ⟨exists_compile?_iff, fun _ => compile?_eq_error_iff, fun _ => mem_levels_iff d,
    fun _ hm _ _ _ hway => hway.exists_sequence hm,
    fun _ _ _ hway => hway.writtenOut inherited, compile?_writtenOut d inherited⟩

/-- The fault of a nested level is reported before the one around it, though that comes first in the
text. -/
example :
    compile? ⟨none, [.matcher "a b" (.literal "x"),
      .nested "inner"
        ⟨some "in", [.matcher "c" (.literal "y"), .matcher "c" (.literal "z")], none⟩],
      none⟩ .relaxed = .error (.duplicateStep "c" "in") :=
  rfl

end Definitions

end Excerpt
