import Excerpt.Proofs.Matcher.Depth
import Excerpt.Rules
import Mathlib.Data.List.Induction
import Mathlib.Data.List.Nodup

/-!
# Histories of a rule book

A rule book is written by calls that declare and define rules in any order, and a reference is
handed out at a time when it is not known yet which rules there will be.  This module says what
comes of every history, that is, of every list of calls on a new book.

* `entries_after` : the book is known from its history.  Its names are those `mentioned`, in order
  of first mention, and each stands with the first definition that it was given.
* `build?_after` : what is built, or which name is reported.
* `getElem?_mentioned` : later calls leave the places of the names as they are, so an index does
  not go out of date, and `exists_leadsTo` says that the rule there is the definition of the name.
* `faithful` : definitions are made once, all rules are found defined or the first one missing is
  reported, and every reference leads to the one definition of its name.
-/

namespace Excerpt.RuleBook

/-- A call on a rule book. -/
inductive Edit where
  | declare (name : String)
  | define (name : String) (m : Matcher)

namespace Edit

/-- The name that a call mentions. -/
def name : Edit → String
  | declare name => name
  | define name _ => name

/-- The definition that a call gives to a name. -/
def definitionOf? (key : String) : Edit → Option Matcher
  | declare _ => none
  | define name m => if name = key then some m else none

end Edit

/-- What a call answers. -/
inductive Answer where
  | reference (m : Matcher)
  | definition (result : Except ErrorKind Unit)

/-- One call: what it answers, and the book afterwards. -/
def perform (book : RuleBook) : Edit → Answer × RuleBook
  | .declare name => (.reference (book.declare name).1, (book.declare name).2)
  | .define name m => (.definition (book.define name m).1, (book.define name m).2)

/-- A book after some more calls. -/
def after (book : RuleBook) (edits : List Edit) : RuleBook :=
  edits.foldl (fun book edit => (book.perform edit).2) book

theorem after_append_singleton (book : RuleBook) (edits : List Edit) (edit : Edit) :
    book.after (edits ++ [edit]) = ((book.after edits).perform edit).2 := by
  rw [after, List.foldl_append]
  rfl

/-! ## What a history mentions and defines -/

/-- Names with one more mentioned, which is added behind them if it is new. -/
def noted (names : List String) (name : String) : List String :=
  if name ∈ names then names else names ++ [name]

theorem mem_noted (names : List String) (name : String) : name ∈ noted names name := by
  rw [noted]
  split
  · assumption
  · simp

theorem nodup_noted {names : List String} {name : String} (h : names.Nodup) :
    (noted names name).Nodup := by
  rw [noted]
  by_cases hmem : name ∈ names
  · rw [if_pos hmem]
    exact h
  · rw [if_neg hmem, ← List.concat_eq_append]
    exact h.concat hmem

/-- The names mentioned by some calls, in order of first mention. -/
def mentioned (edits : List Edit) : List String := (edits.map Edit.name).eraseDups

/-- The first definition that some calls give to a name. -/
def definition? (edits : List Edit) (name : String) : Option Matcher :=
  edits.findSome? (Edit.definitionOf? name)

section History

variable {edits : List Edit} {name : String}

theorem mem_mentioned_iff : name ∈ mentioned edits ↔ ∃ edit ∈ edits, edit.name = name := by
  rw [mentioned, List.mem_eraseDups, List.mem_map]

/-- Names are only added behind those that were mentioned before. -/
theorem mentioned_append (edits later : List Edit) :
    ∃ more, mentioned (edits ++ later) = mentioned edits ++ more := by
  rw [mentioned, List.map_append, List.eraseDups_append]
  exact ⟨_, rfl⟩

theorem mentioned_append_singleton (edits : List Edit) (edit : Edit) :
    mentioned (edits ++ [edit]) = noted (mentioned edits) edit.name := by
  have hmem : edit.name ∈ mentioned edits ↔ edit.name ∈ edits.map Edit.name := by
    rw [mentioned, List.mem_eraseDups]
  rw [mentioned, List.map_append, List.eraseDups_append, List.map_singleton, ← mentioned,
    List.removeAll, noted]
  by_cases h : edit.name ∈ mentioned edits
  · have hknown := hmem.1 h
    rw [if_pos h, List.filter_cons_of_neg (by simpa using hknown)]
    simp
  · have hnew := mt hmem.2 h
    rw [if_neg h, List.filter_cons_of_pos (by simpa using hnew)]
    simp [List.eraseDups_cons]

/-- The place at which a name was mentioned stays the place of the name. -/
theorem getElem?_mentioned (before : List Edit) (edit : Edit) (later : List Edit) :
    (mentioned (before ++ edit :: later))[(noted (mentioned before) edit.name).idxOf edit.name]? =
      some edit.name := by
  have hmem := mem_noted (mentioned before) edit.name
  obtain ⟨more, hmore⟩ := mentioned_append (before ++ [edit]) later
  rw [List.append_assoc, List.singleton_append, mentioned_append_singleton] at hmore
  rw [hmore, List.getElem?_append_left (List.idxOf_lt_length_iff.2 hmem), List.getElem?_idxOf hmem]

theorem nodup_mentioned (edits : List Edit) : (mentioned edits).Nodup := by
  induction edits using List.reverseRecOn with
  | nil => simp [mentioned]
  | append_singleton edits edit ih =>
    rw [mentioned_append_singleton]
    exact nodup_noted ih

theorem definition?_append_singleton (edits : List Edit) (edit : Edit) (name : String) :
    definition? (edits ++ [edit]) name =
      (definition? edits name).or (edit.definitionOf? name) := by
  rw [definition?, List.findSome?_append]
  simp [definition?]

/-- A name that is not mentioned is not defined. -/
theorem definition?_eq_none (h : name ∉ mentioned edits) : definition? edits name = none := by
  rw [definition?, List.findSome?_eq_none_iff]
  intro edit hedit
  have hother : edit.name ≠ name := fun hsame => h (mem_mentioned_iff.2 ⟨edit, hedit, hsame⟩)
  cases edit with
  | declare _ => rfl
  | define _ _ => exact if_neg hother

end History

/-! ## The book of a history -/

/-- The entries of some names, each with its definition if it has one. -/
def entriesOf (names : List String) (f : String → Option Matcher) :
    List (String × Option Matcher) :=
  names.map fun name => (name, f name)

section Entries

variable {names : List String} {f : String → Option Matcher} {book : RuleBook} {name : String}

/-- A rule has the place of its name; a new one gets the place behind the others. -/
theorem place_eq (h : book.entries = entriesOf names f) (hnone : name ∉ names → f name = none) :
    book.place name = ((noted names name).idxOf name, ⟨entriesOf (noted names name) f⟩) := by
  have hindex : book.entries.findIdx (fun entry => entry.1 == name) = names.idxOf name := by
    rw [h, entriesOf, List.findIdx_map]
    rfl
  have hlength : book.entries.length = names.length := by rw [h, entriesOf, List.length_map]
  rw [place, hindex, hlength, noted]
  by_cases hmem : name ∈ names
  · have hless := List.idxOf_lt_length_iff.2 hmem
    simp only [if_pos hless, if_pos hmem, ← h]
  · have hend := List.idxOf_of_notMem hmem
    simp only [hend, Nat.lt_irrefl, if_false, if_neg hmem, h]
    simp [entriesOf, hnone hmem, List.idxOf_append_of_notMem hmem]

/-- The place of a name holds the name and its definition. -/
theorem getElem?_entriesOf (hmem : name ∈ names) :
    (entriesOf names f)[names.idxOf name]? = some (name, f name) := by
  rw [entriesOf, List.getElem?_map, List.getElem?_idxOf hmem, Option.map_some]

/-- To define a name is to write down the definition at its place. -/
theorem set_entriesOf (hnodup : names.Nodup) {g : String → Option Matcher}
    (hother : ∀ key ∈ names, key ≠ name → g key = f key) :
    (entriesOf names f).set (names.idxOf name) (name, g name) = entriesOf names g := by
  apply List.ext_getElem
  · simp [entriesOf]
  · intro i hi hi'
    have hlength : i < names.length := by simpa [entriesOf] using hi'
    by_cases hplace : names.idxOf name = i
    · subst hplace
      simp [entriesOf]
    · have hne : names[i] ≠ name := by
        intro hsame
        apply hplace
        rw [← hsame]
        exact hnodup.idxOf_getElem i hlength
      have hkeep := hother names[i] (List.getElem_mem hlength) hne
      simp [entriesOf, List.getElem_set_of_ne hplace, hkeep]

/-- All that a definition does to a book.  It is refused if the name has a definition, and written
down at the place of the name if it has none. -/
theorem define_eq (h : book.entries = entriesOf names f) (hnodup : names.Nodup)
    (hnone : name ∉ names → f name = none) (m : Matcher) :
    book.define name m =
      match f name with
      | some _ => (.error (.duplicateRule name), ⟨entriesOf (noted names name) f⟩)
      | none => (.ok (), ⟨entriesOf (noted names name) (Function.update f name (some m))⟩) := by
  have hmem := mem_noted names name
  rw [define, place_eq h hnone]
  simp only [getElem?_entriesOf hmem]
  cases hdefined : f name with
  | some d => rfl
  | none =>
    have hset : (entriesOf (noted names name) f).set ((noted names name).idxOf name) _ = _ :=
      set_entriesOf (nodup_noted hnodup) fun key _ hkey => Function.update_of_ne hkey (some m) f
    rw [Function.update_self] at hset
    exact congrArg (fun entries => (Except.ok (), RuleBook.mk entries)) hset

end Entries

/-- The book of a history holds the names mentioned, each with its first definition. -/
theorem entries_after (edits : List Edit) :
    (empty.after edits).entries = entriesOf (mentioned edits) (definition? edits) := by
  induction edits using List.reverseRecOn with
  | nil => rfl
  | append_singleton edits edit ih =>
    rw [after_append_singleton, mentioned_append_singleton]
    cases edit with
    | declare name =>
      have hsame : definition? (edits ++ [.declare name]) = definition? edits := by
        funext key
        rw [definition?_append_singleton, Edit.definitionOf?, Option.or_none]
      rw [perform, declare, place_eq ih definition?_eq_none, hsame]
      rfl
    | define name m =>
      rw [perform, define_eq ih (nodup_mentioned edits) definition?_eq_none]
      cases hdefined : definition? edits name with
      | some d =>
        have hsame : definition? (edits ++ [.define name m]) = definition? edits := by
          funext key
          rw [definition?_append_singleton, Edit.definitionOf?]
          by_cases hkey : name = key
          · rw [← hkey, hdefined, Option.some_or]
          · rw [if_neg hkey, Option.or_none]
        rw [hsame]
        rfl
      | none =>
        have hadded : definition? (edits ++ [.define name m]) =
            Function.update (definition? edits) name (some m) := by
          funext key
          rw [definition?_append_singleton, Edit.definitionOf?]
          by_cases hkey : name = key
          · rw [← hkey, hdefined, Function.update_self, if_pos rfl, Option.none_or]
          · rw [if_neg hkey, Option.or_none, Function.update_of_ne (Ne.symm hkey)]
        rw [hadded]
        rfl

/-! ## Building -/

/-- All that building does: the first name without a definition is reported, and if there is none,
the definitions are collected. -/
theorem collect_entriesOf (names : List String) (f : String → Option Matcher) :
    build?.collect (entriesOf names f) =
      match names.find? fun name => (f name).isNone with
      | some name => .error (.undefinedRule name)
      | none => .ok (names.filterMap fun name => (f name).map fun m => (name, m)) := by
  induction names with
  | nil => rfl
  | cons name names ih =>
    rw [entriesOf, List.map_cons, ← entriesOf]
    cases hdefined : f name with
    | none => simp [build?.collect, hdefined]
    | some m =>
      rw [build?.collect, ih, List.find?_cons_of_neg (by simp [hdefined])]
      cases names.find? fun name => (f name).isNone with
      | some missing => rfl
      | none => simp [hdefined]

/-- Rules fill the entries that they are collected from, each at its place. -/
theorem eq_map_of_collect {entries : List (String × Option Matcher)} {rules : Rules}
    (h : build?.collect entries = .ok rules) :
    entries = rules.map fun rule => (rule.1, some rule.2) := by
  induction entries generalizing rules with
  | nil =>
    cases h
    rfl
  | cons entry entries ih =>
    obtain ⟨name, definition⟩ := entry
    cases definition with
    | none => cases h
    | some m =>
      rw [build?.collect] at h
      cases hrest : build?.collect entries with
      | error error =>
        rw [hrest] at h
        cases h
      | ok rest =>
        rw [hrest] at h
        cases h
        rw [List.map_cons, ← ih hrest]

/-! ## All histories -/

/-- A reference leads to a definition: the definition stands in the rules at the place and under the
name that the reference knows, it is the rule of that name, and to match the reference is to match
the definition. -/
structure LeadsTo (rules : Rules) (index : Nat) (name : String) (m : Matcher) : Prop where
  getElem? : rules[index]? = some (name, m)
  lookup? : rules.lookup? name = some m
  matchIn : ∀ c, (Matcher.reference index name).matchIn rules c = m.matchIn rules c

/-- What a history comes to. -/
structure Faithful (edits : List Edit) : Prop where
  /-- The first definition of a name is taken. -/
  taken : ∀ before name m later, edits = before ++ .define name m :: later →
    (¬ ∃ m', .define name m' ∈ before) →
    ((empty.after before).perform (.define name m)).1 = .definition (.ok ())
  /-- Any other is refused, and changes nothing. -/
  refused : ∀ before name m later, edits = before ++ .define name m :: later →
    (∃ m', .define name m' ∈ before) →
    (empty.after before).perform (.define name m) =
      (.definition (.error (.duplicateRule name)), empty.after before)
  /-- Rules are built if all names that were mentioned are defined. -/
  built : (∃ rules, (empty.after edits).build? = .ok rules) ↔
    ∀ name ∈ mentioned edits, ∃ m, .define name m ∈ edits
  /-- Otherwise the name reported is the first one mentioned that is not defined. -/
  reported : ∀ front name back, mentioned edits = front ++ name :: back →
    (∀ earlier ∈ front, ∃ m, .define earlier m ∈ edits) → (¬ ∃ m, .define name m ∈ edits) →
    (empty.after edits).build? = .error (.undefinedRule name)
  /-- The rules have the names that were mentioned, in order of first mention. -/
  names : ∀ rules, (empty.after edits).build? = .ok rules → rules.names = mentioned edits
  /-- A reference, handed out at any time, leads to the one definition of its name. -/
  resolved : ∀ before name later rules, edits = before ++ .declare name :: later →
    (empty.after edits).build? = .ok rules →
    ∃ index m, ((empty.after before).perform (.declare name)).1 =
        .reference (.reference index name) ∧
      definition? edits name = some m ∧ LeadsTo rules index name m

section Faithful

variable {edits : List Edit} {name : String} {rules : Rules}

/-- A name has a definition if some call defines it. -/
theorem isSome_definition?_iff :
    (definition? edits name).isSome = true ↔ ∃ m, .define name m ∈ edits := by
  rw [definition?, List.findSome?_isSome_iff]
  constructor
  · rintro ⟨edit, hedit, hdefines⟩
    cases edit with
    | declare _ => cases hdefines
    | define key m =>
      rw [Edit.definitionOf?] at hdefines
      by_cases hkey : key = name
      · exact ⟨m, hkey ▸ hedit⟩
      · rw [if_neg hkey] at hdefines
        cases hdefines
  · rintro ⟨m, hm⟩
    exact ⟨_, hm, by simp [Edit.definitionOf?]⟩

theorem isNone_definition?_iff :
    (definition? edits name).isNone = true ↔ ¬ ∃ m, .define name m ∈ edits := by
  rw [← isSome_definition?_iff]
  simp

theorem build?_after (edits : List Edit) :
    (empty.after edits).build? =
      match (mentioned edits).find? fun name => (definition? edits name).isNone with
      | some name => .error (.undefinedRule name)
      | none =>
        .ok ((mentioned edits).filterMap fun name =>
          (definition? edits name).map fun m => (name, m)) := by
  rw [build?, entries_after, collect_entriesOf]

theorem map_rules_of_build? (h : (empty.after edits).build? = .ok rules) :
    entriesOf (mentioned edits) (definition? edits) =
      rules.map fun rule => (rule.1, some rule.2) := by
  rw [build?, entries_after] at h
  exact eq_map_of_collect h

theorem names_of_build? (h : (empty.after edits).build? = .ok rules) :
    rules.names = mentioned edits := by
  have hnames := congrArg (List.map Prod.fst) (map_rules_of_build? h)
  rw [entriesOf, List.map_map, List.map_map] at hnames
  rw [Rules.names]
  simpa [Function.comp_def] using hnames.symm

/-- A rule that stands alone under its name is reached by its place and by its name. -/
theorem leadsTo_of_getElem? {index : Nat} {m : Matcher} (hnodup : rules.names.Nodup)
    (hrule : rules[index]? = some (name, m)) : LeadsTo rules index name m where
  getElem? := hrule
  lookup? := by
    have hmem : (name, m) ∈ rules := List.mem_of_getElem? hrule
    rw [Rules.lookup?]
    cases hfind : rules.find? fun rule => rule.1 == name with
    | none =>
      have hno := List.find?_eq_none.1 hfind (name, m) hmem
      simp at hno
    | some rule =>
      have hname : rule.1 = name := by simpa using List.find?_some hfind
      have hsame : rule = (name, m) :=
        List.inj_on_of_nodup_map hnodup (List.mem_of_find?_eq_some hfind) hmem hname
      rw [hsame]
      rfl
  matchIn c := by
    rw [Matcher.matchIn_eq_attempt, Matcher.attempt]
    simp only [hrule, if_true]

/-- A reference to a name says where the name stands in the order of first mention. -/
theorem perform_declare (edits : List Edit) (name : String) :
    ((empty.after edits).perform (.declare name)).1 =
      .reference (.reference ((noted (mentioned edits) name).idxOf name) name) := by
  rw [perform, declare, place_eq (entries_after edits) definition?_eq_none]

/-- The rule at the place of a name is its definition. -/
theorem exists_leadsTo {index : Nat} (hmention : (mentioned edits)[index]? = some name)
    (h : (empty.after edits).build? = .ok rules) :
    ∃ m, definition? edits name = some m ∧ LeadsTo rules index name m := by
  have hentry := congrArg (fun entries => entries[index]?) (map_rules_of_build? h)
  simp only [entriesOf, List.getElem?_map, hmention, Option.map_some] at hentry
  obtain ⟨⟨_, m⟩, hrule, hsame⟩ := Option.map_eq_some_iff.1 hentry.symm
  obtain ⟨rfl, hdefinition⟩ := Prod.mk.inj hsame
  have hnodup : rules.names.Nodup := by
    rw [names_of_build? h]
    exact nodup_mentioned edits
  exact ⟨m, hdefinition.symm, leadsTo_of_getElem? hnodup hrule⟩

end Faithful

/-- Every history is faithful. -/
theorem faithful (edits : List Edit) : Faithful edits where
  taken before name m _ _ hnew := by
    have hnone := Option.isNone_iff_eq_none.1 (isNone_definition?_iff.2 hnew)
    rw [perform, define_eq (entries_after before) (nodup_mentioned before) definition?_eq_none,
      hnone]
  refused before name m _ _ hold := by
    have hsome := isSome_definition?_iff.2 hold
    obtain ⟨d, hd⟩ := Option.isSome_iff_exists.1 hsome
    have hmem : name ∈ mentioned before := by
      by_contra hnot
      rw [definition?_eq_none hnot] at hsome
      cases hsome
    rw [perform, define_eq (entries_after before) (nodup_mentioned before) definition?_eq_none, hd,
      noted, if_pos hmem, ← entries_after]
  built := by
    have hall : ((mentioned edits).find? fun name => (definition? edits name).isNone) = none ↔
        ∀ name ∈ mentioned edits, ∃ m, .define name m ∈ edits := by
      simp only [List.find?_eq_none, isNone_definition?_iff, not_not]
    rw [build?_after, ← hall]
    cases (mentioned edits).find? fun name => (definition? edits name).isNone with
    | some missing => simp
    | none => simp
  reported front name back hmentioned hfront hmissing := by
    have hfind : ((mentioned edits).find? fun name => (definition? edits name).isNone) =
        some name := by
      refine List.find?_eq_some_iff_append.2 ⟨isNone_definition?_iff.2 hmissing, front, back,
        hmentioned, fun earlier hearlier => ?_⟩
      have hdefined := isSome_definition?_iff.2 (hfront earlier hearlier)
      simpa using hdefined
    rw [build?_after, hfind]
  names _ := names_of_build?
  resolved before name later rules hedits hrules := by
    have hmention : (mentioned edits)[(noted (mentioned before) name).idxOf name]? = some name := by
      rw [hedits]
      exact getElem?_mentioned before (.declare name) later
    obtain ⟨m, hdefinition, hleads⟩ := exists_leadsTo hmention hrules
    exact ⟨_, m, perform_declare before name, hdefinition, hleads⟩

/-- A rule that is declared before and after its definition, and one that is defined twice. -/
example : (empty.after [.declare "b", .define "a" (.literal "x"), .define "b" (.literal "y"),
      .define "a" (.literal "z"), .declare "b"]).build? =
    .ok [("b", .literal "y"), ("a", .literal "x")] :=
  rfl

end Excerpt.RuleBook
