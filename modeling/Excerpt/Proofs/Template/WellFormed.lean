import Excerpt.Proofs.Template.StepNames

/-!
# Which templates compile

For templates whose placeholders have different names and all have a component:

* if no placeholder has a running name, then the first stray opening behind all placeholders is
  reported, and a template without one compiles (`reports_trailing_stray`);
* if there are no stray openings, then the template compiles unless a placeholder has the running
  name of one of its words, which is reported as a duplicate (`ofTemplate_compiles_iff`).

A stray opening before a placeholder is not reported.  It is a part of the literal text there.
-/

namespace Excerpt.Template

open Text

/-- Components for a template: one for each placeholder, and no two placeholders share a name. -/
structure Usable (components : Components) (t : Text) : Prop where
  resolved : ∀ front name, PlaceholderAt t front name →
    components.contains (String.ofList name) = true
  distinct : ∀ front front' name, PlaceholderAt t front name → PlaceholderAt t front' name →
    front = front'

theorem usable_iff {components : Components} {t : Text} :
    Usable components t ↔
      (∀ piece ∈ (cut t).1, (components.get? (String.ofList piece.name)).isSome = true) ∧
        ((cut t).1.map Piece.name).Nodup := by
  constructor
  · intro h
    refine ⟨fun piece hpiece => ?_, names_nodup_iff.2 h.distinct⟩
    obtain ⟨front, hplaceholder⟩ := exists_placeholderAt_iff.2 (List.mem_map_of_mem hpiece)
    exact h.resolved front piece.name hplaceholder
  · rintro ⟨hresolved, hnodup⟩
    refine ⟨fun front name hplaceholder => ?_, names_nodup_iff.1 hnodup⟩
    have hmem := exists_placeholderAt_iff.1 ⟨front, hplaceholder⟩
    obtain ⟨piece, hpiece, rfl⟩ := List.mem_map.1 hmem
    exact hresolved piece hpiece

/-- With running names from `next` on, a word of the template takes a name. -/
def TakesName (next : Nat) (t : Text) (name : String) : Prop :=
  ∃ k, (next ≤ k ∧ k < next + (literalWords (cut t).1 (cut t).2).length) ∧ runningName k = name

/-- A step name is there twice if a placeholder takes the name of a word. -/
theorem duplicate_stepNames_cut_iff {t : Text} {next : Nat} {name : String}
    (hdistinct : ((cut t).1.map Piece.name).Nodup) :
    List.Duplicate name (stepNames (cut t).2 next (cut t).1) ↔
      TakesName next t name ∧ ∃ front, PlaceholderAt t front name.toList := by
  rw [duplicate_stepNames_iff hdistinct, exists_placeholderAt_iff, TakesName]

section

variable {components : Components} {template : String}

/-! ## Stray openings -/

/-- The first stray opening behind all placeholders is reported.  Without one the template
compiles, also where an opening before a placeholder is stray. -/
theorem reports_trailing_stray (husable : Usable components template.toList)
    (hnames : ∀ front name, PlaceholderAt template.toList front name → ¬ IsRunning name)
    (next : Nat) (config : Config) :
    (∃ front, TrailingStrayAt template.toList front ∧
      (∀ front', TrailingStrayAt template.toList front' → front.length ≤ front'.length) ∧
      (Grammar.ofTemplateFrom next template components config).1 =
        .error (strayError template front)) ∨
    ((∀ front, ¬ TrailingStrayAt template.toList front) ∧
      ∃ g, (Grammar.ofTemplateFrom next template components config).1 = .ok g) := by
  obtain ⟨hresolved, hdistinct⟩ := usable_iff.1 husable
  rcases ofTemplateFrom_cases hresolved next config with
    ⟨error, name, _, _, htwice⟩ | ⟨hopening, herror⟩ | ⟨hopening, _, hg⟩
  · obtain ⟨⟨k, _, rfl⟩, front, hplaceholder⟩ := (duplicate_stepNames_cut_iff hdistinct).1 htwice
    exact absurd (isRunning_runningName k) (hnames front _ hplaceholder)
  · refine Or.inl ⟨_, trailingStrayAt_iff.2 ⟨_, rfl, isPrefix_behind_before hopening⟩, ?_, herror⟩
    intro front' hfront'
    obtain ⟨rest, rfl, behind, hbehind⟩ := trailingStrayAt_iff.1 hfront'
    have hfirst := length_before_le hbehind
    simp only [List.length_append]
    omega
  · refine Or.inr ⟨fun front hfront => ?_, hg⟩
    obtain ⟨rest, _, hopens⟩ := trailingStrayAt_iff.1 hfront
    rw [occursIn_opening_iff.2 ⟨rest, hopens⟩] at hopening
    cases hopening

/-- What a template with the one placeholder `name` needs. -/
theorem usable_oneName {t : Text} (h : (cut t).1.map Piece.name = ["name".toList]) :
    Usable oneName t ∧ ∀ front name, PlaceholderAt t front name → ¬ IsRunning name := by
  refine ⟨usable_iff.2 ⟨fun piece hpiece => ?_, by simp [h]⟩, fun front name hplaceholder => ?_⟩
  · have hname := List.mem_map_of_mem (f := Piece.name) hpiece
    rw [h, List.mem_singleton] at hname
    rw [hname]
    rfl
  · have hname := exists_placeholderAt_iff.1 ⟨front, hplaceholder⟩
    rw [h, List.mem_singleton] at hname
    rintro ⟨digits, _, _, hrunning⟩
    rw [hname] at hrunning
    cases hrunning

/-- A stray opening on each side of a placeholder. -/
def strayBothSides : String := "a $\x7b b $\x7bname\x7d $\x7b"

theorem cut_strayBothSides :
    cut strayBothSides.toList = ([⟨"a $\x7b b ".toList, "name".toList⟩], " $\x7b".toList) := by
  have hfirst : firstPlaceholder? strayBothSides.toList =
      some ("a $\x7b b ".toList, "name".toList, " $\x7b".toList) := by decide
  have hnone : firstPlaceholder? " $\x7b".toList = none := by decide
  rw [cut_of_some hfirst, cut_of_none hnone]

/-- Only the second of two stray openings is reported. -/
theorem reports_trailing_stray_bothSides :
    Usable oneName strayBothSides.toList ∧
    (∀ front name, PlaceholderAt strayBothSides.toList front name → ¬ IsRunning name) ∧
    ∃ front, TrailingStrayAt strayBothSides.toList front ∧
      (Grammar.ofTemplateFrom 0 strayBothSides oneName .default).1 =
        .error (strayError strayBothSides front) := by
  have hpieces : (cut strayBothSides.toList).1.map Piece.name = ["name".toList] := by
    rw [cut_strayBothSides]
    rfl
  obtain ⟨husable, hnames⟩ := usable_oneName hpieces
  have hstray : TrailingStrayAt strayBothSides.toList "a $\x7b b $\x7bname\x7d ".toList := by
    rw [trailingStrayAt_iff, cut_strayBothSides]
    exact ⟨" ".toList, by decide, [], rfl⟩
  rcases reports_trailing_stray husable hnames 0 .default with
    ⟨front, hfront, _, herror⟩ | ⟨hnone, _⟩
  · exact ⟨husable, hnames, front, hfront, herror⟩
  · exact absurd hstray (hnone _)

/-- A stray opening before the only placeholder. -/
def strayBefore : String := "a $\x7b b $\x7bname\x7d"

/-- A template compiles although one of its openings is stray. -/
theorem strayBefore_compiles :
    Usable oneName strayBefore.toList ∧
    (∀ front name, PlaceholderAt strayBefore.toList front name → ¬ IsRunning name) ∧
    (∃ front, StrayAt strayBefore.toList front) ∧
    ∃ g, Grammar.ofTemplate strayBefore oneName .default = .ok g := by
  have hcut : cut strayBefore.toList = ([⟨"a $\x7b b ".toList, "name".toList⟩], []) := by
    have hfirst : firstPlaceholder? strayBefore.toList =
        some ("a $\x7b b ".toList, "name".toList, []) := by decide
    rw [cut_of_some hfirst, cut_of_none rfl]
  have hpieces : (cut strayBefore.toList).1.map Piece.name = ["name".toList] := by
    rw [hcut]
    rfl
  obtain ⟨husable, hnames⟩ := usable_oneName hpieces
  refine ⟨husable, hnames, ?_, ?_⟩
  · rw [exists_strayAt_iff, hcut]
    exact Or.inl ⟨_, List.mem_cons_self, by decide⟩
  · rw [Grammar.ofTemplate, Grammar.ofTemplateFrom, define_eq_compilePieces, hcut]
    exact ⟨_, rfl⟩

/-! ## Running names -/

/-- A template without stray openings compiles unless one of its placeholders has the running name
of one of its words.  Such a name is then reported as a duplicate. -/
theorem ofTemplate_compiles_iff (husable : Usable components template.toList)
    (hopenings : ∀ front, ¬ StrayAt template.toList front) (config : Config) :
    ((∃ g, Grammar.ofTemplate template components config = .ok g) ↔
      ∀ front name, PlaceholderAt template.toList front name →
        ¬ TakesName 0 template.toList (String.ofList name)) ∧
    ∀ error, Grammar.ofTemplate template components config = .error error →
      ∃ front name, PlaceholderAt template.toList front name ∧
        TakesName 0 template.toList (String.ofList name) ∧
        error.kind = .duplicateStep (String.ofList name) template := by
  obtain ⟨hresolved, hdistinct⟩ := usable_iff.1 husable
  rw [Grammar.ofTemplate]
  rcases ofTemplateFrom_cases hresolved 0 config with
    ⟨error, name, herror, hkind, htwice⟩ | ⟨hopening, _⟩ | ⟨_, hnodup, g, hg⟩
  · obtain ⟨htaken, front, hplaceholder⟩ := (duplicate_stepNames_cut_iff hdistinct).1 htwice
    rw [← String.ofList_toList (s := name)] at htaken hkind
    rw [herror]
    refine ⟨⟨?_, fun hfree => absurd htaken (hfree front _ hplaceholder)⟩, ?_⟩
    · rintro ⟨g, hg⟩
      cases hg
    · intro error' herror'
      cases herror'
      exact ⟨front, _, hplaceholder, htaken, hkind⟩
  · obtain ⟨front, hstray⟩ := exists_strayAt_iff.2 (Or.inr hopening)
    exact absurd hstray (hopenings front)
  · rw [hg]
    refine ⟨⟨fun _ front name hplaceholder htaken => ?_, fun _ => ⟨g, rfl⟩⟩, ?_⟩
    · rw [← String.toList_ofList (l := name)] at hplaceholder
      have htwice := (duplicate_stepNames_cut_iff hdistinct).2 ⟨htaken, front, hplaceholder⟩
      exact htwice.not_nodup hnodup
    · intro error herror
      cases herror

/-- Two words and a placeholder of another name are three steps. -/
theorem ofTemplate_compiles_iff_assignment :
    Usable oneName assignment.toList ∧ (∀ front, ¬ StrayAt assignment.toList front) ∧
    ∃ g, Grammar.ofTemplate assignment oneName .default = .ok g := by
  have hpieces : (cut assignment.toList).1.map Piece.name = ["name".toList] := by
    rw [cut_assignment]
    rfl
  obtain ⟨husable, hnames⟩ := usable_oneName hpieces
  have hopenings : ∀ front, ¬ StrayAt assignment.toList front := by
    rw [← not_exists, exists_strayAt_iff, cut_assignment]
    decide
  refine ⟨husable, hopenings, (ofTemplate_compiles_iff husable hopenings .default).1.2 ?_⟩
  rintro front name hplaceholder ⟨k, _, hk⟩
  refine hnames front name hplaceholder ?_
  rw [← String.toList_ofList (l := name), ← hk]
  exact isRunning_runningName k

/-- A word, and a placeholder that has the running name of the word. -/
def numberedPlaceholder : String := "x $\x7b_0\x7d"

/-- The component of the placeholder. -/
def oneNumber : Components := .ofList [("_0", .literal "y")]

/-- A template without stray openings does not compile although its only placeholder has a
component. -/
theorem numberedPlaceholder_clashes :
    Usable oneNumber numberedPlaceholder.toList ∧
    (∀ front, ¬ StrayAt numberedPlaceholder.toList front) ∧
    ∀ g, Grammar.ofTemplate numberedPlaceholder oneNumber .default ≠ .ok g := by
  have hcut : cut numberedPlaceholder.toList = ([⟨"x ".toList, "_0".toList⟩], []) := by
    have hfirst : firstPlaceholder? numberedPlaceholder.toList =
        some ("x ".toList, "_0".toList, []) := by decide
    rw [cut_of_some hfirst, cut_of_none rfl]
  refine ⟨?_, ?_, fun g => ?_⟩
  · rw [usable_iff, hcut]
    decide
  · rw [← not_exists, exists_strayAt_iff, hcut]
    decide
  · have herror : Grammar.ofTemplate numberedPlaceholder oneNumber .default =
        .error (.inTemplate (.duplicateStep "_0" numberedPlaceholder) numberedPlaceholder 4 2) := by
      rw [Grammar.ofTemplate, Grammar.ofTemplateFrom, define_eq_compilePieces, hcut]
      rfl
    rw [herror]
    intro hok
    cases hok

end

end Excerpt.Template
