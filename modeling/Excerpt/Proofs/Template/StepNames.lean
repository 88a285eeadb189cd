import Mathlib.Data.List.Duplicate
import Excerpt.Proofs.Template.Language
import Excerpt.Proofs.Template.Openings

/-!
# The step names of a template

A template takes the names of its steps from two supplies: the words of its literal text are
numbered, and the placeholders bring their own names.  `duplicate_stepNames_iff` says when the two
meet.  `ofTemplateFrom_cases` says what becomes of a template whose placeholders all have a
component: a name that is there twice is reported, or an opening in the trailing text is, or the
template compiles.
-/

namespace Excerpt

/-! ## Duplicates -/

section Duplicates

variable {α : Type} {a : α} {l l' : List α}

theorem duplicate_append_of_mem (h : a ∈ l) (h' : a ∈ l') : List.Duplicate a (l ++ l') := by
  have hboth : ([a] ++ [a]).Sublist (l ++ l') :=
    (List.singleton_sublist.2 h).append (List.singleton_sublist.2 h')
  exact List.duplicate_iff_sublist.2 hboth

/-- Two lists without duplicates have those together that they share. -/
theorem duplicate_append_iff [DecidableEq α] (hl : l.Nodup) (hl' : l'.Nodup) :
    List.Duplicate a (l ++ l') ↔ a ∈ l ∧ a ∈ l' := by
  constructor
  · intro h
    have hcount := List.duplicate_iff_two_le_count.1 h
    have hone := List.nodup_iff_count_le_one.1 hl a
    have hone' := List.nodup_iff_count_le_one.1 hl' a
    rw [List.count_append] at hcount
    refine ⟨List.count_pos_iff.1 ?_, List.count_pos_iff.1 ?_⟩ <;> omega
  · intro h
    exact duplicate_append_of_mem h.1 h.2

end Duplicates

/-- Valid step names are accepted unless one is there twice, and then such a name is reported. -/
theorem validateStepNames_cases {owner : String} {seen names : List String}
    (hvalid : ∀ name ∈ names, validateStepName name = .ok ()) :
    validateStepNames owner seen names = .ok () ∨
      ∃ name, validateStepNames owner seen names = .error (.duplicateStep name owner) ∧
        List.Duplicate name (seen.reverse ++ names) := by
  induction names generalizing seen with
  | nil => exact Or.inl rfl
  | cons name rest ih =>
    simp only [validateStepNames, hvalid name List.mem_cons_self, List.contains_iff_mem]
    by_cases hseen : name ∈ seen
    · rw [if_pos hseen]
      have hduplicate := duplicate_append_of_mem (List.mem_reverse.2 hseen)
        (List.mem_cons_self (a := name) (l := rest))
      exact Or.inr ⟨name, rfl, hduplicate⟩
    · rw [if_neg hseen]
      have hrest := @ih (name :: seen) fun name' h => hvalid name' (List.mem_cons_of_mem _ h)
      rwa [List.reverse_cons, List.append_assoc, List.singleton_append] at hrest

/-! ## Terms -/

/-- The entry matches, and is nothing else. -/
def Entry.IsTerm {δ : Type} : Entry δ → Prop
  | matcher _ _ => True
  | _ => False

/-- Terms become steps of their names. -/
theorem exists_steps_of_isTerm {entries : List (Entry Definitions)}
    (h : ∀ entry ∈ entries, entry.IsTerm) (config : Config) :
    ∃ steps, compileEntries? entries config = .ok steps ∧
      steps.map Step.name = entries.map Entry.name := by
  induction entries with
  | nil => exact ⟨[], rfl, rfl⟩
  | cons entry entries ih =>
    obtain ⟨steps, hsteps, hnames⟩ := ih fun e he => h e (List.mem_cons_of_mem _ he)
    have hterm := h entry List.mem_cons_self
    cases entry with
    | matcher name m =>
      refine ⟨.take name m :: steps, ?_, ?_⟩
      · rw [compileEntries?, hsteps]
        rfl
      · rw [List.map_cons, List.map_cons, hnames]
        rfl
    | nested name definitions => exact hterm.elim
    | veto name accepts => exact hterm.elim
    | alter name value => exact hterm.elim

/-- Terms with valid names compile unless a name is there twice, and then such a name is
reported. -/
theorem Grammar.ofDefinitions_cases {id : String} {entries : List (Entry Definitions)}
    (hterms : ∀ entry ∈ entries, entry.IsTerm)
    (hvalid : ∀ name ∈ entries.map Entry.name, validateStepName name = .ok ()) (config : Config) :
    ((entries.map Entry.name).Nodup ∧ ∃ g, Grammar.ofDefinitions ⟨some id, entries, none⟩ config =
        .ok g) ∨
      ∃ name, Grammar.ofDefinitions ⟨some id, entries, none⟩ config =
          .error (.ofKind (.duplicateStep name id)) ∧
        List.Duplicate name (entries.map Entry.name) := by
  obtain ⟨steps, hsteps, hnames⟩ := exists_steps_of_isTerm hterms config
  simp only [Grammar.ofDefinitions, Definitions.compile?, Option.getD_none, hsteps,
    Matcher.sequence?, hnames, Option.getD_some]
  rcases @validateStepNames_cases id [] _ hvalid with hok | ⟨name, herror, htwice⟩
  · rw [hok]
    exact Or.inl ⟨(validateStepNames_eq_ok_iff.1 hok).2.1, _, rfl⟩
  · rw [herror]
    exact Or.inr ⟨name, rfl, htwice⟩

namespace Template

open Text

/-! ## Running names -/

/-- The name of a literal step. -/
def runningName (n : Nat) : String := s!"_{n}"

/-- A name that looks like that of a literal step. -/
def IsRunning (name : Text) : Prop :=
  ∃ digits, digits ≠ [] ∧ (∀ ch ∈ digits, ch.isDigit = true) ∧ name = '_' :: digits

theorem toList_runningName (n : Nat) : (runningName n).toList = '_' :: Nat.toDigits 10 n := by
  have hname : runningName n = "_" ++ n.repr := rfl
  rw [hname, String.toList_append, Nat.toList_repr]
  rfl

theorem isRunning_runningName (n : Nat) : IsRunning (runningName n).toList :=
  ⟨Nat.toDigits 10 n, Nat.toDigits_ne_nil,
    fun _ hch => Nat.isDigit_of_mem_toDigits (by decide) (by decide) hch, toList_runningName n⟩

theorem runningName_injective : Function.Injective runningName := by
  intro m n h
  have hlist := congrArg String.toList h
  rw [toList_runningName, toList_runningName, List.cons.injEq] at hlist
  have hread := congrArg (fun digits => Nat.ofDigitChars 10 digits 0) hlist.2
  simpa [Nat.ofDigitChars_toDigits] using hread

theorem isName_of_isRunning {name : Text} (h : IsRunning name) : IsName name := by
  obtain ⟨digits, _, hdigits, rfl⟩ := h
  refine ⟨List.cons_ne_nil _ _, fun ch hch => ?_⟩
  rcases List.mem_cons.1 hch with rfl | hch
  · decide
  · simp [isStepChar, Char.isAlphanum, hdigits ch hch]

theorem validateStepName_of_isName {name : Text} (h : IsName name) :
    validateStepName (String.ofList name) = .ok () := by
  have hne : (String.ofList name).isEmpty = false := by
    simpa [String.isEmpty_iff, ← String.toList_inj] using h.1
  have hall : (String.ofList name).toList.all isStepChar = true := by
    rw [String.toList_ofList, List.all_eq_true]
    exact h.2
  rw [validateStepName, hne, hall]
  rfl

theorem validateStepName_runningName (n : Nat) : validateStepName (runningName n) = .ok () := by
  have hvalid := validateStepName_of_isName (isName_of_isRunning (isRunning_runningName n))
  rwa [String.ofList_toList] at hvalid

/-- The names of some literal steps, numbered from `next` on. -/
def runningNames (next count : Nat) : List String := (List.range' next count).map runningName

theorem mem_runningNames {next count : Nat} {name : String} :
    name ∈ runningNames next count ↔ ∃ k, (next ≤ k ∧ k < next + count) ∧ runningName k = name := by
  simp only [runningNames, List.mem_map, List.mem_range'_1]

theorem nodup_runningNames (next count : Nat) : (runningNames next count).Nodup :=
  (List.nodup_range' 1).map runningName_injective

theorem runningNames_append (next count count' : Nat) :
    runningNames next count ++ runningNames (next + count) count' =
      runningNames next (count + count') := by
  rw [runningNames, runningNames, ← List.map_append, List.range'_append_1, runningNames]

theorem names_wordEntries (next : Nat) (ws : List Text) :
    (wordEntries next ws).map Entry.name = runningNames next ws.length := by
  induction ws generalizing next with
  | nil => rfl
  | cons word rest ih =>
    rw [wordEntries_cons, List.map_cons, ih]
    rfl

theorem isTerm_of_mem_wordEntries {next : Nat} {ws : List Text} {entry : Entry Definitions}
    (h : entry ∈ wordEntries next ws) : entry.IsTerm := by
  induction ws generalizing next with
  | nil => cases h
  | cons word rest ih =>
    rw [wordEntries_cons] at h
    rcases List.mem_cons.1 h with rfl | h
    · trivial
    · exact ih h

/-! ## The names of all steps -/

/-- The words of the literal text of pieces and of the text behind them. -/
def literalWords (pieces : List Piece) (trailing : Text) : List Text :=
  (pieces.flatMap fun piece => words piece.text) ++ words trailing

/-- The names of the steps of pieces and of the text behind them, in order. -/
def stepNames (trailing : Text) : Nat → List Piece → List String
  | next, [] => runningNames next (words trailing).length
  | next, piece :: rest =>
    runningNames next (words piece.text).length ++
      String.ofList piece.name :: stepNames trailing (next + (words piece.text).length) rest

theorem stepNames_perm (trailing : Text) (next : Nat) (pieces : List Piece) :
    (stepNames trailing next pieces).Perm
      (runningNames next (literalWords pieces trailing).length ++
        (pieces.map Piece.name).map String.ofList) := by
  induction pieces generalizing next with
  | nil => simp [stepNames, literalWords]
  | cons piece rest ih =>
    have hlength : (literalWords (piece :: rest) trailing).length =
        (words piece.text).length + (literalWords rest trailing).length := by
      simp [literalWords]
    rw [stepNames, hlength, ← runningNames_append, List.append_assoc, List.map_cons, List.map_cons]
    exact (((ih _).cons _).trans List.perm_middle.symm).append_left _

/-- The two supplies of names meet where a placeholder has the running name of a word. -/
theorem duplicate_stepNames_iff {trailing : Text} {next : Nat} {pieces : List Piece}
    (hdistinct : (pieces.map Piece.name).Nodup) {name : String} :
    List.Duplicate name (stepNames trailing next pieces) ↔
      (∃ k, (next ≤ k ∧ k < next + (literalWords pieces trailing).length) ∧
        runningName k = name) ∧ name.toList ∈ pieces.map Piece.name := by
  have hinjective : Function.Injective String.ofList := fun _ _ h => String.ofList_injective h
  have hnames : ((pieces.map Piece.name).map String.ofList).Nodup := hdistinct.map hinjective
  have hmem : name ∈ (pieces.map Piece.name).map String.ofList ↔
      name.toList ∈ pieces.map Piece.name := by
    rw [← List.mem_map_of_injective hinjective, String.ofList_toList]
  rw [List.duplicate_iff_two_le_count, (stepNames_perm trailing next pieces).count_eq,
    ← List.duplicate_iff_two_le_count, duplicate_append_iff (nodup_runningNames _ _) hnames,
    mem_runningNames, hmem]

/-! ## Outcomes -/

/-- The error that points at the opening behind `front`. -/
def strayError (template : String) (front : Text) : GrammarError :=
  .inTemplate (.malformedTemplate template) template (byteLength front) 2

/-- The result is an error about one of the names of a template, which is there twice. -/
def ReportsDuplicate {α : Type} (template : String) (names : List String)
    (result : Except GrammarError α) : Prop :=
  ∃ error name, result = .error error ∧ error.kind = .duplicateStep name template ∧
    List.Duplicate name names

section Outcomes

variable {components : Components} {template : String}

/-- The definitions of pieces behind `front` whose components are all there: a name that is there
twice is reported, or else an opening in the trailing text, or else there is a term for each
name. -/
theorem compilePieces_cases (front trailing : Text) (next : Nat)
    (entries : List (Entry Definitions)) {pieces : List Piece}
    (hresolved : ∀ piece ∈ pieces, (components.get? (String.ofList piece.name)).isSome = true)
    (hterms : ∀ entry ∈ entries, entry.IsTerm) :
    ReportsDuplicate template (entries.map Entry.name ++ stepNames trailing next pieces)
      (compilePieces components template trailing (byteLength front) next entries pieces).1 ∨
    (occursIn opening.toList trailing = true ∧
      (compilePieces components template trailing (byteLength front) next entries pieces).1 =
        .error (strayError template
          (front ++ (piecesText pieces ++ before opening.toList trailing)))) ∨
    (occursIn opening.toList trailing = false ∧ ∃ made,
      (compilePieces components template trailing (byteLength front) next entries pieces).1 =
        .ok ⟨some template, made, none⟩ ∧ (∀ entry ∈ made, entry.IsTerm) ∧
      made.map Entry.name = entries.map Entry.name ++ stepNames trailing next pieces) := by
  induction pieces generalizing front next entries with
  | nil =>
    rw [compilePieces, splitAtBlanks_eq_words, beforeOpening?_eq]
    by_cases hopening : occursIn opening.toList trailing = true
    · rw [if_pos hopening]
      refine Or.inr (Or.inl ⟨hopening, ?_⟩)
      rw [strayError, piecesText, List.flatMap_nil, List.nil_append, byteLength_append]
      rfl
    · rw [if_neg hopening]
      refine Or.inr (Or.inr ⟨Bool.eq_false_iff.2 hopening, _, rfl, ?_, ?_⟩)
      · exact List.forall_mem_append.2 ⟨hterms, fun _ h => isTerm_of_mem_wordEntries h⟩
      · rw [List.map_append, names_wordEntries, stepNames]
  | cons piece rest ih =>
    have hsome := hresolved piece List.mem_cons_self
    obtain ⟨m, hm⟩ := Option.isSome_iff_exists.1 hsome
    simp only [compilePieces, splitAtBlanks_eq_words, hm]
    by_cases hseen : String.ofList piece.name ∈
        (entries ++ wordEntries next (words piece.text)).map Entry.name
    · rw [if_pos hseen]
      refine Or.inl ⟨_, _, rfl, rfl, ?_⟩
      rw [List.map_append, names_wordEntries] at hseen
      rw [stepNames, ← List.append_assoc]
      exact duplicate_append_of_mem hseen List.mem_cons_self
    · rw [if_neg hseen]
      have hterms' : ∀ entry ∈ entries ++ wordEntries next (words piece.text) ++
          [.matcher (String.ofList piece.name) m], entry.IsTerm := by
        refine List.forall_mem_append.2 ⟨List.forall_mem_append.2 ⟨hterms, fun _ h =>
          isTerm_of_mem_wordEntries h⟩, fun entry hentry => ?_⟩
        rw [List.mem_singleton.1 hentry]
        trivial
      -- the rest stands behind the placeholder, and has the other names
      have hoffset : byteLength front + byteLength piece.text + 2 + byteLength piece.name + 1 =
          byteLength (front ++ (piece.text ++ placeholderText piece.name)) := by
        rw [byteLength_append, byteLength_append, byteLength_placeholderText]
        omega
      have hrest := ih (front ++ (piece.text ++ placeholderText piece.name))
        (next + (words piece.text).length) _
        (fun piece' h => hresolved piece' (List.mem_cons_of_mem _ h)) hterms'
      rw [← hoffset] at hrest
      simpa only [List.map_append, names_wordEntries, List.map_cons, List.map_nil, Entry.name,
        stepNames, piecesText_cons, List.append_assoc, List.singleton_append] using hrest

theorem validateStepName_of_mem_stepNames {trailing : Text} {next : Nat} {pieces : List Piece}
    (hpieces : ∀ name ∈ pieces.map Piece.name, IsName name) {name : String}
    (h : name ∈ stepNames trailing next pieces) : validateStepName name = .ok () := by
  rw [(stepNames_perm trailing next pieces).mem_iff, List.mem_append, mem_runningNames,
    List.mem_map] at h
  rcases h with ⟨k, _, rfl⟩ | ⟨name', hname', rfl⟩
  · exact validateStepName_runningName k
  · exact validateStepName_of_isName (hpieces name' hname')

/-- A template whose placeholders all have a component: a step name that is there twice is
reported, or else an opening in the trailing text, or else the template compiles. -/
theorem ofTemplateFrom_cases
    (hresolved : ∀ piece ∈ (cut template.toList).1,
      (components.get? (String.ofList piece.name)).isSome = true) (next : Nat) (config : Config) :
    ReportsDuplicate template (stepNames (cut template.toList).2 next (cut template.toList).1)
      (Grammar.ofTemplateFrom next template components config).1 ∨
    (occursIn opening.toList (cut template.toList).2 = true ∧
      (Grammar.ofTemplateFrom next template components config).1 =
        .error (strayError template
          (piecesText (cut template.toList).1 ++
            before opening.toList (cut template.toList).2))) ∨
    (occursIn opening.toList (cut template.toList).2 = false ∧
      (stepNames (cut template.toList).2 next (cut template.toList).1).Nodup ∧
      ∃ g, (Grammar.ofTemplateFrom next template components config).1 = .ok g) := by
  have hnames : ∀ name ∈ (cut template.toList).1.map Piece.name, IsName name := by
    intro name hname
    obtain ⟨_, hplaceholder⟩ := exists_placeholderAt_iff.2 hname
    exact hplaceholder.1
  rw [Grammar.ofTemplateFrom, define_eq_compilePieces]
  rcases @compilePieces_cases components template [] (cut template.toList).2 next [] _ hresolved
      (by simp) with
    ⟨error, name, herror, hkind, htwice⟩ | ⟨hopening, herror⟩ |
      ⟨hopening, made, hmade, hterms, hmadeNames⟩
  · rw [byteLength_nil] at herror
    simp only [herror]
    exact Or.inl ⟨error, name, rfl, hkind, htwice⟩
  · rw [byteLength_nil] at herror
    simp only [herror]
    exact Or.inr (Or.inl ⟨hopening, rfl⟩)
  · rw [byteLength_nil] at hmade
    rw [List.map_nil, List.nil_append] at hmadeNames
    simp only [hmade, ← hmadeNames]
    have hvalid : ∀ name ∈ made.map Entry.name, validateStepName name = .ok () := by
      intro name hname
      exact validateStepName_of_mem_stepNames hnames (hmadeNames ▸ hname)
    rcases @Grammar.ofDefinitions_cases template _ hterms hvalid config with
      ⟨hnodup, hg⟩ | ⟨name, herror, htwice⟩
    · exact Or.inr (Or.inr ⟨hopening, hnodup, hg⟩)
    · exact Or.inl ⟨_, name, herror, rfl, htwice⟩

end Outcomes

end Template

end Excerpt
