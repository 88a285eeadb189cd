import Excerpt.Proofs.Grammar.Literals
import Excerpt.Proofs.Matcher.Build
import Excerpt.Proofs.Template.Direct

/-!
# The language of a template

A template whose components are all literals compiles to a sequence of literals, the words of its
text and the components of its placeholders in their order (`exists_steps`).  So the grammar accepts
exactly the renderings of these, and extracts the components under the names of their placeholders
(`exactMatch_ofTemplate`).
-/

namespace Excerpt

namespace Text

/-- The words of a text can be told from the white space around them. -/
theorem isToken_of_mem_words {t word : Text} (h : word ∈ words t) : IsToken word := by
  obtain ⟨hne, hword⟩ := (words_eq_iff.1 rfl).of_mem h
  obtain ⟨ch, rest, rfl⟩ := List.exists_cons_of_ne_nil hne
  exact ⟨ch, rest, rfl, hword ch List.mem_cons_self⟩

end Text

/-! ## Compiling literals -/

/-- The definition of a literal step. -/
def LiteralStep.entry (s : LiteralStep) : Entry Definitions := .matcher s.name (.literal s.text)

theorem compileEntries?_literals (steps : List LiteralStep) (config : Config) :
    compileEntries? (steps.map LiteralStep.entry) config =
      .ok (steps.map LiteralStep.step) := by
  induction steps with
  | nil => rfl
  | cons s steps ih =>
    rw [List.map_cons, LiteralStep.entry, compileEntries?, ih]
    rfl

/-- The grammar of literal definitions is the sequence of the literals, whose names all differ. -/
theorem Grammar.matcher_ofDefinitions_literals {id : String} {steps : List LiteralStep}
    {config : Config} {g : Grammar}
    (h : Grammar.ofDefinitions ⟨some id, steps.map LiteralStep.entry, none⟩ config = .ok g) :
    g.matcher = .sequence id (steps.map LiteralStep.step) config ∧
      (steps.map LiteralStep.name).Nodup := by
  have hnames : (steps.map LiteralStep.step).map Step.name = steps.map LiteralStep.name := by
    rw [List.map_map]
    rfl
  rw [Grammar.ofDefinitions, Definitions.compile?] at h
  simp only [Option.getD_none, compileEntries?_literals, Matcher.sequence?, hnames,
    Option.getD_some] at h
  cases hvalid : validateStepNames id [] (steps.map LiteralStep.name) with
  | error error =>
    rw [hvalid] at h
    cases h
  | ok =>
    rw [hvalid] at h
    cases h
    exact ⟨rfl, (validateStepNames_eq_ok_iff.1 hvalid).2.1⟩

namespace Template

open Text

/-! ## Tokens -/

/-- The steps of words, with running names from `next` on. -/
def wordSteps : Nat → List Text → List LiteralStep
  | _, [] => []
  | next, word :: rest => ⟨s!"_{next}", String.ofList word⟩ :: wordSteps (next + 1) rest

theorem wordEntries_eq (next : Nat) (words : List Text) :
    wordEntries next words = (wordSteps next words).map LiteralStep.entry := by
  induction words generalizing next with
  | nil => rfl
  | cons word rest ih =>
    rw [wordEntries_cons, ih]
    rfl

theorem token_wordSteps (next : Nat) (words : List Text) :
    (wordSteps next words).map LiteralStep.token = words := by
  induction words generalizing next with
  | nil => rfl
  | cons word rest ih =>
    rw [wordSteps, List.map_cons, ih, LiteralStep.token, String.toList_ofList]

theorem isStructural_running (n : Nat) : isStructural s!"_{n}" = true := by
  have hname : s!"_{n}" = "_" ++ toString n := rfl
  rw [isStructural, hname, String.toList_append]
  rfl

theorem filter_wordSteps (next : Nat) (words : List Text) :
    (wordSteps next words).filter (fun s => !isStructural s.name) = [] := by
  induction words generalizing next with
  | nil => rfl
  | cons word rest ih => rw [wordSteps, List.filter_cons, isStructural_running, ih]; rfl

/-- The text of the component of a name, if that is a literal. -/
def componentText (components : Components) (name : Text) : String :=
  match components.get? (String.ofList name) with
  | some (.literal text) => text
  | _ => ""

/-- The tokens of pieces: the words of their texts, each time with the component behind them. -/
def pieceTokens (components : Components) (pieces : List Piece) : List Text :=
  pieces.flatMap fun piece => words piece.text ++ [(componentText components piece.name).toList]

/-- The tokens that a template stands for. -/
def tokens (components : Components) (template : String) : List Text :=
  pieceTokens components (cut template.toList).1 ++ words (cut template.toList).2

/-- The components of pieces under the names of their placeholders, structural names apart. -/
def pieceFields (components : Components) (pieces : List Piece) : Fields :=
  (pieces.filter fun piece => !isStructural (String.ofList piece.name)).map fun piece =>
    (String.ofList piece.name, .string (componentText components piece.name))

/-- The fields that a template extracts. -/
def fields (components : Components) (template : String) : Fields :=
  pieceFields components (cut template.toList).1

/-- All components are literals, and none is empty or begins with white space. -/
def AreTokens (components : Components) : Prop :=
  ∀ name m, components.get? name = some m → ∃ text, m = .literal text ∧ IsToken text.toList

/-! ## Compiling a template -/

section Compile

variable {components : Components} {template : String} {config : Config} {g : Grammar}
  {next next' : Nat}

/-- Literal steps make the tokens `ts` and extract the fields `fs`. -/
structure Spell (steps : List LiteralStep) (ts : List Text) (fs : Fields) : Prop where
  isToken : ∀ s ∈ steps, IsToken s.token
  tokens_eq : steps.map LiteralStep.token = ts
  fields_eq : (steps.filter fun s => !isStructural s.name).map LiteralStep.field = fs

theorem Spell.append {steps steps' : List LiteralStep} {ts ts' : List Text} {fs fs' : Fields}
    (h : Spell steps ts fs) (h' : Spell steps' ts' fs') :
    Spell (steps ++ steps') (ts ++ ts') (fs ++ fs') where
  isToken s hs := (List.mem_append.1 hs).elim (h.isToken s) (h'.isToken s)
  tokens_eq := by rw [List.map_append, h.tokens_eq, h'.tokens_eq]
  fields_eq := by rw [List.filter_append, List.map_append, h.fields_eq, h'.fields_eq]

theorem Spell.cast {steps : List LiteralStep} {ts ts' : List Text} {fs fs' : Fields}
    (h : Spell steps ts fs) (hts : ts = ts') (hfs : fs = fs') : Spell steps ts' fs' :=
  hts ▸ hfs ▸ h

theorem spell_words (next : Nat) (t : Text) : Spell (wordSteps next (words t)) (words t) [] where
  isToken s hs := by
    refine isToken_of_mem_words (t := t) ?_
    rw [← token_wordSteps next (words t)]
    exact List.mem_map_of_mem hs
  tokens_eq := token_wordSteps next (words t)
  fields_eq := by rw [filter_wordSteps]; rfl

theorem spell_placeholder {name : Text} {text : String}
    (hcomponent : components.get? (String.ofList name) = some (.literal text))
    (htext : IsToken text.toList) :
    Spell [⟨String.ofList name, text⟩] [(componentText components name).toList]
      (pieceFields components [⟨[], name⟩]) where
  isToken s hs := by rw [List.mem_singleton.1 hs]; exact htext
  tokens_eq := by rw [componentText, hcomponent]; rfl
  fields_eq := by
    have hsame : componentText components name = text := by rw [componentText, hcomponent]
    rw [pieceFields, List.filter_cons, List.filter_cons]
    cases isStructural (String.ofList name) with
    | true => rfl
    | false => simp [LiteralStep.field, hsame]

theorem pieceFields_cons (components : Components) (piece : Piece) (rest : List Piece) :
    pieceFields components (piece :: rest) =
      pieceFields components [⟨[], piece.name⟩] ++ pieceFields components rest := by
  simp only [pieceFields, List.filter_cons]
  cases isStructural (String.ofList piece.name) <;> rfl

/-- The definitions of pieces are those of the literal steps that they spell. -/
theorem exists_steps_of_compilePieces (hliteral : AreTokens components) {trailing : Text}
    {offset : Nat} {entries : List (Entry Definitions)} {pieces : List Piece} {d : Definitions}
    (h : compilePieces components template trailing offset next entries pieces = (.ok d, next')) :
    ∃ steps, d = ⟨some template, entries ++ steps.map LiteralStep.entry, none⟩ ∧
      Spell steps (pieceTokens components pieces ++ words trailing)
        (pieceFields components pieces) := by
  induction pieces generalizing offset entries next with
  | nil =>
    rw [compilePieces, splitAtBlanks_eq_words] at h
    split at h
    · cases h
    · cases h
      exact ⟨_, by rw [wordEntries_eq], spell_words next trailing⟩
  | cons piece rest ih =>
    rw [compilePieces, splitAtBlanks_eq_words] at h
    cases hcomponent : components.get? (String.ofList piece.name) with
    | none =>
      simp only [hcomponent] at h
      cases h
    | some m =>
      obtain ⟨text, rfl, htext⟩ := hliteral _ _ hcomponent
      simp only [hcomponent] at h
      split at h
      · cases h
      · -- the words of the piece, its placeholder, and the steps of the other pieces
        obtain ⟨steps, rfl, hspell⟩ := ih h
        have hwords := spell_words next piece.text
        have hplaceholder := spell_placeholder hcomponent htext
        refine ⟨_, ?_, (hwords.append (hplaceholder.append hspell)).cast ?_ ?_⟩
        · simp only [wordEntries_eq, List.map_append, List.append_assoc]
          rfl
        · simp [pieceTokens]
        · rw [List.nil_append, ← pieceFields_cons]

/-- A template of literals compiles to the literal steps that it spells. -/
theorem exists_steps (hliteral : AreTokens components)
    (hcompile : Grammar.ofTemplateFrom next template components config = (.ok g, next')) :
    ∃ steps, g.matcher = .sequence template (steps.map LiteralStep.step) config ∧
      (steps.map LiteralStep.name).Nodup ∧
      Spell steps (tokens components template) (fields components template) := by
  rw [Grammar.ofTemplateFrom, define_eq_compilePieces] at hcompile
  cases hpieces : compilePieces components template (cut template.toList).2 0 next []
      (cut template.toList).1 with
  | mk definitions reached =>
    cases definitions with
    | error error =>
      rw [hpieces] at hcompile
      cases hcompile
    | ok d =>
      obtain ⟨steps, rfl, hspell⟩ := exists_steps_of_compilePieces hliteral hpieces
      rw [hpieces] at hcompile
      have hgrammar : Grammar.ofDefinitions ⟨some template, steps.map LiteralStep.entry, none⟩
          config = .ok g := (Prod.mk.inj hcompile).1
      obtain ⟨hmatcher, hnames⟩ := Grammar.matcher_ofDefinitions_literals hgrammar
      exact ⟨steps, hmatcher, hnames, hspell⟩

/-- A grammar made of a template of literals accepts exactly the renderings of the tokens that the
template stands for, these being the texts of its steps, and it extracts the components under the
names of their placeholders. -/
theorem exactMatch_ofTemplate (hliteral : AreTokens components)
    (hcompile : Grammar.ofTemplateFrom next template components config = (.ok g, next'))
    (hsteps : g.matcher.steps? ≠ some []) (text : Text) :
    (∃ steps : List LiteralStep, g.matcher.steps? = some (steps.map LiteralStep.step) ∧
      steps.map LiteralStep.token = tokens components template) ∧
    ((∃ e, g.exactMatch text = some (.ok e)) ↔
      if config.skipsBlanks then Renders true (tokens components template) text
      else text = (tokens components template).flatten) ∧
    ∀ e, g.exactMatch text = some (.ok e) → e.fields = fields components template := by
  obtain ⟨steps, hmatcher, hnames, htokens, htexts, hfields⟩ := exists_steps hliteral hcompile
  have hsteps' : g.matcher.steps? = some (steps.map LiteralStep.step) := by rw [hmatcher]; rfl
  have hne : steps ≠ [] := by
    rintro rfl
    exact hsteps hsteps'
  refine ⟨⟨steps, hsteps', htexts⟩, ?_, fun e hexact => ?_⟩
  · rw [Grammar.exists_exactMatch_literals_iff hmatcher htokens hnames hne, htexts]
    cases config.skipsBlanks with
    | true => exact Iff.rfl
    | false => exact renders_false_iff
  · rw [← hfields]
    exact Grammar.fields_of_exactMatch_literals hmatcher htokens hnames hexact

end Compile

/-- One name, for the text `x`. -/
def oneName : Components := .ofList [("name", .literal "x")]

/-- A template with words on both sides of a placeholder. -/
def assignment : String := "let $\x7bname\x7d ;"

def assignmentSteps : List LiteralStep := [⟨"_0", "let"⟩, ⟨"name", "x"⟩, ⟨"_1", ";"⟩]

def assignmentGrammar : Grammar where
  matcher := .sequence assignment (assignmentSteps.map LiteralStep.step) .default
  config := .default
  definitions := some ⟨some assignment, assignmentSteps.map LiteralStep.entry, none⟩
  rules := []

theorem cut_assignment :
    cut assignment.toList = ([⟨"let ".toList, "name".toList⟩], " ;".toList) := by
  have hfirst : firstPlaceholder? assignment.toList =
      some ("let ".toList, "name".toList, " ;".toList) := by decide
  have hnone : firstPlaceholder? " ;".toList = none := by decide
  rw [cut_of_some hfirst, cut_of_none hnone]

theorem exactMatch_ofTemplate_assignment :
    AreTokens oneName ∧
    Grammar.ofTemplateFrom 0 assignment oneName .default = (.ok assignmentGrammar, 2) ∧
    assignmentGrammar.matcher.steps? ≠ some [] ∧
    ∀ text, ((∃ e, assignmentGrammar.exactMatch text = some (.ok e)) ↔
        Renders true ["let".toList, "x".toList, ";".toList] text) ∧
      ∀ e, assignmentGrammar.exactMatch text = some (.ok e) →
        e.fields = [("name", .string "x")] := by
  have hliteral : AreTokens oneName := by
    intro name m hget
    have hentries : oneName.entries = [("name", .literal "x")] := rfl
    rw [Components.get?, hentries] at hget
    obtain ⟨entry, hfind, rfl⟩ := Option.map_eq_some_iff.1 hget
    rw [List.mem_singleton.1 (List.mem_of_find?_eq_some hfind)]
    exact ⟨"x", rfl, 'x', [], rfl, by decide⟩
  have hcompile : Grammar.ofTemplateFrom 0 assignment oneName .default =
      (.ok assignmentGrammar, 2) := by
    rw [Grammar.ofTemplateFrom, define_eq_compilePieces, cut_assignment]
    rfl
  have htokens : tokens oneName assignment = ["let".toList, "x".toList, ";".toList] := by
    rw [tokens, cut_assignment]
    rfl
  have hfields : fields oneName assignment = [("name", .string "x")] := by
    rw [fields, cut_assignment]
    rfl
  have hsteps : assignmentGrammar.matcher.steps? ≠ some [] := by
    simp [assignmentGrammar, assignmentSteps, Matcher.steps?, Matcher.asSequence?]
  refine ⟨hliteral, hcompile, hsteps, fun text => ?_⟩
  obtain ⟨_, haccepts, hextracts⟩ := exactMatch_ofTemplate hliteral hcompile hsteps text
  rw [htokens] at haccepts
  rw [hfields] at hextracts
  exact ⟨haccepts, hextracts⟩

end Template

end Excerpt
