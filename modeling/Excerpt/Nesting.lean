/-!
# Nested delimiters

Counting opening and closing delimiters, without those that stand in strings and comments.

A `ContentMachine` is fed one character at a time and says after each whether it was ordinary
content.  `cFamily` knows the strings, character literals and comments of C and its relatives;
`plainText` takes every character for content.  `NestingDepth` counts the delimiters among ordinary
characters on top of a content machine: the machine sees each character first.
-/

namespace Excerpt

/-- Lexical rules with states `σ`. -/
structure ContentMachine (σ : Type) where
  start : σ
  step : σ → Char → σ
  /-- The state is that of ordinary content, where delimiters count. -/
  isNormal : σ → Bool

/-- The state after a text. -/
def ContentMachine.run {σ : Type} (machine : ContentMachine σ) (state : σ) (text : List Char) : σ :=
  text.foldl machine.step state

/-! ## C and its relatives -/

/-- Where in the source text of a C-like language a character stands. -/
inductive CFamilyState where
  | normal
  /-- After a slash, which may open a comment. -/
  | slashSeen
  | inString
  /-- After a backslash in a string. -/
  | stringEscape
  | inCharLiteral
  /-- After a backslash in a character literal. -/
  | charEscape
  | lineComment
  | blockComment
  /-- After a star in a block comment, which a slash closes. -/
  | blockCommentStar
  deriving DecidableEq, Repr

namespace CFamilyState

/-- The state after a character in ordinary content. -/
def afterNormal (c : Char) : CFamilyState :=
  if c = '"' then inString
  else if c = '\'' then inCharLiteral
  else if c = '/' then slashSeen
  else normal

/-- The state after one more character. -/
def step : CFamilyState → Char → CFamilyState
  | normal, c => afterNormal c
  | slashSeen, c => if c = '/' then lineComment else if c = '*' then blockComment else afterNormal c
  | inString, c => if c = '\\' then stringEscape else if c = '"' then normal else inString
  | stringEscape, _ => inString
  | inCharLiteral, c =>
    if c = '\\' then charEscape else if c = '\'' then normal else inCharLiteral
  | charEscape, _ => inCharLiteral
  | lineComment, c => if c = '\n' then normal else lineComment
  | blockComment, c => if c = '*' then blockCommentStar else blockComment
  | blockCommentStar, c =>
    if c = '/' then normal else if c = '*' then blockCommentStar else blockComment

/-- A slash is ordinary until the next character makes it a comment. -/
def isNormal : CFamilyState → Bool
  | normal => true
  | slashSeen => true
  | _ => false

end CFamilyState

/-- Strings, character literals and comments of C and its relatives. -/
def cFamily : ContentMachine CFamilyState where
  start := .normal
  step := CFamilyState.step
  isNormal := CFamilyState.isNormal

/-- Every character is ordinary content. -/
def plainText : ContentMachine Unit where
  start := ()
  step _ _ := ()
  isNormal _ := true

/-! ## Delimiters -/

/-- A pair of delimiters. -/
inductive Delimiters where
  /-- Curly brackets. -/
  | block
  | parens
  | brackets
  deriving DecidableEq, Repr

namespace Delimiters

/-- The opening delimiter. -/
def opener : Delimiters → Char
  | block => '\x7b'
  | parens => '('
  | brackets => '['

/-- The closing delimiter. -/
def closer : Delimiters → Char
  | block => '\x7d'
  | parens => ')'
  | brackets => ']'

theorem opener_ne_closer (d : Delimiters) : d.opener ≠ d.closer := by
  cases d <;> decide

end Delimiters

/-! ## Depth -/

/-- The state of a content machine and the number of delimiters still open. -/
structure NestingDepth (σ : Type) where
  content : σ
  /-- Negative after more closing than opening delimiters. -/
  depth : Int
  deriving Repr

/-- How much a character changes the depth: nothing unless it is ordinary content. -/
def Delimiters.change (d : Delimiters) (isNormal : Bool) (c : Char) : Int :=
  if isNormal then if c = d.opener then 1 else if c = d.closer then -1 else 0 else 0

namespace NestingDepth

variable {σ : Type}

/-- Before the first character. -/
def start (machine : ContentMachine σ) : NestingDepth σ := ⟨machine.start, 0⟩

/-- After one more character: the content machine sees it before it is counted. -/
def step (machine : ContentMachine σ) (d : Delimiters) (s : NestingDepth σ) (c : Char) :
    NestingDepth σ :=
  let content := machine.step s.content c
  ⟨content, s.depth + d.change (machine.isNormal content) c⟩

/-- After a text. -/
def run (machine : ContentMachine σ) (d : Delimiters) (s : NestingDepth σ) (text : List Char) :
    NestingDepth σ :=
  text.foldl (step machine d) s

/-- The shortest non-empty front of a text after which the depth is zero. -/
def balancedFront? (machine : ContentMachine σ) (d : Delimiters) :
    NestingDepth σ → List Char → Option (List Char)
  | _, [] => none
  | s, c :: rest =>
    let next := step machine d s c
    if next.depth = 0 then some [c]
    else (balancedFront? machine d next rest).map (c :: ·)

end NestingDepth

/-! ## Content rules by name -/

/-- Which characters of a balanced text are ordinary content. -/
inductive Content where
  /-- Strings, character literals and comments of C and its relatives are not. -/
  | cFamily
  /-- All are. -/
  | plain
  /-- Rules with a name of their own: whether the character read last is ordinary, given all
  characters read so far, the last one first. -/
  | custom (name : String) (isNormal : List Char → Bool)

namespace Content

/-- The rules of a content machine, under a name. -/
def ofMachine {σ : Type} (name : String) (machine : ContentMachine σ) : Content :=
  .custom name fun read => machine.isNormal (read.foldr (fun c s => machine.step s c) machine.start)

/-- Custom rules as a machine: its state is what was read. -/
def historyMachine (isNormal : List Char → Bool) : ContentMachine (List Char) where
  start := []
  step read c := c :: read
  isNormal := isNormal

/-- The balanced text at the front of a text, under the rules. -/
def balancedFront? (content : Content) (d : Delimiters) (text : List Char) : Option (List Char) :=
  match content with
  | .cFamily => NestingDepth.balancedFront? Excerpt.cFamily d (.start Excerpt.cFamily) text
  | .plain => NestingDepth.balancedFront? plainText d (.start plainText) text
  | .custom _ isNormal =>
    let machine := historyMachine isNormal
    NestingDepth.balancedFront? machine d (.start machine) text

end Content

end Excerpt
