import Excerpt.Nesting
import Mathlib.Data.List.Infix
import Mathlib.Tactic.SplitIfs

/-!
# Lexemes

The source text of a C-like language is a row of lexemes: single characters of code, slashes that
open no comment, literals in quotes, and comments.  `run_lexemes` says what a nesting machine with
the content rules `cFamily` makes of such a text: its depth counts the delimiters among the
characters of code and no others, and it ends as it would behind the last lexeme alone.

`Hidden d s t s'` relates two states of the content rules where the text `t` leads from `s` to `s'`
and none of its characters counts.  Literals and comments are hidden (`hidden_text`), and so is
every front of them (`Hidden.front`).  A row of lexemes is then gone through one by one: before each
of them the machine is in a state in which it begins as it would after code (`ReadyFor`).
-/

namespace Excerpt

/-! ## Rows of lexemes -/

/-- The two kinds of literals in quotes. -/
inductive Quote where
  | double
  | single
  deriving DecidableEq, Repr

namespace Quote

/-- The quotation mark. -/
def mark : Quote → Char
  | double => '"'
  | single => '\''

/-- The state inside a literal. -/
def inside : Quote → CFamilyState
  | double => .inString
  | single => .inCharLiteral

/-- The state after a backslash in a literal. -/
def escaped : Quote → CFamilyState
  | double => .stringEscape
  | single => .charEscape

end Quote

/-- A character in a literal, as it is written there. -/
inductive QuotedChar (q : Quote) where
  | plain (c : Char) (hbackslash : c ≠ '\\') (hmark : c ≠ q.mark)
  /-- Any character behind a backslash. -/
  | escape (c : Char)

/-- How a character is written in a literal. -/
def QuotedChar.text {q : Quote} : QuotedChar q → List Char
  | plain c _ _ => [c]
  | escape c => ['\\', c]

/-- A part of a source text that is read as a whole. -/
inductive Lexeme where
  /-- A character that begins neither a literal nor a comment. -/
  | code (c : Char) (hdouble : c ≠ '"') (hsingle : c ≠ '\'') (hslash : c ≠ '/')
  /-- A slash that opens no comment. -/
  | slash
  | literal (q : Quote) (body : List (QuotedChar q))
  /-- A comment up to the end of its line. -/
  | lineComment (body : List Char) (hbody : '\n' ∉ body)
  /-- A comment up to the first star with a slash behind it. -/
  | blockComment (body : List Char) (hbody : ¬ ['*', '/'] <:+: body)

namespace Lexeme

/-- The text of a lexeme. -/
def text : Lexeme → List Char
  | code c _ _ _ => [c]
  | slash => ['/']
  | literal q body => q.mark :: (body.flatMap QuotedChar.text ++ [q.mark])
  | lineComment body _ => '/' :: '/' :: (body ++ ['\n'])
  | blockComment body _ => '/' :: '*' :: (body ++ ['*', '/'])

/-- The character of code that a lexeme is. -/
def code? : Lexeme → Option Char
  | code c _ _ _ => some c
  | _ => none

/-- The state of the content rules behind a lexeme. -/
def stateBehind : Lexeme → CFamilyState
  | slash => .slashSeen
  | _ => .normal

/-- The text of a row of lexemes. -/
def rowText (row : List Lexeme) : List Char := row.flatMap text

/-- The state of the content rules behind a row of lexemes that they begin in the state `s`. -/
def rowState (s : CFamilyState) (row : List Lexeme) : CFamilyState :=
  (row.getLast?.map stateBehind).getD s

/-- In a row of lexemes no slash stands before a slash or a star, with which it would open a
comment. -/
def Separated : List Lexeme → Prop
  | [] => True
  | l :: row => (l = slash → ∀ c, (rowText row).head? = some c → c ≠ '/' ∧ c ≠ '*') ∧ Separated row

/-- The number of openers among the characters of code in a row of lexemes, less that of closers. -/
def codeDepth (d : Delimiters) (row : List Lexeme) : Int :=
  (row.filterMap code?).count d.opener - (row.filterMap code?).count d.closer

end Lexeme

/-! ## Characters that do not count -/

namespace CFamilyState

/-- A character that is neither code before nor behind it does not count, and the characters that
end a literal or a comment are no delimiters. -/
theorem change_step_of_not_isNormal (d : Delimiters) {s : CFamilyState} (c : Char)
    (h : s.isNormal = false) : d.change (s.step c).isNormal c = 0 := by
  have hends : (s.step c).isNormal = true → c = '"' ∨ c = '\'' ∨ c = '\n' ∨ c = '/' := by
    cases s with
    | normal | slashSeen => cases h
    | stringEscape | charEscape => exact fun hnormal => by cases hnormal
    | inString | inCharLiteral | lineComment | blockComment | blockCommentStar =>
      simp only [step]
      split_ifs <;> simp_all [isNormal]
  rw [Delimiters.change]
  split
  · rename_i hnormal
    rcases hends hnormal with rfl | rfl | rfl | rfl <;> cases d <;> rfl
  · rfl

end CFamilyState

/-- The text `t` leads the content rules from `s` to `s'`, and no character of it counts. -/
inductive Hidden (d : Delimiters) : CFamilyState → List Char → CFamilyState → Prop
  | nil (s : CFamilyState) : Hidden d s [] s
  | cons {s s' : CFamilyState} {c : Char} {t : List Char}
    (hchange : d.change (s.step c).isNormal c = 0) (h : Hidden d (s.step c) t s') :
    Hidden d s (c :: t) s'

namespace Hidden

variable {d : Delimiters} {s s' s'' : CFamilyState} {t t' : List Char} {c : Char}

/-- A hidden text leaves the depth as it is. -/
theorem run_eq (h : Hidden d s t s') (depth : Int) :
    NestingDepth.run cFamily d ⟨s, depth⟩ t = ⟨s', depth⟩ := by
  induction h with
  | nil s => rfl
  | @cons s s' c t hchange h ih =>
    have hstep : NestingDepth.step cFamily d ⟨s, depth⟩ c = ⟨s.step c, depth⟩ := by
      show NestingDepth.mk (s.step c) (depth + d.change (s.step c).isNormal c) = _
      rw [hchange, Int.add_zero]
    show NestingDepth.run cFamily d (NestingDepth.step cFamily d ⟨s, depth⟩ c) t = _
    rw [hstep, ih]

/-- A front of a hidden text is hidden. -/
theorem front (h : Hidden d s t s') (hfront : t' <+: t) : ∃ between, Hidden d s t' between := by
  induction h generalizing t' with
  | nil s =>
    rw [List.prefix_nil.1 hfront]
    exact ⟨s, .nil s⟩
  | cons hchange _ ih =>
    rcases List.prefix_cons_iff.1 hfront with rfl | ⟨t'', rfl, hfront'⟩
    · exact ⟨_, .nil _⟩
    · obtain ⟨between, hbetween⟩ := ih hfront'
      exact ⟨between, .cons hchange hbetween⟩

/-- One character inside a literal or a comment, and what follows it. -/
theorem inner (hnormal : s.isNormal = false) (hstep : s.step c = s') (h : Hidden d s' t s'') :
    Hidden d s (c :: t) s'' := by
  subst hstep
  exact .cons (CFamilyState.change_step_of_not_isNormal d c hnormal) h

end Hidden

/-! ## Literals and comments -/

namespace Quote

theorem isNormal_inside (q : Quote) : q.inside.isNormal = false := by cases q <;> rfl

theorem isNormal_escaped (q : Quote) : q.escaped.isNormal = false := by cases q <;> rfl

theorem step_inside_mark (q : Quote) : q.inside.step q.mark = .normal := by cases q <;> rfl

theorem step_inside_backslash (q : Quote) : q.inside.step '\\' = q.escaped := by cases q <;> rfl

theorem step_escaped (q : Quote) (c : Char) : q.escaped.step c = q.inside := by cases q <;> rfl

theorem step_inside (q : Quote) {c : Char} (hbackslash : c ≠ '\\') (hmark : c ≠ q.mark) :
    q.inside.step c = q.inside := by
  cases q with
  | double | single =>
    simp only [mark] at hmark
    simp [inside, CFamilyState.step, hbackslash, hmark]

end Quote

section Bodies

variable {d : Delimiters}

/-- The rest of a literal, from inside it to its end. -/
theorem hidden_quoted {q : Quote} (body : List (QuotedChar q)) :
    Hidden d q.inside (body.flatMap QuotedChar.text ++ [q.mark]) .normal := by
  induction body with
  | nil => exact .inner q.isNormal_inside q.step_inside_mark (.nil _)
  | cons ch body ih =>
    cases ch with
    | plain c hbackslash hmark =>
      exact .inner q.isNormal_inside (q.step_inside hbackslash hmark) ih
    | escape c =>
      refine .inner q.isNormal_inside q.step_inside_backslash ?_
      exact .inner q.isNormal_escaped (q.step_escaped c) ih

/-- The rest of a comment that ends with its line. -/
theorem hidden_line {body : List Char} (hbody : '\n' ∉ body) :
    Hidden d .lineComment (body ++ ['\n']) .normal := by
  induction body with
  | nil => exact .inner rfl rfl (.nil _)
  | cons c body ih =>
    rw [List.mem_cons, not_or] at hbody
    refine .inner rfl ?_ (ih hbody.2)
    rw [CFamilyState.step, if_neg (Ne.symm hbody.1)]

/-- The rest of a block comment.  Behind a star a slash would end it, so the body must not go on
with one there. -/
theorem hidden_block {body : List Char} (hbody : ¬ ['*', '/'] <:+: body) :
    Hidden d .blockComment (body ++ ['*', '/']) .normal ∧
      (body.head? ≠ some '/' → Hidden d .blockCommentStar (body ++ ['*', '/']) .normal) := by
  have hclose : Hidden d .blockCommentStar ['/'] .normal := .inner rfl rfl (.nil _)
  induction body with
  | nil => exact ⟨.inner rfl rfl hclose, fun _ => .inner rfl rfl hclose⟩
  | cons c body ih =>
    obtain ⟨hplain, hstar⟩ :=
      ih fun hoccurs => hbody (hoccurs.trans (List.suffix_cons c body).isInfix)
    by_cases hc : c = '*'
    · -- a star leads to the other state, where only a slash would make a difference
      subst hc
      have hslash : body.head? ≠ some '/' := by
        intro hhead
        obtain ⟨rest, rfl⟩ := List.head?_eq_some_iff.1 hhead
        exact hbody ⟨[], rest, rfl⟩
      exact ⟨.inner rfl rfl (hstar hslash), fun _ => .inner rfl rfl (hstar hslash)⟩
    · refine ⟨.inner rfl ?_ hplain, fun hhead => .inner rfl ?_ hplain⟩
      · rw [CFamilyState.step, if_neg hc]
      · rw [List.head?_cons, ne_eq, Option.some.injEq] at hhead
        rw [CFamilyState.step, if_neg hhead, if_neg hc]

end Bodies

/-! ## Whole rows -/

/-- What comes next is read in the state `s` as after code: a slash that was read before does not
open a comment with it. -/
def ReadyFor (s : CFamilyState) (t : List Char) : Prop :=
  s = .normal ∨ s = .slashSeen ∧ ∀ c, t.head? = some c → c ≠ '/' ∧ c ≠ '*'

theorem ReadyFor.step_eq {s : CFamilyState} {c : Char} {t : List Char} (h : ReadyFor s (c :: t)) :
    s.step c = .afterNormal c := by
  rcases h with rfl | ⟨rfl, hnext⟩
  · rfl
  · obtain ⟨hslash, hstar⟩ := hnext c rfl
    rw [CFamilyState.step, if_neg hslash, if_neg hstar]

namespace Lexeme

variable {d : Delimiters} {s : CFamilyState} {l : Lexeme} {row : List Lexeme}

theorem rowText_cons (l : Lexeme) (row : List Lexeme) :
    rowText (l :: row) = l.text ++ rowText row :=
  List.flatMap_cons

/-- Lexemes that are no code are hidden. -/
theorem hidden_text (hcode : l.code? = none) (hready : ReadyFor s (l.text ++ rowText row)) :
    Hidden d s l.text l.stateBehind := by
  cases l with
  | code c _ _ _ => cases hcode
  | slash =>
    have hstep : s.step '/' = .slashSeen := hready.step_eq
    refine .cons ?_ ?_
    · rw [hstep]
      cases d <;> rfl
    · rw [hstep]
      exact .nil _
  | literal q body =>
    have hstep : s.step q.mark = q.inside := by
      rw [hready.step_eq]
      cases q <;> rfl
    refine .cons ?_ ?_
    · rw [hstep, q.isNormal_inside]
      rfl
    · rw [hstep]
      exact hidden_quoted body
  | lineComment body hbody =>
    have hstep : s.step '/' = .slashSeen := hready.step_eq
    refine .cons ?_ ?_
    · rw [hstep]
      cases d <;> rfl
    · rw [hstep]
      exact .cons rfl (hidden_line hbody)
  | blockComment body hbody =>
    have hstep : s.step '/' = .slashSeen := hready.step_eq
    refine .cons ?_ ?_
    · rw [hstep]
      cases d <;> rfl
    · rw [hstep]
      exact .cons rfl (hidden_block hbody).1

/-- A lexeme changes the depth by what it counts as code. -/
theorem run_text (l : Lexeme) (hready : ReadyFor s (l.text ++ rowText row)) (depth : Int) :
    NestingDepth.run cFamily d ⟨s, depth⟩ l.text = ⟨l.stateBehind, depth + codeDepth d [l]⟩ := by
  cases hcode : l.code? with
  | none =>
    rw [(hidden_text hcode hready).run_eq]
    simp [codeDepth, hcode]
  | some c =>
    cases l with
    | code c' hdouble hsingle hslash =>
      have hstep : s.step c' = .normal := by
        rw [ReadyFor.step_eq hready, CFamilyState.afterNormal, if_neg hdouble, if_neg hsingle,
          if_neg hslash]
      show NestingDepth.mk (s.step c') (depth + d.change (s.step c').isNormal c') = _
      rw [hstep]
      have hne := d.opener_ne_closer
      simp only [stateBehind, codeDepth, List.filterMap_cons, code?, List.filterMap_nil,
        Delimiters.change, CFamilyState.isNormal, if_true, List.count_singleton, beq_iff_eq]
      congr 1
      split_ifs with hopener hcloser <;> simp_all
    | slash | literal _ _ | lineComment _ _ | blockComment _ _ => cases hcode

theorem codeDepth_cons (l : Lexeme) (row : List Lexeme) :
    codeDepth d (l :: row) = codeDepth d [l] + codeDepth d row := by
  have happend : (l :: row).filterMap code? = [l].filterMap code? ++ row.filterMap code? := by
    rw [← List.filterMap_append, List.singleton_append]
  simp only [codeDepth, happend, List.count_append]
  push_cast
  omega

theorem rowState_cons (s : CFamilyState) (l : Lexeme) (row : List Lexeme) :
    rowState s (l :: row) = rowState l.stateBehind row := by
  rw [rowState, rowState, List.getLast?_cons]
  cases row.getLast? <;> rfl

/-- Behind a lexeme the next one is read as after code. -/
theorem readyFor_stateBehind (hsep : Separated (l :: row)) :
    ReadyFor l.stateBehind (rowText row) := by
  cases l with
  | slash => exact Or.inr ⟨rfl, hsep.1 rfl⟩
  | code _ _ _ _ | literal _ _ | lineComment _ _ | blockComment _ _ => exact Or.inl rfl

/-- The lexemes at the front of a row are gone through one by one. -/
theorem run_front {front : List Lexeme} (hsep : Separated (front ++ row))
    (hready : ReadyFor s (rowText (front ++ row))) (depth : Int) :
    NestingDepth.run cFamily d ⟨s, depth⟩ (rowText front) =
        ⟨rowState s front, depth + codeDepth d front⟩ ∧
      ReadyFor (rowState s front) (rowText row) := by
  induction front generalizing s depth with
  | nil => exact ⟨by simp [rowText, rowState, codeDepth, NestingDepth.run], hready⟩
  | cons l front ih =>
    rw [List.cons_append, rowText_cons] at hready
    obtain ⟨hrun, hnext⟩ :=
      ih hsep.2 (readyFor_stateBehind hsep) (depth + codeDepth d [l])
    have hsplit : NestingDepth.run cFamily d ⟨s, depth⟩ (rowText (l :: front)) =
        NestingDepth.run cFamily d (NestingDepth.run cFamily d ⟨s, depth⟩ l.text)
          (rowText front) := by
      rw [rowText_cons, NestingDepth.run, List.foldl_append]
      rfl
    rw [hsplit, run_text l hready, hrun, rowState_cons, codeDepth_cons l front, Int.add_assoc]
    exact ⟨rfl, hnext⟩

/-- Behind a row of lexemes the content is ordinary, or a slash has been seen if the last one is a
slash.  The depth counts the delimiters among the characters of code, and at no place inside
another lexeme is it different from the depth before that lexeme. -/
theorem run_lexemes (d : Delimiters) (row : List Lexeme) (hsep : Separated row) :
    NestingDepth.run cFamily d (.start cFamily) (rowText row) =
        ⟨rowState .normal row, codeDepth d row⟩ ∧
      ∀ before l after front, row = before ++ l :: after → l.code? = none → front <+: l.text →
        (NestingDepth.run cFamily d (.start cFamily) (rowText before ++ front)).depth =
          (NestingDepth.run cFamily d (.start cFamily) (rowText before)).depth := by
  refine ⟨?_, ?_⟩
  · have hrun := @run_front d .normal [] row (by rwa [List.append_nil]) (Or.inl rfl) 0
    rw [Int.zero_add] at hrun
    exact hrun.1
  · rintro before l after front rfl hcode hfront
    obtain ⟨hrun, hready⟩ := @run_front d .normal (l :: after) before hsep (Or.inl rfl) 0
    rw [rowText_cons] at hready
    obtain ⟨between, hhidden⟩ := (hidden_text (d := d) hcode hready).front hfront
    have hsplit : NestingDepth.run cFamily d (.start cFamily) (rowText before ++ front) =
        NestingDepth.run cFamily d
          (NestingDepth.run cFamily d (.start cFamily) (rowText before)) front :=
      List.foldl_append
    rw [hsplit, NestingDepth.start]
    rw [show cFamily.start = CFamilyState.normal from rfl, hrun, hhidden.run_eq]

/-- A block with closing delimiters in a string, in both kinds of comments and in a character
literal, and a slash at the end. -/
def busyBlock : List Lexeme :=
  [.code '\x7b' (by decide) (by decide) (by decide),
    .literal .double [.escape '"', .plain '\x7d' (by decide) (by decide)], .slash,
    .literal .single [.plain '\x7d' (by decide) (by decide)],
    .lineComment ['\x7d'] (by decide), .blockComment ['/', '*', '\x7d', '*'] (by decide),
    .code '\x7d' (by decide) (by decide) (by decide), .slash]

theorem run_lexemes_busyBlock :
    Separated busyBlock ∧
      String.ofList (rowText busyBlock) =
        "\x7b\"\\\"\x7d\"/'\x7d'//\x7d\n/*/*\x7d**/\x7d/" ∧
      NestingDepth.run cFamily .block (.start cFamily) (rowText busyBlock) = ⟨.slashSeen, 0⟩ ∧
      ∀ front, front <+: "\"\\\"\x7d\"".toList →
        (NestingDepth.run cFamily .block (.start cFamily) ('\x7b' :: front)).depth = 1 := by
  have hsep : Separated busyBlock := by simp [Separated, busyBlock, rowText, text, Quote.mark]
  obtain ⟨hrun, hhidden⟩ := run_lexemes .block busyBlock hsep
  refine ⟨hsep, by decide, hrun.trans rfl, fun front hfront => ?_⟩
  have hsame :=
    hhidden [.code '\x7b' (by decide) (by decide) (by decide)] _ _ front rfl rfl hfront
  exact hsame.trans rfl

end Lexeme

end Excerpt
