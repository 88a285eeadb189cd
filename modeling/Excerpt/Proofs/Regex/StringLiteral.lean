import Excerpt.Proofs.Matcher.Depth
import Excerpt.Proofs.Regex.Room
import Excerpt.Proofs.Regex.SomeOf
import Excerpt.Proofs.Text.FirstFront

/-!
# String literals

The pattern of string literals and the lexical rules `cFamily` have the same idea of a string: from
a double quote up to the first one that no backslash takes away.  `stringLiteral_iff` says so; the
pattern asks in addition that the string ends in its line.

Inside the string, the states of the content rules and the threads of the search go together
(`threadsIn`): in `inString` there are three of them, one that reads a character, one that reads a
backslash and one that ends the string, and in `stringEscape` there is one.  The three read
different characters, so that only one goes on to the next place (`advance_threadsIn`).
-/

namespace Excerpt

namespace Regex

/-! ## The program -/

/-- The characters that stand for themselves in a string. -/
def CharSet.unquoted : CharSet := ⟨[(0x0, 0x9), (0xb, 0x21), (0x23, 0x5b), (0x5d, 0x10ffff)]⟩

/-- All characters but the line feed. -/
def CharSet.inLine : CharSet := ⟨[(0x0, 0x9), (0xb, 0x10ffff)]⟩

theorem CharSet.toNat_le_maximum (c : Char) : c.toNat ≤ maximum := by
  have hvalid := c.valid
  simp only [UInt32.isValidChar, Nat.isValidChar] at hvalid
  show c.val.toNat ≤ 0x10ffff
  omega

theorem CharSet.holds_unquoted (c : Char) :
    unquoted.holds c = decide (c ≠ '"' ∧ c ≠ '\\' ∧ c ≠ '\n') := by
  have hmax := toNat_le_maximum c
  rw [maximum] at hmax
  rw [Bool.eq_iff_iff]
  simp only [ne_eq, ← Char.toNat_inj]
  simp [holds, has, inOrder, unquoted]
  omega

theorem CharSet.holds_inLine (c : Char) : inLine.holds c = decide (c ≠ '\n') := by
  have hmax := toNat_le_maximum c
  rw [maximum] at hmax
  rw [Bool.eq_iff_iff]
  simp only [ne_eq, ← Char.toNat_inj]
  simp [holds, has, inOrder, inLine]
  omega

/-- A string in double quotes at the start of a text; the group covers what is between them. -/
def Expr.quoted : Expr :=
  .seq (.place .textStart) <| .seq (.literal ['"']) <|
    .seq
      (.group 1
        (.repeat (.choice (.one .unquoted) (.seq (.literal ['\\']) (.one .inLine))) 0 none true))
      (.literal ['"'])

theorem Expr.isTooLarge_quoted : quoted.isTooLarge = false := by
  have hinner := (atMost_one .unquoted).choice rfl
    ((atMost_literal ['\\']).seq (atMost_one .inLine))
  have hquoted := (atMost_place .textStart).seq
    ((atMost_literal ['"']).seq (((hinner.star true).group 1).seq (atMost_literal ['"'])))
  exact isTooLarge_eq_false hquoted (by decide +kernel)

namespace Program

theorem program_quoted :
    Expr.quoted.program =
      #[.check .textStart, .read (.single '"'), .mark (.opened 1), .split 4 10, .split 5 7,
        .read .unquoted, .jump 9, .read (.single '\\'), .read .inLine, .jump 3, .mark (.closed 1),
        .read (.single '"'), .accept] :=
  rfl

theorem replicate_quoted :
    Array.replicate Expr.quoted.program.size 0 = #[0, 0, 0, 0, 0, 0, 0, 0, 0, 0, 0, 0, 0] :=
  rfl

/-! ## Threads inside a string -/

/-- The threads at a position inside a string, by the state of the content rules there, and the one
behind the string. -/
def threadsIn : CFamilyState → Nat → List Thread
  | .inString, position =>
    [⟨5, [(.opened 1, 1)]⟩, ⟨7, [(.opened 1, 1)]⟩,
      ⟨11, [(.closed 1, position), (.opened 1, 1)]⟩]
  | .stringEscape, _ => [⟨8, [(.opened 1, 1)]⟩]
  | .normal, position => [⟨12, [(.closed 1, position - 1), (.opened 1, 1)]⟩]
  | _, _ => []

/-- Inside a string. -/
def Inside (s : CFamilyState) : Prop := s = .inString ∨ s = .stringEscape

variable {s : CFamilyState} {c : Char} {position : Nat} {rest : Text} {visits : Visits}

theorem inside_step (h : Inside s) : s.step c = .normal ∨ Inside (s.step c) := by
  rcases h with rfl | rfl
  · rw [CFamilyState.step]
    split_ifs
    · exact Or.inr (Or.inr rfl)
    · exact Or.inl rfl
    · exact Or.inr (Or.inl rfl)
  · exact Or.inr (Or.inl rfl)

theorem accepts_threadsIn (h : Inside s) :
    ∀ t ∈ threadsIn s position, Expr.quoted.program.accepts t = false := by
  rcases h with rfl | rfl <;> simp [threadsIn, program_quoted, accepts]

/-- Where the thread that has read a character of a string leads to. -/
theorem enter_threadsIn {spot : Spot} {t : Thread} (hspot : spot.position = position + 1)
    (hvisits : Visits.Before Expr.quoted.program spot.position visits)
    (ht : (t = ⟨6, [(.opened 1, 1)]⟩ ∨ t = ⟨9, [(.opened 1, 1)]⟩) ∧ s = .inString ∨
      t = ⟨8, [(.opened 1, 1)]⟩ ∧ s = .stringEscape ∨
      t = ⟨12, [(.closed 1, position), (.opened 1, 1)]⟩ ∧ s = .normal) :
    (Expr.quoted.program.enter spot t [] visits).1.reverse = threadsIn s (position + 1) := by
  rw [enter_eq _ hvisits, replicate_quoted, program_quoted]
  rcases ht with ⟨rfl | rfl, rfl⟩ | ⟨rfl, rfl⟩ | ⟨rfl, rfl⟩ <;>
    simp [enter, follow, Thread.go, Thread.next, threadsIn, hspot]

/-! ## From place to place -/

section Reads

variable (c : Char) (marks : List (Mark × Nat))

theorem reads_unquoted : Expr.quoted.program.reads c ⟨5, marks⟩ =
    decide (c ≠ '"' ∧ c ≠ '\\' ∧ c ≠ '\n') :=
  CharSet.holds_unquoted c

theorem reads_backslash : Expr.quoted.program.reads c ⟨7, marks⟩ = decide ('\\' = c) :=
  CharSet.holds_single '\\' c

theorem reads_escaped : Expr.quoted.program.reads c ⟨8, marks⟩ = decide (c ≠ '\n') :=
  CharSet.holds_inLine c

theorem reads_quote : Expr.quoted.program.reads c ⟨11, marks⟩ = decide ('"' = c) :=
  CharSet.holds_single '"' c

end Reads

/-- Nothing in a string reads a line feed. -/
theorem reads_lineFeed (h : Inside s) :
    ∀ t ∈ threadsIn s position, Expr.quoted.program.reads '\n' t = false := by
  rcases h with rfl | rfl <;>
    simp [threadsIn, reads_unquoted, reads_backslash, reads_escaped, reads_quote]

/-- One thread reads the character, and it leads to those of the state behind it. -/
theorem exists_reader (h : Inside s) (hline : c ≠ '\n') (position : Nat) :
    ∃ before t behind, threadsIn s position = before ++ t :: behind ∧
      Expr.quoted.program.reads c t = true ∧
      (∀ t' ∈ before ++ behind, Expr.quoted.program.reads c t' = false) ∧
      ∀ {spot visits}, spot.position = position + 1 →
        Visits.Before Expr.quoted.program spot.position visits →
        (Expr.quoted.program.enter spot t.next [] visits).1.reverse =
          threadsIn (s.step c) (position + 1) := by
  rcases h with rfl | rfl
  · by_cases hbackslash : c = '\\'
    · subst hbackslash
      refine ⟨[⟨5, _⟩], ⟨7, _⟩, [⟨11, _⟩], rfl, ?_, ?_, fun hspot hvisits => ?_⟩
      · rw [reads_backslash, decide_eq_true rfl]
      · simp [reads_unquoted, reads_quote]
      · exact enter_threadsIn hspot hvisits (Or.inr (Or.inl ⟨rfl, rfl⟩))
    · by_cases hquote : c = '"'
      · subst hquote
        refine ⟨[⟨5, _⟩, ⟨7, _⟩], ⟨11, _⟩, [], rfl, ?_, ?_, fun hspot hvisits => ?_⟩
        · rw [reads_quote, decide_eq_true rfl]
        · simp [reads_unquoted, reads_backslash]
        · exact enter_threadsIn hspot hvisits (Or.inr (Or.inr ⟨rfl, rfl⟩))
      · have hstep : CFamilyState.inString.step c = .inString := by
          rw [CFamilyState.step, if_neg hbackslash, if_neg hquote]
        refine ⟨[], ⟨5, _⟩, [⟨7, _⟩, ⟨11, _⟩], rfl, ?_, ?_, fun hspot hvisits => ?_⟩
        · rw [reads_unquoted, decide_eq_true ⟨hquote, hbackslash, hline⟩]
        · simp [reads_backslash, reads_quote, Ne.symm hbackslash, Ne.symm hquote]
        · exact enter_threadsIn hspot hvisits (Or.inl ⟨Or.inl rfl, hstep⟩)
  · refine ⟨[], ⟨8, _⟩, [], rfl, ?_, ?_, fun hspot hvisits => ?_⟩
    · rw [reads_escaped, decide_eq_true hline]
    · simp
    · exact enter_threadsIn hspot hvisits (Or.inl ⟨Or.inr rfl, rfl⟩)

/-- Behind a character of a string the search goes on as the content rules do. -/
theorem advance_threadsIn (h : Inside s) (hline : c ≠ '\n') (rest : Text)
    (hvisits : Visits.Before Expr.quoted.program (position + 1) visits) :
    ∃ visits', Visits.Before Expr.quoted.program (position + 2) visits' ∧
      Expr.quoted.program.advance c ⟨position + 1, some c, rest⟩ (threadsIn s position) visits =
        (threadsIn (s.step c) (position + 1), visits') := by
  obtain ⟨before, t, behind, hthreads, ht, hothers, henter⟩ := exists_reader h hline position
  have hafter := @enter_before _ ⟨position + 1, some c, rest⟩ visits t.next hvisits
  refine ⟨_, hafter, ?_⟩
  rw [hthreads, advance_of_reads ht (fun t' h' => hothers t' (List.mem_append_left _ h'))
    (fun t' h' => hothers t' (List.mem_append_right _ h')), henter rfl hvisits]

/-- The search finds the first place at which the content rules are back at normal, if it lies in
the same line. -/
theorem run_threadsIn (text : Text) {found : Found} (h : Inside s)
    (hvisits : Visits.Before Expr.quoted.program (position + 1) visits) :
    Expr.quoted.program.run position (threadsIn s position) visits none text = some found ↔
      ∃ front, Text.IsFirstFront CFamilyState.step (· = .normal) s text front ∧ '\n' ∉ front ∧
        found = ⟨position + front.length,
          [(.closed 1, position + front.length - 1), (.opened 1, 1)]⟩ := by
  induction text generalizing s position visits with
  | nil =>
    refine iff_of_false ?_ ?_
    · rw [run, better_of_not_accepts (accepts_threadsIn h)]
      intro hfound
      cases hfound
    · rintro ⟨_, hfront, _⟩
      exact Text.not_isFirstFront_nil hfront
  | cons c rest ih =>
    rw [run_cons_of_not_accepts (accepts_threadsIn h)]
    by_cases hline : c = '\n'
    · subst hline
      rw [advance_of_not_reads (reads_lineFeed h), run_nil]
      refine iff_of_false (fun hfound => by cases hfound) ?_
      rintro ⟨front, hfront, hnot, -⟩
      obtain ⟨-, rfl⟩ | ⟨-, _, rfl, -⟩ := Text.isFirstFront_cons_iff.1 hfront <;> simp at hnot
    · obtain ⟨visits', hvisits', hadvance⟩ := advance_threadsIn h hline rest hvisits
      rw [hadvance]
      simp only [Text.isFirstFront_cons_iff]
      rcases inside_step h with hnormal | hinside
      · have hthreads : threadsIn (s.step c) (position + 1) =
            [⟨12, [(.closed 1, position), (.opened 1, 1)]⟩] := by
          rw [hnormal]
          rfl
        rw [hthreads, run_of_accepts rfl, Option.some.injEq]
        constructor
        · rintro rfl
          exact ⟨[c], Or.inl ⟨hnormal, rfl⟩, by simpa using Ne.symm hline, rfl⟩
        · rintro ⟨front, ⟨-, rfl⟩ | ⟨hne, -⟩, -, rfl⟩
          · rfl
          · exact absurd hnormal hne
      · have hne : s.step c ≠ .normal := by
          rcases hinside with hstep | hstep <;> simp [hstep]
        have hlength : ∀ front : Text,
            position + 1 + front.length = position + (c :: front).length := by
          intro front
          rw [List.length_cons]
          omega
        rw [ih hinside hvisits']
        constructor
        · rintro ⟨front, hfront, hnot, rfl⟩
          refine ⟨c :: front, Or.inr ⟨hne, front, rfl, hfront⟩, ?_, by rw [hlength]⟩
          simp [Ne.symm hline, hnot]
        · rintro ⟨-, ⟨hnormal, rfl⟩ | ⟨-, front, rfl, hfront⟩, hnot, rfl⟩
          · exact absurd hnormal hne
          · exact ⟨front, hfront, fun hmem => hnot (List.mem_cons_of_mem c hmem),
              by rw [hlength]⟩

/-- The search starts with the thread behind the anchor, which reads a double quote. -/
theorem exists_matchFront?_eq (text : Text) :
    ∃ visits, Visits.Before Expr.quoted.program 1 visits ∧
      Expr.quoted.program.matchFront? text =
        Expr.quoted.program.run 0 [⟨1, []⟩] visits none text :=
  ⟨_, @enter_before Expr.quoted.program (.start text) _ ⟨0, []⟩
    (Visits.before_replicate Expr.quoted.program 0), rfl⟩

theorem accepts_start : ∀ t ∈ ([⟨1, []⟩] : List Thread), Expr.quoted.program.accepts t = false := by
  simp [program_quoted, accepts]

/-- The threads before a text that starts with a double quote go into the string. -/
theorem matchFront?_quote (rest : Text) :
    ∃ visits, Visits.Before Expr.quoted.program 2 visits ∧
      Expr.quoted.program.matchFront? ('"' :: rest) =
        Expr.quoted.program.run 1 (threadsIn .inString 1) visits none rest := by
  obtain ⟨visits, hbefore, hstart⟩ := exists_matchFront?_eq ('"' :: rest)
  have hinside : (Expr.quoted.program.enter ⟨1, some '"', rest⟩ ⟨2, []⟩ [] visits).1.reverse =
      threadsIn .inString 1 := by
    rw [enter_eq _ hbefore, replicate_quoted, program_quoted]
    simp [enter, follow, Thread.go, Thread.next, threadsIn]
  have hadvance : Expr.quoted.program.advance '"' ⟨1, some '"', rest⟩ [⟨1, []⟩] visits =
      (threadsIn .inString 1,
        (Expr.quoted.program.enter ⟨1, some '"', rest⟩ ⟨2, []⟩ [] visits).2) := by
    rw [← hinside]
    exact @advance_of_reads _ _ ⟨1, []⟩ _ [] [] _ rfl (List.forall_mem_nil _)
      (List.forall_mem_nil _)
  refine ⟨_, @enter_before _ ⟨1, some '"', rest⟩ _ ⟨2, []⟩ hbefore, ?_⟩
  rw [hstart, run_cons_of_not_accepts accepts_start, Nat.zero_add, hadvance]

theorem matchFront?_of_not_quote {text : Text} (h : ¬ ['"'] <+: text) :
    Expr.quoted.program.matchFront? text = none := by
  obtain ⟨visits, -, hstart⟩ := exists_matchFront?_eq text
  rw [hstart]
  cases text with
  | nil => rw [run, better_of_not_accepts accepts_start]
  | cons c rest =>
    have hc : '"' ≠ c := by simpa [List.prefix_cons_iff] using h
    have hreads : ∀ t ∈ ([⟨1, []⟩] : List Thread), Expr.quoted.program.reads c t = false := by
      intro t ht
      rw [List.mem_singleton.1 ht]
      exact (CharSet.holds_single '"' c).trans (decide_eq_false hc)
    rw [run_cons_of_not_accepts accepts_start, advance_of_not_reads hreads, run_nil]

/-- What leads out of a string ends with a double quote. -/
theorem exists_closing {text front : Text} (h : Inside s)
    (hfront : Text.IsFirstFront CFamilyState.step (· = .normal) s text front) :
    ∃ inner, front = inner ++ ['"'] := by
  induction text generalizing s front with
  | nil => exact absurd hfront Text.not_isFirstFront_nil
  | cons c rest ih =>
    obtain ⟨hnormal, rfl⟩ | ⟨hne, front, rfl, hbehind⟩ := Text.isFirstFront_cons_iff.1 hfront
    · have hquote : c = '"' := by
        rcases h with rfl | rfl
        · rw [CFamilyState.step] at hnormal
          split_ifs at hnormal with _ hquote
          exact hquote
        · cases hnormal
      exact ⟨[], by rw [hquote, List.nil_append]⟩
    · obtain ⟨inner, rfl⟩ := ih ((inside_step h).resolve_left hne) hbehind
      exact ⟨c :: inner, rfl⟩

/-- A string has its two quotes. -/
theorem exists_inner {text front : Text} (hquote : ['"'] <+: text)
    (hfront : Text.IsFirstFront CFamilyState.step (· = .normal) .normal text front) :
    ∃ inner, front = '"' :: (inner ++ ['"']) := by
  obtain ⟨rest, rfl⟩ := hquote
  obtain ⟨hnormal, -⟩ | ⟨-, front, rfl, hbehind⟩ := Text.isFirstFront_cons_iff.1 hfront
  · cases hnormal
  · obtain ⟨inner, rfl⟩ := exists_closing (Or.inl rfl) hbehind
    exact ⟨inner, rfl⟩

/-- The program matches the string at the front of a text, if there is one that ends in its line. -/
theorem matchFront?_quoted (text : Text) (found : Found) :
    Expr.quoted.program.matchFront? text = some found ↔
      ['"'] <+: text ∧ ∃ inner,
        Text.IsFirstFront CFamilyState.step (· = .normal) .normal text ('"' :: (inner ++ ['"'])) ∧
        '\n' ∉ inner ∧
        found = ⟨inner.length + 2, [(.closed 1, inner.length + 1), (.opened 1, 1)]⟩ := by
  by_cases hquote : ['"'] <+: text
  · rw [and_iff_right hquote]
    obtain ⟨rest, rfl⟩ := hquote
    obtain ⟨visits, hvisits, hstart⟩ := matchFront?_quote rest
    have hlength : ∀ inner : Text, 1 + (inner ++ ['"']).length = inner.length + 2 := by
      intro inner
      rw [List.length_append, List.length_singleton]
      omega
    rw [List.singleton_append, hstart, run_threadsIn rest (Or.inl rfl) hvisits]
    constructor
    · rintro ⟨front, hfront, hline, rfl⟩
      obtain ⟨inner, rfl⟩ := exists_closing (Or.inl rfl) hfront
      refine ⟨inner, Text.isFirstFront_cons_iff.2 (Or.inr ⟨nofun, _, rfl, hfront⟩),
        fun hmem => hline (List.mem_append_left _ hmem), ?_⟩
      rw [hlength]
      rfl
    · rintro ⟨inner, hfront, hline, rfl⟩
      obtain ⟨-, hnil⟩ | ⟨-, front, hsame, hbehind⟩ := Text.isFirstFront_cons_iff.1 hfront
      · simp at hnil
      · obtain rfl : inner ++ ['"'] = front := (List.cons.inj hsame).2
        refine ⟨_, hbehind, by simpa using hline, ?_⟩
        rw [hlength]
        rfl
  · rw [matchFront?_of_not_quote hquote]
    exact iff_of_false nofun fun ⟨h, _⟩ => hquote h

end Program

end Regex

namespace Pattern

open Regex

/-- The pattern of a string in double quotes, with what is between them as its value. -/
def quoted : Pattern :=
  ⟨"\"((?:[^\"\\\\\\n]|\\\\.)*)\"", Expr.quoted.program, 1, some 1⟩

/-- At a cursor the string is matched that begins there, if it ends in its line. -/
theorem attempt_quoted_iff {c : Cursor} {found : Match} :
    quoted.attempt c = .success found ↔
      ['"'] <+: c.rest ∧ ∃ inner,
        Text.IsFirstFront CFamilyState.step (· = .normal) .normal c.rest
          ('"' :: (inner ++ ['"'])) ∧
        '\n' ∉ inner ∧
        found = .leaf quoted.id ('"' :: (inner ++ ['"'])) c.offset
          (.string (String.ofList inner)) := by
  have hfront : quoted.front? c.rest = (Expr.quoted.program.matchFront? c.rest).map fun found =>
      (c.rest.take found.length, found.group c.rest 1) := rfl
  rw [attempt, hfront]
  cases hmatch : Expr.quoted.program.matchFront? c.rest with
  | none =>
    refine iff_of_false (fun hfound => by cases hfound) ?_
    rintro ⟨hquote, inner, hfirst, hline, -⟩
    have hsome := (Program.matchFront?_quoted c.rest _).2 ⟨hquote, inner, hfirst, hline, rfl⟩
    rw [hmatch] at hsome
    cases hsome
  | some f =>
    obtain ⟨hquote, inner, hfirst, hline, rfl⟩ := (Program.matchFront?_quoted c.rest f).1 hmatch
    obtain ⟨tail, htail⟩ := hfirst.isPrefix
    have htake : c.rest.take (inner.length + 2) = '"' :: (inner ++ ['"']) := by
      rw [← htail]
      exact List.take_left' (by simp)
    have hgroup : Found.group ⟨inner.length + 2, [(.closed 1, inner.length + 1), (.opened 1, 1)]⟩
        c.rest 1 = inner := by
      rw [← htail]
      simp [Found.group, Found.place?]
    simp only [Option.map_some, htake, hgroup, Outcome.success.injEq]
    constructor
    · rintro rfl
      exact ⟨hquote, inner, hfirst, hline, rfl⟩
    · rintro ⟨-, inner', hfirst', -, rfl⟩
      have hsame := hfirst.eq hfirst'
      obtain rfl : inner = inner' := List.append_cancel_right (List.cons.inj hsame).2
      rfl

end Pattern

namespace Matcher

open Regex Regex.Program Pattern

theorem stringLiteral_eq : stringLiteral = .pattern quoted := by
  have hparse : parse .none (Pattern.anchored quoted.source.toList) = .ok Expr.quoted := rfl
  have hcompile : Pattern.compile quoted.source =
      .ok ⟨quoted.source, Expr.quoted.program, 1, none⟩ := by
    rw [Pattern.compile, hparse]
    dsimp only
    rw [Pattern.ofExpr, Expr.isTooLarge_quoted]
    rfl
  have hsource : stringLiteral = ofGroup quoted.source 1 := rfl
  rw [hsource, ofGroup, hcompile]
  rfl

/-- A string literal matches up to the place at which the content rules of C are back in ordinary
content, if that is in the same line, and its value is what stands between the quotes. -/
theorem stringLiteral_iff (rules : Rules) (c : Cursor) :
    ∃ o, stringLiteral.matchIn rules c = some o ∧
      ((∃ found, o = .success found) ↔
        ['"'] <+: c.rest ∧
          ∃ front, Text.IsFirstFront CFamilyState.step (· = .normal) .normal c.rest front ∧
            '\n' ∉ front) ∧
      ∀ found, o = .success found →
        Text.IsFirstFront CFamilyState.step (· = .normal) .normal c.rest found.matched ∧
          ∃ inner, found.matched = '"' :: (inner ++ ['"']) ∧
            found.value = .string (String.ofList inner) := by
  have hmatch : stringLiteral.matchIn rules c = some (quoted.attempt c) := by
    rw [matchIn_eq_attempt, stringLiteral_eq, attempt]
  refine ⟨_, hmatch, ⟨?_, ?_⟩, fun found hfound => ?_⟩
  · rintro ⟨found, hfound⟩
    obtain ⟨hquote, inner, hfirst, hline, -⟩ := attempt_quoted_iff.1 hfound
    exact ⟨hquote, _, hfirst, by simpa using hline⟩
  · rintro ⟨hquote, front, hfirst, hline⟩
    obtain ⟨inner, rfl⟩ := exists_inner hquote hfirst
    exact ⟨_, attempt_quoted_iff.2 ⟨hquote, inner, hfirst, by simpa using hline, rfl⟩⟩
  · obtain ⟨-, inner, hfirst, -, rfl⟩ := attempt_quoted_iff.1 hfound
    exact ⟨hfirst, inner, rfl, rfl⟩

end Matcher

end Excerpt
