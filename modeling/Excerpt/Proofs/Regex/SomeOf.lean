import Excerpt.Components
import Excerpt.Proofs.Regex.Visits

/-!
# One or more characters of a set

The patterns that are written as a class with a plus behind it, such as `[a-z]+`.  `Expr.someOf` is
the expression that is read from such a text, and `matchFront?_someOf` says that its program matches
the longest run of characters of the set at the front of a text, if there is any.

The search has one thread until a character is read, and two from then on, the one that reads
more being preferred (`run_someOf`).  The visits to each instruction stay below the position that is
entered next, which is all that has to be known of them.
-/

namespace Excerpt

namespace Regex

/-- One or more characters of a set, as many as possible, at the start of a text. -/
def Expr.someOf (set : CharSet) : Expr := .seq (.place .textStart) (.repeat (.one set) 1 none true)

namespace Program

theorem program_someOf (set : CharSet) :
    (Expr.someOf set).program = #[.check .textStart, .read set, .split 1 3, .accept] :=
  rfl

variable {set : CharSet}

/-- Behind a character that was read, a thread may read more or accept. -/
theorem enter_someOf {spot : Spot} {v0 v1 v2 v3 : Nat} (h1 : v1 ≤ spot.position)
    (h2 : v2 ≤ spot.position) (h3 : v3 ≤ spot.position) :
    (Expr.someOf set).program.enter spot ⟨2, []⟩ [] #[v0, v1, v2, v3] =
      ([⟨3, []⟩, ⟨1, []⟩],
        #[v0, spot.position + 1, spot.position + 1, spot.position + 1]) := by
  have hne1 : v1 ≠ spot.position + 1 := by omega
  have hne2 : v2 ≠ spot.position + 1 := by omega
  have hne3 : v3 ≠ spot.position + 1 := by omega
  rw [program_someOf]
  simp [enter, follow, Thread.go, hne1, hne2, hne3]

/-- A thread before the class reads a character of the set, and accepts nothing. -/
theorem advance_someOf {c : Char} {spot : Spot} {v0 v1 v2 v3 : Nat} (h1 : v1 ≤ spot.position)
    (h2 : v2 ≤ spot.position) (h3 : v3 ≤ spot.position) :
    (Expr.someOf set).program.advance c spot [⟨1, []⟩] #[v0, v1, v2, v3] =
      if set.holds c then
        ([⟨1, []⟩, ⟨3, []⟩],
          #[v0, spot.position + 1, spot.position + 1, spot.position + 1])
      else ([], #[v0, v1, v2, v3]) := by
  have hreads : (Expr.someOf set).program.reads c ⟨1, []⟩ = set.holds c := rfl
  cases hc : set.holds c with
  | false => simp [advance, hreads, hc]
  | true =>
    have henter := @enter_someOf set spot v0 v1 v2 v3 h1 h2 h3
    simp [advance, hreads, hc, Thread.next, Thread.go, henter]

/-- From a place behind a character of the set, the search goes on to the end of the run. -/
theorem run_someOf (text : Text) {position : Nat} {v0 v1 v2 v3 : Nat} (h1 : v1 ≤ position + 1)
    (h2 : v2 ≤ position + 1) (h3 : v3 ≤ position + 1) (found : Option Found) :
    (Expr.someOf set).program.run position [⟨1, []⟩, ⟨3, []⟩] #[v0, v1, v2, v3] found text =
      some ⟨position + (text.takeWhile set.holds).length, []⟩ := by
  induction text generalizing position v0 v1 v2 v3 found with
  | nil => rfl
  | cons c rest ih =>
    have hbetter : (Expr.someOf set).program.better position [⟨1, []⟩, ⟨3, []⟩] found =
        some ⟨position, []⟩ := rfl
    -- the thread that accepts stands last, so it cuts off no other
    have hkept : ([⟨1, []⟩, ⟨3, []⟩] : List Thread).takeWhile
        (fun t => !(Expr.someOf set).program.accepts t) = [⟨1, []⟩] := rfl
    have hadvance := @advance_someOf set c ⟨position + 1, some c, rest⟩ v0 v1 v2 v3 h1 h2 h3
    rw [run, hbetter, hkept]
    simp only [hadvance, List.takeWhile_cons]
    cases set.holds c with
    | false => exact run_nil _ _ _ _ _
    | true =>
      simp only [if_true, List.length_cons]
      rw [ih (by omega) (by omega) (by omega)]
      congr 2
      omega

/-- The longest run of characters of the set is matched, unless it is empty. -/
theorem matchFront?_someOf (set : CharSet) (text : Text) :
    (Expr.someOf set).program.matchFront? text =
      if text.takeWhile set.holds = [] then none
      else some ⟨(text.takeWhile set.holds).length, []⟩ := by
  have hstart : (Expr.someOf set).program.matchFront? text =
      (Expr.someOf set).program.run 0 [⟨1, []⟩] #[1, 1, 0, 0] none text := rfl
  rw [hstart]
  cases text with
  | nil => rfl
  | cons c rest =>
    have hkept : ([⟨1, []⟩] : List Thread).takeWhile
        (fun t => !(Expr.someOf set).program.accepts t) = [⟨1, []⟩] := rfl
    have hadvance := @advance_someOf set c ⟨1, some c, rest⟩ 1 1 0 0 (Nat.le_refl 1)
      (Nat.zero_le 1) (Nat.zero_le 1)
    rw [run, hkept]
    simp only [hadvance, List.takeWhile_cons]
    cases set.holds c with
    | false => exact run_nil _ _ _ _ _
    | true =>
      simp only [if_true, List.length_cons]
      rw [run_someOf rest (by omega) (by omega) (by omega)]
      simp [Nat.add_comm]

end Program

/-- The codes of ASCII letters and digits. -/
theorem isAlphanum_iff {c : Char} :
    c.isAlphanum = true ↔
      (0x41 ≤ c.toNat ∧ c.toNat ≤ 0x5a ∨ 0x61 ≤ c.toNat ∧ c.toNat ≤ 0x7a) ∨
        0x30 ≤ c.toNat ∧ c.toNat ≤ 0x39 := by
  have hranges : c.isAlphanum =
      (decide ('A'.val ≤ c.val ∧ c.val ≤ 'Z'.val) ||
          (decide ('a'.val ≤ c.val) && decide (c.val ≤ 'z'.val)) ||
        (decide ('0'.val ≤ c.val) && decide (c.val ≤ '9'.val))) := rfl
  rw [hranges]
  simp [UInt32.le_iff_toNat_le]

/-- ASCII letters and digits. -/
def CharSet.asciiAlphanumeric : CharSet := ⟨[(0x30, 0x39), (0x41, 0x5a), (0x61, 0x7a)]⟩

theorem CharSet.holds_asciiAlphanumeric (c : Char) :
    asciiAlphanumeric.holds c = c.isAlphanum := by
  rw [Bool.eq_iff_iff]
  simp [holds, has, inOrder, asciiAlphanumeric, isAlphanum_iff]
  omega

/-- The word characters of patterns are the characters of step names. -/
theorem CharSet.holds_asciiWord (c : Char) : asciiWord.holds c = isStepChar c := by
  have hlow : (c == '_') = (c.toNat == 0x5f) := by
    rw [Bool.eq_iff_iff, beq_iff_eq, beq_iff_eq, ← Char.toNat_inj]
    rfl
  rw [isStepChar, hlow, Bool.eq_iff_iff]
  simp [holds, has, inOrder, asciiWord, isAlphanum_iff]
  omega

end Regex

namespace Pattern

open Regex

/-- The pattern of one or more characters of a set. -/
def someOf (source : String) (set : CharSet) : Pattern :=
  ⟨source, (Expr.someOf set).program, 0, none⟩

/-- At a cursor the longest run of characters of the set is matched, unless it is empty. -/
theorem attempt_someOf (source : String) (set : CharSet) (c : Cursor) :
    (someOf source set).attempt c =
      if c.rest.takeWhile set.holds = [] then .fail ("/" ++ source ++ "/") c.offset .unstated
      else
        .success (.leaf ("/" ++ source ++ "/") (c.rest.takeWhile set.holds) c.offset
          (.string (String.ofList (c.rest.takeWhile set.holds)))) := by
  have htake : c.rest.take (c.rest.takeWhile set.holds).length = c.rest.takeWhile set.holds :=
    (List.prefix_iff_eq_take.1 (List.takeWhile_prefix _)).symm
  have hfront : (someOf source set).front? c.rest =
      ((Expr.someOf set).program.matchFront? c.rest).map fun found =>
        (c.rest.take found.length, c.rest.take found.length) := rfl
  rw [attempt, hfront, Program.matchFront?_someOf]
  by_cases hempty : c.rest.takeWhile set.holds = []
  · rw [if_pos hempty, if_pos hempty]
    rfl
  · rw [if_neg hempty, if_neg hempty, Option.map_some, htake]
    rfl

end Pattern

/-! ## Patterns of words -/

namespace Matcher

open Regex

/-- A source that is read as a class with a plus behind it makes the pattern of that class. -/
theorem ofSource_someOf {source : String} {set : CharSet}
    (hparse : parse .none (Pattern.anchored source.toList) = .ok (Expr.someOf set))
    (hsize : (Expr.someOf set).isTooLarge = false) :
    ofSource source = .pattern (.someOf source set) := by
  rw [ofSource, Pattern.compile, hparse]
  simp only [Pattern.ofExpr, hsize]
  rfl

theorem ofSource_asciiWord :
    ofSource "[a-zA-Z0-9_]+" = .pattern (.someOf "[a-zA-Z0-9_]+" .asciiWord) :=
  ofSource_someOf rfl (by decide +kernel)

theorem asciiWord_eq : asciiWord = .pattern (.someOf "[a-zA-Z0-9]+" .asciiAlphanumeric) :=
  ofSource_someOf rfl (by decide +kernel)

end Matcher

end Excerpt
