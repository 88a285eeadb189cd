import Excerpt.Text.Basic
import Excerpt.Text.CaseFold
import Excerpt.Text.WordCharacter

/-!
# Sets of characters

What one character of a text is tested against in a regular expression.

* A set is the list of its ranges of code points, in order and with gaps between them
  (`CharSet.ofRanges`), so two sets with the same members are the same list.
* `complement` answers the gaps; intersection and difference follow from it and from `union`.
* `closedUnder` adds the case variants of the members.  A class written without regard to case is
  closed before it is negated.
-/

namespace Excerpt.Regex

/-- A set of characters: ranges of code points. -/
structure CharSet where
  ranges : List (Nat × Nat)
  deriving DecidableEq, Repr

namespace CharSet

/-! ## Members -/

/-- Whether one of the ranges, which are in order, holds a code point. -/
def inOrder : List (Nat × Nat) → Nat → Bool
  | [], _ => false
  | (first, last) :: rest, n => if n < first then false else n ≤ last || inOrder rest n

/-- Whether a code point is in the set. -/
def has (s : CharSet) (n : Nat) : Bool := inOrder s.ranges n

/-- Whether a character is in the set. -/
def holds (s : CharSet) (c : Char) : Bool := s.has c.toNat

/-! ## Ranges in order -/

/-- The code point of the next character.  The surrogates stand for no character. -/
def next (n : Nat) : Nat := if n = 0xd7ff then 0xe000 else n + 1

/-- The code point of the character before. -/
def previous (n : Nat) : Nat := if n = 0xe000 then 0xd7ff else n - 1

/-- The code point of the last character. -/
def maximum : Nat := 0x10ffff

/-- Puts a range into ranges that are ordered by their first members. -/
def insertRange (range : Nat × Nat) : List (Nat × Nat) → List (Nat × Nat)
  | [] => [range]
  | r :: rest => if range.1 ≤ r.1 then range :: r :: rest else r :: insertRange range rest

/-- Ordered ranges with those joined that leave no gap between them; `range` stands before all
others. -/
def joined (range : Nat × Nat) : List (Nat × Nat) → List (Nat × Nat)
  | [] => [range]
  | r :: rest =>
    if r.1 ≤ next range.2 then joined (range.1, max range.2 r.2) rest
    else range :: joined r rest

/-- The set of the code points in some ranges. -/
def ofRanges (ranges : List (Nat × Nat)) : CharSet :=
  match ranges.foldr insertRange [] with
  | [] => ⟨[]⟩
  | r :: rest => ⟨joined r rest⟩

/-- The gaps between ranges that are in order, from `start` on. -/
def gaps (start : Nat) : List (Nat × Nat) → List (Nat × Nat)
  | [] => if start ≤ maximum then [(start, maximum)] else []
  | (first, last) :: rest =>
    if start < first then (start, previous first) :: gaps (next last) rest
    else gaps (next last) rest

/-! ## Operations -/

/-- The set without members. -/
def nothing : CharSet := ⟨[]⟩

/-- Every character. -/
def anything : CharSet := ⟨[(0, maximum)]⟩

/-- The characters of a range. -/
def range (first last : Char) : CharSet := ⟨[(first.toNat, last.toNat)]⟩

/-- The set of one character. -/
def single (c : Char) : CharSet := range c c

/-- The set of the characters of a text. -/
def ofChars (chars : Text) : CharSet := ofRanges (chars.map fun c => (c.toNat, c.toNat))

/-- The characters of either set. -/
def union (a b : CharSet) : CharSet := ofRanges (a.ranges ++ b.ranges)

/-- The characters that are not in the set. -/
def complement (a : CharSet) : CharSet := ⟨gaps 0 a.ranges⟩

/-- The characters of both sets. -/
def intersection (a b : CharSet) : CharSet := (union a.complement b.complement).complement

/-- The characters of the first set that are not in the second. -/
def difference (a b : CharSet) : CharSet := intersection a b.complement

/-- The characters of one set only. -/
def symmetricDifference (a b : CharSet) : CharSet := union (difference a b) (difference b a)

/-- Whether the set holds ASCII characters only. -/
def isAscii (s : CharSet) : Bool := s.ranges.all fun r => r.2 < 0x80

/-- The only member of the set. -/
def only? (s : CharSet) : Option Char :=
  match s.ranges with
  | [(first, last)] => if first = last then some (Char.ofNat first) else none
  | _ => none

/-! ## Case variants -/

/-- The set with all code points that fold to the same code point as a member.  `pairs` lists the
code points that fold to another one, each with that other one. -/
def closedUnder (pairs : List (Nat × Nat)) (s : CharSet) : CharSet :=
  let folded := (pairs.filter fun p => s.has p.1).map fun p => (p.2, p.2)
  let withFolded := ofRanges (s.ranges ++ folded)
  let variants := (pairs.filter fun p => withFolded.has p.2).map fun p => (p.1, p.1)
  ofRanges (withFolded.ranges ++ variants)

/-- Every code point that folds to another one, with that other one. -/
def foldPairs : List (Nat × Nat) := Text.foldRanges.flatMap Text.FoldRange.pairs

/-- The ASCII letters in upper case, each with its lower case. -/
def asciiFoldPairs : List (Nat × Nat) := Text.FoldRange.pairs ⟨0x41, 0x5a, 1, 32⟩

/-- All case variants of the members. -/
def folded (s : CharSet) : CharSet := s.closedUnder foldPairs

/-- The members and the case variants of ASCII letters. -/
def foldedAscii (s : CharSet) : CharSet := s.closedUnder asciiFoldPairs

/-! ## Classes with names -/

/-- Decimal digits of any script. -/
def digit : CharSet := ⟨(0x30, 0x39) :: Text.digitRanges⟩

/-- Word characters of any script. -/
def word : CharSet :=
  ⟨[(0x30, 0x39), (0x41, 0x5a), (0x5f, 0x5f), (0x61, 0x7a)] ++ Text.wordRanges⟩

/-- White space of any script. -/
def blank : CharSet :=
  ⟨[(0x9, 0xd), (0x20, 0x20), (0x85, 0x85), (0xa0, 0xa0), (0x1680, 0x1680), (0x2000, 0x200a),
    (0x2028, 0x2029), (0x202f, 0x202f), (0x205f, 0x205f), (0x3000, 0x3000)]⟩

/-- ASCII decimal digits. -/
def asciiDigit : CharSet := ⟨[(0x30, 0x39)]⟩

/-- ASCII letters, digits and the underscore. -/
def asciiWord : CharSet := ⟨[(0x30, 0x39), (0x41, 0x5a), (0x5f, 0x5f), (0x61, 0x7a)]⟩

/-- ASCII white space. -/
def asciiBlank : CharSet := ⟨[(0x9, 0xd), (0x20, 0x20)]⟩

/-- The classes that are named between colons. -/
def named? (name : String) : Option CharSet :=
  match name with
  | "alnum" => some ⟨[(0x30, 0x39), (0x41, 0x5a), (0x61, 0x7a)]⟩
  | "alpha" => some ⟨[(0x41, 0x5a), (0x61, 0x7a)]⟩
  | "ascii" => some ⟨[(0x0, 0x7f)]⟩
  | "blank" => some ⟨[(0x9, 0x9), (0x20, 0x20)]⟩
  | "cntrl" => some ⟨[(0x0, 0x1f), (0x7f, 0x7f)]⟩
  | "digit" => some asciiDigit
  | "graph" => some ⟨[(0x21, 0x7e)]⟩
  | "lower" => some ⟨[(0x61, 0x7a)]⟩
  | "print" => some ⟨[(0x20, 0x7e)]⟩
  | "punct" => some ⟨[(0x21, 0x2f), (0x3a, 0x40), (0x5b, 0x60), (0x7b, 0x7e)]⟩
  | "space" => some asciiBlank
  | "upper" => some ⟨[(0x41, 0x5a)]⟩
  | "word" => some asciiWord
  | "xdigit" => some ⟨[(0x30, 0x39), (0x41, 0x46), (0x61, 0x66)]⟩
  | _ => none

/-! ## Laws -/

theorem holds_single (c d : Char) : (single c).holds d = decide (c = d) := by
  have same : c = d ↔ c.toNat = d.toNat := by
    constructor
    · rintro rfl; rfl
    · intro h; exact Char.ext (UInt32.toNat_inj.mp h)
  by_cases below : d.toNat < c.toNat
  · have : c ≠ d := fun h => by simp [h] at below
    simp [holds, has, single, range, inOrder, below, this]
  · simp only [holds, has, single, range, inOrder, below, if_false, Bool.or_false, same]
    exact decide_eq_decide.mpr ⟨fun _ => by omega, fun _ => by omega⟩

end CharSet

end Excerpt.Regex
