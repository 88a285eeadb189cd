import Excerpt.Text.Basic

/-!
# Characters as bytes

The UTF-8 forms of all characters of a range, as few sequences of byte ranges as the form allows:
the bytes that begin alike stay together where the ranges behind them are full.
-/

namespace Excerpt.Regex

/-- The bytes from one to another. -/
structure ByteRange where
  first : Nat
  last : Nat
  deriving DecidableEq, Repr

/-- The bytes of the UTF-8 form of a code point. -/
def utf8Bytes (n : Nat) : List Nat :=
  if n < 0x80 then [n]
  else if n < 0x800 then [0xc0 + n / 64, 0x80 + n % 64]
  else if n < 0x10000 then [0xe0 + n / 4096, 0x80 + n / 64 % 64, 0x80 + n % 64]
  else [0xf0 + n / 262144, 0x80 + n / 4096 % 64, 0x80 + n / 64 % 64, 0x80 + n % 64]

/-- The bytes of the UTF-8 form of a text. -/
def textBytes (t : Text) : List Nat := t.flatMap fun c => utf8Bytes c.toNat

/-- The last code points whose forms have one, two and three bytes. -/
def lengthEnds : List Nat := [0x7f, 0x7ff, 0xffff]

/-- Where a range is cut so that its front, or what is left, fills blocks of `size` code points. -/
def blockCut? (first last size : Nat) : Option Nat :=
  if first / size = last / size then none
  else if first % size ≠ 0 then some ((first / size + 1) * size)
  else if last % size ≠ size - 1 then some (last / size * size)
  else none

/-- The first code point of the second part, if the forms of a range are more than one sequence. -/
def cut? (first last : Nat) : Option Nat :=
  match lengthEnds.find? fun n => first ≤ n && n < last with
  | some n => some (n + 1)
  | none => if last < 0x80 then none else [64, 4096, 262144].findSome? (blockCut? first last)

/-- The UTF-8 forms of the characters from `first` to `last`, in order.  `fuel` bounds the number
of cuts one inside another: there is one at the surrogates, there are three between lengths, and
two for each size of a block. -/
def byteSequences : Nat → Nat → Nat → List (List ByteRange)
  | 0, _, _ => []
  | fuel + 1, first, last =>
    if first < 0xe000 && 0xd7ff < last then
      byteSequences fuel first 0xd7ff ++ byteSequences fuel 0xe000 last
    else if last < first then []
    else
      match cut? first last with
      | some n => byteSequences fuel first (n - 1) ++ byteSequences fuel n last
      | none => [List.zipWith ByteRange.mk (utf8Bytes first) (utf8Bytes last)]

/-- The UTF-8 forms of the code points in some ranges. -/
def bytesOfRanges (ranges : List (Nat × Nat)) : List (List ByteRange) :=
  ranges.flatMap fun r => byteSequences 16 r.1 r.2

end Excerpt.Regex
