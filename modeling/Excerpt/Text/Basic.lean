/-!
# Text

Text is the list of its characters, and a place in it is counted in the bytes of its UTF-8 form.
This file holds the operations on plain text that every other part uses: byte lengths, slices
between two byte offsets, taking a known text off the front, the first occurrence of a text, white
space, and hexadecimal digits.
-/

namespace Excerpt

/-- A text, character by character. -/
abbrev Text := List Char

namespace Text

/-! ## Byte lengths -/

/-- The number of bytes of the UTF-8 form. -/
def byteLength : Text → Nat
  | [] => 0
  | c :: rest => c.utf8Size + byteLength rest

@[simp] theorem byteLength_nil : byteLength [] = 0 := rfl

@[simp] theorem byteLength_cons (c : Char) (rest : Text) :
    byteLength (c :: rest) = c.utf8Size + byteLength rest := rfl

@[simp] theorem byteLength_append (front back : Text) :
    byteLength (front ++ back) = byteLength front + byteLength back := by
  induction front with
  | nil => simp
  | cons c rest ih => simp [ih, Nat.add_assoc]

@[simp] theorem byteLength_reverse (t : Text) : byteLength t.reverse = byteLength t := by
  induction t with
  | nil => rfl
  | cons c rest ih => simp [ih, Nat.add_comm]

/-- The longest run of whole characters from the front that fits into `n` bytes. -/
def takeBytes : Nat → Text → Text
  | _, [] => []
  | n, c :: rest => if c.utf8Size ≤ n then c :: takeBytes (n - c.utf8Size) rest else []

/-! ## Slices by bytes -/

/-- The text behind its first `n` bytes, if these are whole characters. -/
def dropBytes? : Nat → Text → Option Text
  | n, [] => if n = 0 then some [] else none
  | n, c :: rest =>
    if n = 0 then some (c :: rest)
    else if c.utf8Size ≤ n then dropBytes? (n - c.utf8Size) rest else none

/-- The first `n` bytes of a text, if these are whole characters. -/
def takeBytes? : Nat → Text → Option Text
  | n, [] => if n = 0 then some [] else none
  | n, c :: rest =>
    if n = 0 then some []
    else if c.utf8Size ≤ n then (takeBytes? (n - c.utf8Size) rest).map (c :: ·) else none

/-- The bytes of a text from `first` up to `last`, if both are in range, in this order, and fall
between two characters. -/
def slice? (t : Text) (first last : Nat) : Option Text :=
  if first ≤ last then (dropBytes? first t).bind (takeBytes? (last - first)) else none

/-! ## Fronts and occurrences -/

/-- What is left of a text after `front`, if the text begins with it. -/
def stripFront? : Text → Text → Option Text
  | [], t => some t
  | _ :: _, [] => none
  | a :: front, c :: rest => if a = c then stripFront? front rest else none

theorem stripFront?_eq_some_iff {front t rest : Text} :
    stripFront? front t = some rest ↔ t = front ++ rest := by
  induction front generalizing t with
  | nil => simp [stripFront?]
  | cons a front ih =>
    cases t with
    | nil => simp [stripFront?]
    | cons c t =>
      by_cases same : a = c
      · simp [stripFront?, same, ih]
      · simp [stripFront?, same, Ne.symm same]

/-- The part of a text before the first place where `pattern` begins, or the whole text. -/
def before (pattern : Text) : Text → Text
  | [] => []
  | c :: rest => if (stripFront? pattern (c :: rest)).isSome then [] else c :: before pattern rest

/-- Whether `pattern` occurs anywhere in a text. -/
def occursIn (pattern : Text) : Text → Bool
  | [] => pattern.isEmpty
  | c :: rest => (stripFront? pattern (c :: rest)).isSome || occursIn pattern rest

/-! ## White space -/

/-- A white-space character of any script. -/
def isBlank (c : Char) : Bool :=
  let n := c.toNat
  (0x9 ≤ n && n ≤ 0xd) || n == 0x20 || n == 0x85 || n == 0xa0 || n == 0x1680 ||
    (0x2000 ≤ n && n ≤ 0x200a) || n == 0x2028 || n == 0x2029 || n == 0x202f || n == 0x205f ||
    n == 0x3000

/-- A text without the white space at its end. -/
def trimEnd (t : Text) : Text :=
  (t.reverse.dropWhile isBlank).reverse

/-- The words of a text: its longest runs free of white space.  `pending` holds the word being
read, last character first. -/
def wordsFrom (pending : Text) : Text → List Text
  | [] => if pending.isEmpty then [] else [pending.reverse]
  | c :: rest =>
    if isBlank c then
      if pending.isEmpty then wordsFrom [] rest else pending.reverse :: wordsFrom [] rest
    else wordsFrom (c :: pending) rest

/-- The words of a text, in order. -/
def words (t : Text) : List Text := wordsFrom [] t

/-! ## Single characters -/

/-- The value of a hexadecimal digit. -/
def hexValue? (c : Char) : Option Nat :=
  if c.isDigit then some (c.toNat - '0'.toNat)
  else if 'a'.toNat ≤ c.toNat ∧ c.toNat ≤ 'f'.toNat then some (c.toNat - 'a'.toNat + 10)
  else if 'A'.toNat ≤ c.toNat ∧ c.toNat ≤ 'F'.toNat then some (c.toNat - 'A'.toNat + 10)
  else none

/-! ## Tables of characters -/

/-- Whether one of the ranges of code points holds the character. -/
def inRanges (table : List (Nat × Nat)) (c : Char) : Bool :=
  table.any fun range => range.1 ≤ c.toNat && c.toNat ≤ range.2

end Text

end Excerpt
