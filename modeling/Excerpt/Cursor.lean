import Excerpt.Error
import Excerpt.Text.Basic

/-!
# Cursors

A cursor is a place between two characters of a text.  It holds what was read and what is still
unread, so it cannot stand inside a character, and its byte offset is the length of what was read
(`Cursor.offset_eq`).  Moving answers a new cursor; the old one remains usable.

`Cursor.advance` moves over one character, `consume` over a known text, `skipTo` up to a text, and
`skipWhile` as long as a test holds of the characters ahead.
-/

namespace Excerpt

/-- A place in a text. -/
@[ext] structure Cursor where
  /-- The characters before the cursor, the nearest first. -/
  read : Text
  /-- The characters after the cursor. -/
  rest : Text
  /-- The number of bytes before the cursor. -/
  offset : Nat
  offset_eq : offset = Text.byteLength read

namespace Cursor

/-- The start of a text. -/
def start (text : Text) : Cursor where
  read := []
  rest := text
  offset := 0
  offset_eq := rfl

/-- The start of a string. -/
def ofString (s : String) : Cursor := start s.toList

/-- The whole text that the cursor stands in. -/
def text (c : Cursor) : Text := c.read.reverse ++ c.rest

/-- Nothing is left to read. -/
def exhausted (c : Cursor) : Bool := c.rest.isEmpty

/-- The next character. -/
def next? (c : Cursor) : Option Char := c.rest.head?

/-- The next `n` characters, or fewer near the end. -/
def peek (c : Cursor) (n : Nat) : Text := c.rest.take n

/-- Whether the unread text begins with `front`. -/
def startsWith (c : Cursor) (front : Text) : Bool := (Text.stripFront? front c.rest).isSome

/-- Two cursors stand at the same place of the same text. -/
instance : BEq Cursor where
  beq a b := a.read == b.read && a.rest == b.rest

/-! ## Moving -/

/-- Past one character; at the end of the text, the same place. -/
def advance (c : Cursor) : Cursor :=
  match c.rest with
  | [] => c
  | ch :: rest =>
    { read := ch :: c.read
      rest := rest
      offset := c.offset + ch.utf8Size
      offset_eq := by simp [c.offset_eq, Nat.add_comm] }

/-- Past `n` characters. -/
def advanceBy : Nat → Cursor → Cursor
  | 0, c => c
  | n + 1, c => advanceBy n c.advance

/-- Past a text that the unread text begins with.  It is an error if it does not. -/
def consume (c : Cursor) (front : Text) : Except ErrorKind Cursor :=
  match Text.stripFront? front c.rest with
  | none => .error (.cursorPrecondition (String.ofList front) c.offset)
  | some rest =>
    .ok
      { read := front.reverse ++ c.read
        rest := rest
        offset := c.offset + Text.byteLength front
        offset_eq := by simp [c.offset_eq, Nat.add_comm] }

/-- Up to the next place where `pattern` begins, or to the end; also answers the text passed
over. -/
def skipTo (c : Cursor) (pattern : Text) : Text × Cursor :=
  let skipped := Text.before pattern c.rest
  (skipped, c.advanceBy skipped.length)

/-- The longest front of a text at each of whose places `skip` accepts the next `lookahead`
characters. -/
def skippable (skip : Text → Bool) (lookahead : Nat) : Text → Text
  | [] => []
  | ch :: rest =>
    if skip ((ch :: rest).take lookahead) then ch :: skippable skip lookahead rest else []

/-- Forward while `skip` accepts the next `lookahead` characters; also answers the text passed
over. -/
def skipWhile (c : Cursor) (skip : Text → Bool) (lookahead : Nat) : Text × Cursor :=
  let skipped := skippable skip lookahead c.rest
  (skipped, c.advanceBy skipped.length)

/-- Past the white space that comes next. -/
def skipBlanks (c : Cursor) : Cursor :=
  (c.skipWhile (fun ahead => ahead.all Text.isBlank) 1).2

/-- The text between a cursor and a later one in the same text. -/
def textTo (c later : Cursor) : Text :=
  Text.takeBytes (later.offset - c.offset) c.rest

/-! ## Laws of moving -/

@[simp] theorem rest_start (t : Text) : (start t).rest = t := rfl

@[simp] theorem offset_start (t : Text) : (start t).offset = 0 := rfl

theorem rest_advance (c : Cursor) : c.advance.rest = c.rest.tail := by
  unfold advance
  split <;> simp [*]

@[simp] theorem text_advance (c : Cursor) : c.advance.text = c.text := by
  unfold advance
  split <;> simp [text, *]

theorem length_rest_advance {c : Cursor} (unread : c.rest ≠ []) :
    c.advance.rest.length < c.rest.length := by
  rw [rest_advance, List.length_tail]
  have := List.length_pos_iff.2 unread
  omega

end Cursor

end Excerpt
