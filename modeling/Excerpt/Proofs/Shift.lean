import Excerpt.Extracted
import Excerpt.Proofs.Cursor

/-!
# A text behind another one

The same place in a longer text: `Cursor.after front c` is the cursor `c` where `front` comes before
the text.  It sees the same unread text at a greater offset, and moves as `c` does (`Moves.after`).

What is answered there should differ in its offsets only.  `shift k` makes all offsets larger by
`k`, in a match with all its parts, in a failure with all its causes, and in whole outcomes.  It
passes through every way in which matches are built, so that both sides can be computed step by
step.
-/

namespace Excerpt

/-! ## Shifted answers -/

namespace Match

mutual

/-- The same tree with all offsets larger by `k`. -/
def shift (k : Nat) : Match → Match
  | ⟨id, matched, offset, value, name, children, context⟩ =>
    ⟨id, matched, offset + k, value, name, shiftAll k children, context⟩

/-- The same trees with all offsets larger by `k`. -/
def shiftAll (k : Nat) : List Match → List Match
  | [] => []
  | m :: rest => m.shift k :: shiftAll k rest

end

theorem shiftAll_eq_map (k : Nat) (ms : List Match) : shiftAll k ms = ms.map (shift k) := by
  induction ms with
  | nil => rfl
  | cons m ms ih => rw [shiftAll, ih, List.map_cons]

section Fields

variable (k : Nat) (m : Match)

@[simp] theorem id_shift : (m.shift k).id = m.id := by cases m; rfl

@[simp] theorem matched_shift : (m.shift k).matched = m.matched := by cases m; rfl

@[simp] theorem offset_shift : (m.shift k).offset = m.offset + k := by cases m; rfl

@[simp] theorem value_shift : (m.shift k).value = m.value := by cases m; rfl

@[simp] theorem name_shift : (m.shift k).name = m.name := by cases m; rfl

@[simp] theorem context_shift : (m.shift k).context = m.context := by cases m; rfl

@[simp] theorem children_shift : (m.shift k).children = m.children.map (shift k) := by
  cases m
  exact shiftAll_eq_map k _

theorem shift_withName (name : String) : (m.withName name).shift k = (m.shift k).withName name := by
  cases m
  rfl

theorem shift_withValue (value : Value) :
    (m.withValue value).shift k = (m.shift k).withValue value := by
  cases m
  rfl

theorem shift_ofSequence (id : String) (matched : Text) (offset : Nat) (children : List Match)
    (context : Fields) :
    (ofSequence id matched offset children context).shift k =
      ofSequence id matched (offset + k) (children.map (shift k)) context := by
  rw [ofSequence, shift, shiftAll_eq_map]
  rfl

theorem shift_ofElements (id : String) (matched : Text) (offset : Nat) (children : List Match) :
    (ofElements id matched offset children).shift k =
      ofElements id matched (offset + k) (children.map (shift k)) := by
  have hvalues : (children.map (shift k)).map value = children.map value := by
    rw [List.map_map]
    exact List.map_congr_left fun m _ => value_shift k m
  rw [ofElements, shift, shiftAll_eq_map, ofElements, hvalues]

end Fields

end Match

/-- The same error with its offset, if it has one, larger by `k`. -/
def ErrorKind.shift (k : Nat) : ErrorKind → ErrorKind
  | .cursorPrecondition expected offset => .cursorPrecondition expected (offset + k)
  | error => error

mutual

/-- The same reason with all offsets larger by `k`. -/
def Reason.shift (k : Nat) : Reason → Reason
  | .atStep step cause => .atStep step (cause.shift k)
  | .misreported error => .misreported (error.shift k)
  | reason => reason

/-- The same failure with all offsets larger by `k`. -/
def Failure.shift (k : Nat) : Failure → Failure
  | .mk id offset context reason => .mk id (offset + k) context (reason.shift k)

end

/-- The same outcome with all offsets larger by `k`. -/
def Outcome.shift (k : Nat) : Outcome → Outcome
  | .success m => .success (m.shift k)
  | .failure f => .failure (f.shift k)
  | .absent id offset => .absent id (offset + k)

@[simp] theorem Outcome.isMatch_shift (k : Nat) (o : Outcome) :
    (o.shift k).isMatch = o.isMatch := by
  cases o <;> rfl

/-- The same match for a caller, with all offsets larger by `k`. -/
def Extracted.shift (k : Nat) (e : Extracted) : Extracted := ⟨e.tree.shift k, e.value⟩

theorem Extracted.shift_ofMatch (k : Nat) (m : Match) :
    (ofMatch m).shift k = ofMatch (m.shift k) := by
  rw [ofMatch, ofMatch, Match.value_shift]
  rfl

/-! ## Shifted places -/

namespace Cursor

/-- The same place where `front` comes before the text. -/
def after (front : Text) (c : Cursor) : Cursor where
  read := c.read ++ front.reverse
  rest := c.rest
  offset := c.offset + Text.byteLength front
  offset_eq := by rw [Text.byteLength_append, Text.byteLength_reverse, c.offset_eq]

variable (front : Text) (c : Cursor)

@[simp] theorem rest_after : (c.after front).rest = c.rest := rfl

@[simp] theorem offset_after : (c.after front).offset = c.offset + Text.byteLength front := rfl

@[simp] theorem exhausted_after : (c.after front).exhausted = c.exhausted := rfl

@[simp] theorem next?_after : (c.after front).next? = c.next? := rfl

@[simp] theorem startsWith_after (t : Text) : (c.after front).startsWith t = c.startsWith t := rfl

/-- A place is that in its unread text, behind what was read. -/
theorem eq_start_after {c : Cursor} {front rest : Text} (htext : c.text = front ++ rest)
    (hoffset : c.offset = Text.byteLength front) : c = (start rest).after front := by
  have hread : c.read.reverse = front := by
    have hfront := Text.takeBytes_append front rest
    rw [← htext, ← hoffset, c.offset_eq, ← Text.byteLength_reverse, text, Text.takeBytes_append]
      at hfront
    exact hfront
  have hrest : c.rest = rest := by
    rw [text, hread] at htext
    exact List.append_cancel_left htext
  refine Cursor.ext ?_ hrest ?_
  · show c.read = [] ++ front.reverse
    rw [List.nil_append, ← hread, List.reverse_reverse]
  · show c.offset = 0 + Text.byteLength front
    rw [hoffset, Nat.zero_add]

theorem Moves.after {c c' : Cursor} {t : Text} (h : c.Moves t c') (front : Text) :
    (c.after front).Moves t (c'.after front) := by
  refine ⟨h.rest_eq, ?_⟩
  show c'.read ++ front.reverse = t.reverse ++ (c.read ++ front.reverse)
  rw [h.read_eq, List.append_assoc]

theorem advance_after : (c.after front).advance = c.advance.after front := by
  cases hrest : c.rest with
  | nil => rw [advance_of_nil hrest, advance_of_nil (c := c.after front) hrest]
  | cons ch rest =>
    exact (moves_advance (c := c.after front) hrest).eq ((moves_advance hrest).after front)

theorem advanceBy_after (n : Nat) : (c.after front).advanceBy n = (c.advanceBy n).after front := by
  induction n generalizing c with
  | zero => rfl
  | succ n ih => rw [advanceBy, advanceBy, advance_after, ih]

theorem consume_after (t : Text) :
    (c.after front).consume t =
      match c.consume t with
      | .error error => .error (error.shift (Text.byteLength front))
      | .ok c' => .ok (c'.after front) := by
  cases htaken : c.consume t with
  | ok c' => exact consume_eq_ok_iff.2 ((consume_eq_ok_iff.1 htaken).after front)
  | error error =>
    unfold consume at htaken ⊢
    rw [rest_after]
    split at htaken
    · cases htaken
      rfl
    · cases htaken

theorem skipTo_after (pattern : Text) :
    (c.after front).skipTo pattern = ((c.skipTo pattern).1, (c.skipTo pattern).2.after front) := by
  rw [skipTo, skipTo, rest_after, advanceBy_after]

theorem skipWhile_after (skip : Text → Bool) (lookahead : Nat) :
    (c.after front).skipWhile skip lookahead =
      ((c.skipWhile skip lookahead).1, (c.skipWhile skip lookahead).2.after front) := by
  rw [skipWhile, skipWhile, rest_after, advanceBy_after]

theorem ready_after (skipsBlanks : Bool) :
    (c.after front).ready skipsBlanks = (c.ready skipsBlanks).after front := by
  cases skipsBlanks with
  | false => rfl
  | true => exact congrArg Prod.snd (skipWhile_after front c _ 1)

theorem textTo_after (later : Cursor) :
    (c.after front).textTo (later.after front) = c.textTo later := by
  rw [textTo, textTo, offset_after, offset_after, Nat.add_sub_add_right, rest_after]

end Cursor

end Excerpt
