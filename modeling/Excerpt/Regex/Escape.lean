import Excerpt.Regex.Fault
import Excerpt.Regex.Flags
import Excerpt.Regex.NamedClass

/-!
# Escape sequences

What a backslash and the characters behind it stand for (`escape`): a character, a class of
characters or a place.
-/

namespace Excerpt.Regex

/-- What an escape sequence stands for. -/
inductive Atom where
  | char (c : Char)
  | set (s : CharSet)
  | place (p : Place)

/-! ## Character numbers -/

/-- The character with a number, if there is one. -/
def charOfNumber (n : Nat) : Except Fault Char :=
  if n.isValidChar then .ok (Char.ofNat n) else .error .badCharacterNumber

/-- Exactly `count` hexadecimal digits of a character number. -/
def fixedHex (f : Flags) : Nat → Nat → Text → Except Fault (Char × Text)
  | 0, n, t => do return (← charOfNumber n, f.skip t)
  | count + 1, n, t =>
    match f.skip t with
    | [] => .error .danglingBackslash
    | c :: rest =>
      match Text.hexValue? c with
      | some d => fixedHex f count (16 * n + d) rest
      | none => .error .badCharacterNumber

/-- Hexadecimal digits of a character number up to a closing brace.  `fuel` is above the length of
the text. -/
def bracedHex (f : Flags) : Nat → Option Nat → Text → Except Fault (Char × Text)
  | 0, _, _ => .error .badCharacterNumber
  | fuel + 1, n, t =>
    match f.skip t with
    | [] => .error .danglingBackslash
    | c :: rest =>
      if c = '\x7d' then
        match n with
        | some n => do return (← charOfNumber n, f.skip rest)
        | none => .error .badCharacterNumber
      else
        match Text.hexValue? c with
        | some d => bracedHex f fuel (some (16 * n.getD 0 + d)) rest
        | none => .error .badCharacterNumber

/-- A character number: `digits` digits, or any number of them in braces. -/
def characterNumber (f : Flags) (digits : Nat) (t : Text) : Except Fault (Char × Text) :=
  match f.skip t with
  | '\x7b' :: rest => bracedHex f (rest.length + 1) none rest
  | t => fixedHex f digits 0 t

/-- A character number of two digits, or of any number of them in braces.  Where the flags know
ASCII only, two digits stand for a byte, and a byte beyond ASCII is no text. -/
def byteNumber (f : Flags) (t : Text) : Except Fault (Char × Text) := do
  let (c, rest) ← characterNumber f 2 t
  let isByte := (f.skip t).head? != some '\x7b'
  if f.asciiOnly && isByte && 0x80 ≤ c.toNat then throw .notText
  return (c, rest)

/-! ## Classes and boundaries -/

/-- The class with a letter: digits, word characters or white space, or their complement. -/
def letterClass (f : Flags) (letter : Char) : Except Fault CharSet :=
  let base :=
    if letter.toLower = 'd' then if f.asciiOnly then CharSet.asciiDigit else .digit
    else if letter.toLower = 's' then if f.asciiOnly then .asciiBlank else .blank
    else f.wordSet
  if letter.isLower then .ok base
  else if f.asciiOnly then .error .notText
  else .ok base.complement

/-- The name of a class in braces, up to the closing one.  `fuel` is above the length of the
text. -/
def className (f : Flags) : Nat → Text → Except Fault (Text × Text)
  | 0, _ => .error .danglingBackslash
  | fuel + 1, t =>
    match f.skip t with
    | [] => .error .danglingBackslash
    | c :: rest =>
      if c = '\x7d' then .ok ([], rest)
      else do
        let (name, rest) ← className f fuel rest
        return (c :: name, rest)

/-- The set that a text in braces stands for, and whether it stands for its complement: a name, or a
name and a value it has or has not. -/
def setOfName? (t : Text) : Option (CharSet × Bool) :=
  let unequal := Text.before ['!', '='] t
  let colon := Text.before [':'] t
  let equal := Text.before ['='] t
  if unequal.length < t.length then
    (CharSet.ofValue? unequal (t.drop (unequal.length + 2))).map (·, true)
  else if colon.length < t.length then
    (CharSet.ofValue? colon (t.drop (colon.length + 1))).map (·, false)
  else if equal.length < t.length then
    (CharSet.ofValue? equal (t.drop (equal.length + 1))).map (·, false)
  else (CharSet.ofName? t).map (·, false)

/-- A class with a name of one letter or in braces, or its complement. -/
def namedClass (f : Flags) (negated : Bool) (t : Text) : Except Fault (CharSet × Text) := do
  let (name, rest) ←
    match f.skip t with
    | [] => throw .danglingBackslash
    | '\x7b' :: rest => className f (rest.length + 1) rest
    | c :: rest => if c = '\\' then throw .unknownClass else pure ([c], rest)
  if f.asciiOnly then throw .unknownClass
  match setOfName? name with
  | some (s, unequal) =>
    let s := f.close s
    return (if negated != unequal then s.complement else s, rest)
  | none => throw .unknownClass

/-- A character in the name of a kind of word boundary. -/
def isBoundaryChar (c : Char) : Bool := c.isAlpha || c == '-'

/-- The name of a kind of word boundary, up to the first character that is not in it.  `fuel` is at
least the length of the text. -/
def boundaryName (f : Flags) : Nat → Text → Text × Text
  | fuel + 1, c :: rest =>
    if isBoundaryChar c then
      let (name, rest) := boundaryName f fuel (f.skip rest)
      (c :: name, rest)
    else ([], c :: rest)
  | _, t => ([], t)

/-- What follows `\b`: a kind of word boundary in braces, or nothing that concerns it. -/
def boundaryKind (f : Flags) (t : Text) : Except Fault (Place × Text) :=
  let members := f.wordSet
  match t with
  | '\x7b' :: rest =>
    let inside := f.skip rest
    match inside with
    | [] => .error .badBoundary
    | c :: _ =>
      if !isBoundaryChar c then .ok (.boundary members, t)
      else
        match boundaryName f inside.length inside with
        | (name, '\x7d' :: after) =>
          match String.ofList name with
          | "start" => .ok (.wordStart members, after)
          | "end" => .ok (.wordEnd members, after)
          | "start-half" => .ok (.wordStartHalf members, after)
          | "end-half" => .ok (.wordEndHalf members, after)
          | _ => .error .badBoundary
        | _ => .error .badBoundary
  | _ => .ok (.boundary members, t)

/-! ## Escape sequences -/

/-- Characters that may follow a backslash to stand for themselves. -/
def isEscapable (c : Char) : Bool :=
  c.toNat < 0x80 && !c.isAlphanum && c != '<' && c != '>'

/-- An escape sequence, without its backslash. -/
def escape (f : Flags) : Text → Except Fault (Atom × Text)
  | [] => .error .danglingBackslash
  | c :: rest =>
    if c.isDigit then .error .backReference
    else if isEscapable c then .ok (.char c, rest)
    else
      match c with
      | 'x' => do let (c, rest) ← byteNumber f rest; return (.char c, rest)
      | 'u' => do let (c, rest) ← characterNumber f 4 rest; return (.char c, rest)
      | 'U' => do let (c, rest) ← characterNumber f 8 rest; return (.char c, rest)
      | 'd' | 'D' | 's' | 'S' | 'w' | 'W' => do return (.set (← letterClass f c), rest)
      | 'p' | 'P' => do
        let (s, rest) ← namedClass f (c == 'P') rest
        return (.set s, rest)
      | 'a' => .ok (.char '\x07', rest)
      | 'f' => .ok (.char '\x0c', rest)
      | 't' => .ok (.char '\t', rest)
      | 'n' => .ok (.char '\n', rest)
      | 'r' => .ok (.char '\r', rest)
      | 'v' => .ok (.char '\x0b', rest)
      | 'A' => .ok (.place .textStart, rest)
      | 'z' => .ok (.place .textEnd, rest)
      | 'b' => do let (p, rest) ← boundaryKind f rest; return (.place p, rest)
      | 'B' => .ok (.place (.noBoundary f.wordSet), rest)
      | '<' => .ok (.place (.wordStart f.wordSet), rest)
      | '>' => .ok (.place (.wordEnd f.wordSet), rest)
      | _ => .error .unknownEscape

end Excerpt.Regex
