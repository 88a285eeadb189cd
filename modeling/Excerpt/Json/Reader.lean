import Excerpt.Text.Basic

/-!
# Reading JSON

The parts of JSON that a settings document needs: passing over values whose content does not matter,
and reading the members of an object one by one.  Every reader answers the text after what it read,
or nothing if that is no JSON.
-/

namespace Excerpt.Json

/-- The text after white space. -/
def skipSpace (t : Text) : Text :=
  t.dropWhile fun c => c == ' ' || c == '\n' || c == '\t' || c == '\r'

/-- Four hexadecimal digits. -/
def hexUnit? : Text → Option (Nat × Text)
  | a :: b :: c :: d :: rest => do
    let a ← Text.hexValue? a
    let b ← Text.hexValue? b
    let c ← Text.hexValue? c
    let d ← Text.hexValue? d
    return (((a * 16 + b) * 16 + c) * 16 + d, rest)
  | _ => none

/-- The character of a one-letter escape. -/
def escaped? (c : Char) : Option Char :=
  if c = '"' ∨ c = '\\' ∨ c = '/' then some c
  else if c = 'b' then some '\x08'
  else if c = 'f' then some '\x0c'
  else if c = 'n' then some '\n'
  else if c = 'r' then some '\r'
  else if c = 't' then some '\t'
  else none

/-- The rest of a string behind its opening quote.  `content` holds the characters so far, the last
one first, and nothing once half of a surrogate pair stood alone.  `fuel` is above the length of the
text. -/
def stringRest? : Nat → Option Text → Text → Option (Option Text × Text)
  | 0, _, _ => none
  | _ + 1, _, [] => none
  | _ + 1, content, '"' :: rest => some (content.map List.reverse, rest)
  | fuel + 1, content, '\\' :: 'u' :: rest =>
    match hexUnit? rest with
    | none => none
    | some (unit, rest) =>
      if 0xd800 ≤ unit ∧ unit < 0xdc00 then
        match rest with
        | '\\' :: 'u' :: after =>
          match hexUnit? after with
          | none => none
          | some (low, after) =>
            if 0xdc00 ≤ low ∧ low < 0xe000 then
              let c := Char.ofNat (0x10000 + (unit - 0xd800) * 0x400 + (low - 0xdc00))
              stringRest? fuel (content.map (c :: ·)) after
            else stringRest? fuel none rest
        | _ => stringRest? fuel none rest
      else if 0xdc00 ≤ unit ∧ unit < 0xe000 then stringRest? fuel none rest
      else stringRest? fuel (content.map (Char.ofNat unit :: ·)) rest
  | fuel + 1, content, '\\' :: c :: rest =>
    match escaped? c with
    | none => none
    | some c => stringRest? fuel (content.map (c :: ·)) rest
  | fuel + 1, content, c :: rest =>
    if c.toNat < 0x20 then none else stringRest? fuel (content.map (c :: ·)) rest

/-- A string behind its opening quote; its content, unless it holds half of a surrogate pair. -/
def string? (t : Text) : Option (Option Text × Text) := stringRest? (t.length + 1) (some []) t

/-- The text after a number. -/
def number? (t : Text) : Option Text :=
  let t := match t with
    | '-' :: rest => rest
    | _ => t
  let whole := t.takeWhile Char.isDigit
  let t := t.drop whole.length
  if whole.isEmpty || (whole.head? == some '0' && whole.length != 1) then none
  else
    let afterFraction? :=
      match t with
      | '.' :: rest =>
        let digits := rest.takeWhile Char.isDigit
        if digits.isEmpty then none else some (rest.drop digits.length)
      | _ => some t
    afterFraction?.bind fun t =>
      match t with
      | c :: rest =>
        if c = 'e' ∨ c = 'E' then
          let rest := match rest with
            | '+' :: rest => rest
            | '-' :: rest => rest
            | _ => rest
          let digits := rest.takeWhile Char.isDigit
          if digits.isEmpty then none else some (rest.drop digits.length)
        else some t
      | [] => some []

mutual

/-- The text after a value.  `fuel` is above twice the length of the text. -/
def skipValue? : Nat → Text → Option Text
  | 0, _ => none
  | fuel + 1, t =>
    match skipSpace t with
    | '"' :: rest => (string? rest).map Prod.snd
    | '[' :: rest =>
      match skipSpace rest with
      | ']' :: rest => some rest
      | _ => skipElements? fuel rest
    | '\x7b' :: rest =>
      match skipSpace rest with
      | '\x7d' :: rest => some rest
      | _ => skipMembers? fuel rest
    | 't' :: rest => Text.stripFront? ['r', 'u', 'e'] rest
    | 'f' :: rest => Text.stripFront? ['a', 'l', 's', 'e'] rest
    | 'n' :: rest => Text.stripFront? ['u', 'l', 'l'] rest
    | t => number? t

/-- The text after the elements of an array and its closing bracket. -/
def skipElements? : Nat → Text → Option Text
  | 0, _ => none
  | fuel + 1, t =>
    match skipValue? fuel t with
    | none => none
    | some rest =>
      match skipSpace rest with
      | ',' :: rest => skipElements? fuel rest
      | ']' :: rest => some rest
      | _ => none

/-- The text after the members of an object and its closing brace. -/
def skipMembers? : Nat → Text → Option Text
  | 0, _ => none
  | fuel + 1, t =>
    match skipSpace t with
    | '"' :: rest =>
      match string? rest with
      | none => none
      | some (_, rest) =>
        match skipSpace rest with
        | ':' :: rest =>
          match skipValue? fuel rest with
          | none => none
          | some rest =>
            match skipSpace rest with
            | ',' :: rest => skipMembers? fuel rest
            | '\x7d' :: rest => some rest
            | _ => none
        | _ => none
    | _ => none

end

/-- A truth value. -/
def bool? (t : Text) : Option (Bool × Text) :=
  match skipSpace t with
  | 't' :: rest => (Text.stripFront? ['r', 'u', 'e'] rest).map (true, ·)
  | 'f' :: rest => (Text.stripFront? ['a', 'l', 's', 'e'] rest).map (false, ·)
  | _ => none

/-- The key of a member with its colon. -/
def key? (t : Text) : Option (Text × Text) :=
  match skipSpace t with
  | '"' :: rest =>
    match string? rest with
    | some (some key, rest) =>
      match skipSpace rest with
      | ':' :: rest => some (key, rest)
      | _ => none
    | _ => none
  | _ => none

end Excerpt.Json
