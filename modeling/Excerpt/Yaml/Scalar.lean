import Excerpt.Decimal.Reader
import Excerpt.Text.Quoted

/-!
# YAML scalars

A string is written in the simplest of four styles that reads back as the same string: plain, in
single quotes, in double quotes with escapes, or as a literal block of lines.  `readsAsOther` tells
the strings that would read back as something else than a string, `Traits` what else stands against
a style, and `chosenStyle` decides.
-/

namespace Excerpt.Yaml

/-! ## Characters -/

/-- A character that ends a line. -/
def isBreak (c : Char) : Bool :=
  c == '\n' || c == '\r' || c.toNat == 0x85 || c.toNat == 0x2028 || c.toNat == 0x2029

/-- A character that needs no escape in any style. -/
def isPrintable (c : Char) : Bool :=
  let n := c.toNat
  n == 0xa || (0x20 ≤ n && n ≤ 0x7e) || (0xa0 ≤ n && n ≤ 0xfffd && n != 0xfeff) || 0x10000 ≤ n

/-- White space, in the sense that sets an indicator apart. -/
def isGap (c : Char) : Bool := c == ' ' || c == '\t' || c.toNat == 0 || isBreak c

/-! ## Strings that read as something else -/

/-- Digits after a leading zero: no number, but easily taken for one. -/
def isPaddedDigits (t : Text) : Bool :=
  let digits := (Decimal.takeSign t).2
  digits.length != 1 && digits.head? == some '0' && digits.all Char.isDigit

/-- The value of digits in a base, of which there must be at least one. -/
def basedValue? (base : Nat) (digits : Text) : Option Nat :=
  if digits.isEmpty then none
  else
    digits.foldl
      (fun n c => do
        let n ← n
        let c := c.toLower
        let d ←
          if c.isDigit then some (c.toNat - '0'.toNat)
          else if 'a'.toNat ≤ c.toNat ∧ c.toNat ≤ 'f'.toNat then some (c.toNat - 'a'.toNat + 10)
          else none
        if d < base then some (base * n + d) else none)
      (some 0)

/-- A whole number of at most 128 bits, decimal or with a base mark, with or without a sign. -/
def isWhole (t : Text) : Bool :=
  let limit := match t with
    | '-' :: _ => Nat.pow 2 127 + 1
    | _ => Nat.pow 2 128
  let fits (base : Nat) (digits : Text) : Bool :=
    match basedValue? base digits with
    | some n => n < limit
    | none => false
  match (Decimal.takeSign t).2 with
  | '0' :: 'x' :: digits => fits 16 digits
  | '0' :: 'o' :: digits => fits 8 digits
  | '0' :: 'b' :: digits => fits 2 digits
  | digits => !isPaddedDigits t && fits 10 digits

/-- A finite number in decimal notation, or one of the names of infinity and of what is no
number. -/
def isNumber (t : Text) : Bool :=
  let s := String.ofList t
  if s ∈ [".inf", ".Inf", ".INF", "+.inf", "+.Inf", "+.INF", "-.inf", "-.Inf", "-.INF", ".nan",
      ".NaN", ".NAN"] then true
  else
    match t with
    | '+' :: '+' :: _ => false
    | '+' :: '-' :: _ => false
    | _ =>
      match Decimal.readFloat? s with
      | some x => x.isFinite
      | none => false

/-- A string that would read back as nothing, a truth value or a number. -/
def readsAsOther (t : Text) : Bool :=
  let s := String.ofList t
  s ∈ ["", "null", "Null", "NULL", "~", "true", "True", "TRUE", "false", "False", "FALSE"] ||
    isWhole t || isPaddedDigits t || isNumber t

/-! ## Styles -/

/-- The styles of a scalar. -/
inductive Style where
  | plain
  | singleQuoted
  | doubleQuoted
  /-- A block of lines. -/
  | literal
  deriving DecidableEq, Repr

/-- Characters that mean something at the front of a plain scalar. -/
def indicators : Text :=
  ['#', ',', '[', ']', '\x7b', '\x7d', '&', '*', '!', '|', '>', '\'', '"', '%', '@', '\x60']

/-- Whether two neighbours in a text pass a test. -/
def anyNeighbours (test : Char → Char → Bool) : Text → Bool
  | a :: b :: rest => test a b || anyNeighbours test (b :: rest)
  | _ => false

/-- Whether a text has something in it that a plain scalar would take for structure. -/
def hasIndicator (t : Text) : Bool :=
  let gapAfterFirst := (t.drop 1).head?.all isGap
  let first := t.head?
  t.take 3 == ['-', '-', '-'] || t.take 3 == ['.', '.', '.'] ||
    first.any indicators.contains ||
    ((first == some '?' || first == some ':' || first == some '-') && gapAfterFirst) ||
    (t.drop 1).getLast? == some ':' ||
    anyNeighbours (fun a b => a == ':' && isGap b) (t.drop 1) ||
    anyNeighbours (fun a b => isGap a && b == '#') t

/-- What stands against some styles of a text. -/
structure Traits where
  multiline : Bool
  plainAllowed : Bool
  singleQuotedAllowed : Bool
  blockAllowed : Bool

/-- The traits of a text. -/
def Traits.ofText (t : Text) : Traits :=
  let lineBreaks := t.any isBreak
  let special := t.any (!isPrintable ·)
  let breakSpace := anyNeighbours (fun a b => isBreak a && b == ' ') t
  let spaceBreak := anyNeighbours (fun a b => a == ' ' && isBreak b) t
  let edge (c : Option Char) : Bool := c == some ' ' || c.any isBreak
  let unquotable := breakSpace || spaceBreak || special
  { multiline := lineBreaks
    plainAllowed :=
      t.isEmpty ||
        !(lineBreaks || unquotable || edge t.head? || edge t.getLast? || hasIndicator t)
    singleQuotedAllowed := !unquotable
    blockAllowed := !(t.isEmpty || t.getLast? == some ' ' || spaceBreak || special) }

/-- The style of a string; a key has to stay on one line. -/
def chosenStyle (isKey : Bool) (t : Text) : Style :=
  let traits := Traits.ofText t
  let quoted := if traits.singleQuotedAllowed then .singleQuoted else .doubleQuoted
  if t.contains '\n' then
    if isKey || !traits.blockAllowed then .doubleQuoted else .literal
  else if isKey && traits.multiline then .doubleQuoted
  else if readsAsOther t || !traits.plainAllowed then quoted
  else .plain

/-! ## Writing -/

/-- A number in hexadecimal capitals with at least `width` digits. -/
def hexCapitals (width n : Nat) : Text := (Text.hexPadded width n).map Char.toUpper

/-- One character in double quotes. -/
def escapeChar (c : Char) : Text :=
  let n := c.toNat
  if isPrintable c && !isBreak c && c != '"' && c != '\\' then [c]
  else if n = 0 then ['\\', '0']
  else if n = 0x7 then ['\\', 'a']
  else if n = 0x8 then ['\\', 'b']
  else if n = 0x9 then ['\\', 't']
  else if n = 0xa then ['\\', 'n']
  else if n = 0xb then ['\\', 'v']
  else if n = 0xc then ['\\', 'f']
  else if n = 0xd then ['\\', 'r']
  else if n = 0x1b then ['\\', 'e']
  else if n = 0x22 then ['\\', '"']
  else if n = 0x5c then ['\\', '\\']
  else if n = 0x85 then ['\\', 'N']
  else if n = 0x2028 then ['\\', 'L']
  else if n = 0x2029 then ['\\', 'P']
  else if n ≤ 0xff then ['\\', 'x'] ++ hexCapitals 2 n
  else ['\\', 'u'] ++ hexCapitals 4 n

/-- A text with `indent` spaces at the front of each of its lines that has anything on it.
`atStart` says that a line begins. -/
def indentLines (indent : Nat) (each : Char → Text) : Bool → Text → Text
  | _, [] => []
  | atStart, c :: rest =>
    if isBreak c then c :: indentLines indent each true rest
    else
      (if atStart then List.replicate indent ' ' else []) ++ each c ++
        indentLines indent each false rest

/-- A text in single quotes. -/
def singleQuoted (indent : Nat) (t : Text) : Text :=
  let each (c : Char) : Text := if c = '\'' then ['\'', '\''] else [c]
  let closing := if t.getLast?.any isBreak then List.replicate indent ' ' else []
  '\'' :: indentLines indent each false t ++ closing ++ ['\'']

/-- The marks behind the bar of a literal block: the indentation, if the text does not show it, and
what becomes of the breaks at its end. -/
def blockHints (t : Text) : Text :=
  let indentation := if t.head?.any fun c => c == ' ' || isBreak c then ['2'] else []
  let chomping :=
    match t.reverse with
    | last :: before =>
      if !isBreak last then ['-']
      else if before.isEmpty || before.head?.any isBreak then ['+']
      else []
    | [] => ['-']
  indentation ++ chomping

/-- A string as a scalar whose further lines stand `indent` spaces in. -/
def scalar (isKey : Bool) (indent : Nat) (s : String) : Text :=
  let t := s.toList
  match chosenStyle isKey t with
  | .plain => t
  | .singleQuoted => singleQuoted indent t
  | .doubleQuoted => '"' :: t.flatMap escapeChar ++ ['"']
  | .literal => '|' :: blockHints t ++ ['\n'] ++ indentLines indent (fun c => [c]) true t

end Excerpt.Yaml
