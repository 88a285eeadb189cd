import Excerpt.Text.Printable

/-!
# Quoted text

A quoted text stands between double quotes.  A backslash, a quote and the common controls are
written with a backslash and a letter; a character that cannot be read on its own is written by its
number in braces; every other character stands for itself.
-/

namespace Excerpt.Text

/-- The hexadecimal digits of a number in lower case, without leading zeros. -/
def hexDigits (n : Nat) : Text :=
  Nat.toDigits 16 n

/-- A number in hexadecimal with at least `width` digits. -/
def hexPadded (width n : Nat) : Text :=
  let digits := hexDigits n
  List.replicate (width - digits.length) '0' ++ digits

/-- One character as it stands inside quotes. -/
def quoteChar (c : Char) : Text :=
  if c = '\\' then ['\\', '\\']
  else if c = '"' then ['\\', '"']
  else if c = '\n' then ['\\', 'n']
  else if c = '\t' then ['\\', 't']
  else if c = '\r' then ['\\', 'r']
  else if c.toNat = 0 then ['\\', '0']
  else if isPrintable c then [c]
  else ['\\', 'u', '\x7b'] ++ hexDigits c.toNat ++ ['\x7d']

/-- A text between quotes. -/
def quoteText (t : Text) : String :=
  String.ofList ('"' :: t.flatMap quoteChar ++ ['"'])

/-- A string between quotes. -/
def quote (s : String) : String :=
  quoteText s.toList

end Excerpt.Text
