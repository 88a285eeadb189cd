import Excerpt.Text.Basic

/-!
# Reading numbers

A decimal number is an optional sign, digits with at most one point among them, and an optional
exponent; or one of the words `inf`, `infinity` and `nan` in any mixture of cases.  `readFloat?`
answers the nearest floating-point number.
-/

namespace Excerpt.Decimal

/-- The value of decimal digits read after the number `n`. -/
def digitsValue (n : Nat) (digits : Text) : Nat :=
  digits.foldl (fun n c => 10 * n + (c.toNat - '0'.toNat)) n

/-- A sign at the front, and what follows it. -/
def takeSign : Text → Bool × Text
  | '-' :: rest => (true, rest)
  | '+' :: rest => (false, rest)
  | t => (false, t)

/-- The exponent at the end of a number: nothing, or `e` and a signed whole number. -/
def exponent? : Text → Option Int
  | [] => some 0
  | c :: rest =>
    if c = 'e' ∨ c = 'E' then
      let (negative, digits) := takeSign rest
      if digits.isEmpty || !digits.all Char.isDigit then none
      else
        let value : Int := digitsValue 0 digits
        some (if negative then -value else value)
    else none

/-- The number `mantissa * 10 ^ exponent`, rounded to the nearest.  Beyond the range of
floating-point numbers it is zero or infinite, which spares forming huge powers. -/
def nearest (mantissa : Nat) (exponent : Int) : Float :=
  let point := ((Nat.toDigits 10 mantissa).length : Int) + exponent
  if mantissa == 0 || point < -400 then 0
  else if 400 < point then 1 / 0
  else Float.ofScientific mantissa (exponent < 0) exponent.natAbs

/-- The number written by digits, a point and an exponent. -/
def readDigits? (t : Text) : Option Float :=
  let whole := t.takeWhile Char.isDigit
  let afterWhole := t.dropWhile Char.isDigit
  let (fraction, afterFraction) :=
    match afterWhole with
    | '.' :: rest => (rest.takeWhile Char.isDigit, rest.dropWhile Char.isDigit)
    | _ => ([], afterWhole)
  if whole.isEmpty && fraction.isEmpty then none
  else
    (exponent? afterFraction).map fun e =>
      nearest (digitsValue 0 (whole ++ fraction)) (e - fraction.length)

/-- A number in decimal notation or by name. -/
def readFloat? (s : String) : Option Float :=
  let (negative, body) := takeSign s.toList
  let name := String.ofList (body.map Char.toLower)
  let magnitude? :=
    if name = "inf" ∨ name = "infinity" then some (1 / 0)
    else if name = "nan" then some (0 / 0)
    else readDigits? body
  magnitude?.map fun x => if negative then -x else x

end Excerpt.Decimal
