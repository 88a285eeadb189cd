import Excerpt.Decimal.Shortest
import Excerpt.Text.Basic

/-!
# Writing numbers

A `Layout` says how a format writes the digits of a number: which numbers it writes with an
exponent, whether a whole number shows `.0`, and how it spells what is no number.  `Layout.render`
writes any floating-point number in a layout.
-/

namespace Excerpt.Decimal

/-- How a format writes numbers. -/
structure Layout where
  /-- Which of two equally near shortest decimals is written. -/
  tie : Tie
  /-- Numbers below `0.1 * 10 ^ lowest` or from `10 ^ highest` up are written with an exponent;
  `none` writes every number in full. -/
  positional : Option (Int × Int)
  /-- Whether a whole number is written with `.0`. -/
  wholeMark : Bool
  /-- Whether an exponent that is not negative has a plus sign. -/
  plusSign : Bool
  nan : String
  infinity : String
  negativeInfinity : String
  deriving DecidableEq, Repr

/-- Decimal digits of a natural number. -/
def digitText (n : Nat) : Text := Nat.toDigits 10 n

/-- Digits in full: `point` is the number of digits before the decimal point. -/
def Layout.inFull (layout : Layout) (digits : Text) (point : Int) : Text :=
  let count : Int := digits.length
  if point ≤ 0 then ['0', '.'] ++ List.replicate (-point).toNat '0' ++ digits
  else if point < count then digits.take point.toNat ++ ['.'] ++ digits.drop point.toNat
  else
    digits ++ List.replicate (point - count).toNat '0' ++
      (if layout.wholeMark then ['.', '0'] else [])

/-- Digits with an exponent: one digit before the decimal point. -/
def Layout.withExponent (layout : Layout) (digits : Text) (point : Int) : Text :=
  let power := point - 1
  let sign := if power < 0 then ['-'] else if layout.plusSign then ['+'] else []
  digits.take 1 ++ (if digits.length ≤ 1 then [] else '.' :: digits.drop 1) ++
    ['e'] ++ sign ++ digitText power.natAbs

/-- A decimal in a layout. -/
def Layout.magnitude (layout : Layout) (d : Digits) : Text :=
  let digits := digitText d.digits
  let point := (digits.length : Int) + d.exponent
  match layout.positional with
  | none => layout.inFull digits point
  | some (lowest, highest) =>
    if lowest < point && point ≤ highest then layout.inFull digits point
    else layout.withExponent digits point

/-- A number in a layout. -/
def Layout.render (layout : Layout) (x : Float) : String :=
  match Parts.ofFloat x with
  | .nan => layout.nan
  | .infinite true => layout.negativeInfinity
  | .infinite false => layout.infinity
  | .finite negative b =>
    String.ofList ((if negative then ['-'] else []) ++ layout.magnitude (b.shortest layout.tie))

end Excerpt.Decimal
