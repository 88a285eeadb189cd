/-!
# Shortest decimals

The decimal with the fewest digits that reads back as a given floating-point number.

A finite number is `mantissa * 2 ^ exponent` (`Binary`).  All reals between the middles to its two
neighbours read back as it, both middles included when the mantissa is even (`Binary.Interval`).
For one digit, two digits and so on, the two points of the decimal grid next to the number are
tested: the first grid with a point in the interval wins, and of two points the nearer one.  Which
of two equally near points wins is for the format that writes the number (`Tie`).
-/

namespace Excerpt.Decimal

/-- A finite non-negative number `mantissa * 2 ^ exponent`. -/
structure Binary where
  mantissa : Nat
  exponent : Int
  /-- The number below is only half as far away as the number above. -/
  narrowBelow : Bool
  deriving DecidableEq, Repr

/-- A decimal `digits * 10 ^ exponent`. -/
structure Digits where
  digits : Nat
  exponent : Int
  deriving DecidableEq, Repr

/-- What a floating-point number is. -/
inductive Parts where
  | nan
  | infinite (negative : Bool)
  | finite (negative : Bool) (magnitude : Binary)
  deriving DecidableEq, Repr

/-- The parts of a number, read off its 64 bits. -/
def Parts.ofBits (bits : UInt64) : Parts :=
  let n := bits.toNat
  let negative := n / Nat.pow 2 63 == 1
  let exponent : Nat := n / Nat.pow 2 52 % Nat.pow 2 11
  let fraction : Nat := n % Nat.pow 2 52
  if exponent == 2047 then
    if fraction == 0 then .infinite negative else .nan
  else if exponent == 0 then .finite negative ⟨fraction, -1074, false⟩
  else
    .finite negative
      ⟨fraction + Nat.pow 2 52, (exponent : Int) - 1075, fraction == 0 && exponent != 1⟩

/-- The parts of a number. -/
def Parts.ofFloat (x : Float) : Parts := .ofBits x.toBits

/-! ## The interval that reads back -/

/-- The reals that read back as a number, in units of `1 / unit`, with the number itself. -/
structure Interval where
  low : Nat
  value : Nat
  high : Nat
  unit : Nat
  closed : Bool

/-- The interval of a number, scaled so that its ends are whole. -/
def Binary.interval (b : Binary) : Interval :=
  let up := Nat.pow 2 b.exponent.toNat
  { low := (4 * b.mantissa - if b.narrowBelow then 1 else 2) * up
    value := 4 * b.mantissa * up
    high := (4 * b.mantissa + 2) * up
    unit := 4 * Nat.pow 2 (-b.exponent).toNat
    closed := b.mantissa % 2 == 0 }

/-- Whether the point `digits * 10 ^ exponent` lies in the interval. -/
def Interval.holds (i : Interval) (d : Digits) : Bool :=
  let point := d.digits * Nat.pow 10 d.exponent.toNat * i.unit
  let scale := Nat.pow 10 (-d.exponent).toNat
  if i.closed then i.low * scale ≤ point && point ≤ i.high * scale
  else i.low * scale < point && point < i.high * scale

/-! ## Grids -/

/-- Which of two points is taken when a number lies in the middle between them. -/
inductive Tie where
  /-- The point whose last digit is even. -/
  | toEven
  /-- The point further from zero. -/
  | up
  deriving DecidableEq, Repr

/-- Whether the point above `below` is taken in the middle. -/
def Tie.goesUp (tie : Tie) (below : Nat) : Bool :=
  match tie with
  | toEven => below % 2 == 1
  | up => true

/-- The power of ten of the leading digit of `numerator / denominator`. -/
def leadingExponent (numerator denominator : Nat) : Int :=
  if denominator ≤ numerator then ((Nat.toDigits 10 (numerator / denominator)).length : Int) - 1
  else
    let places := (Nat.toDigits 10 (denominator / numerator)).length
    if denominator ≤ numerator * Nat.pow 10 (places - 1) then 1 - (places : Int) else -(places : Int)

/-- The better of the two points of a grid on either side of the number, if one of them lies in the
interval. -/
def Interval.onGrid? (i : Interval) (tie : Tie) (exponent : Int) : Option Digits :=
  let numerator := i.value * Nat.pow 10 (-exponent).toNat
  let denominator := i.unit * Nat.pow 10 exponent.toNat
  let below : Digits := ⟨numerator / denominator, exponent⟩
  let above : Digits := ⟨numerator / denominator + 1, exponent⟩
  let rest := numerator % denominator
  let upIsBetter :=
    denominator < 2 * rest || (2 * rest == denominator && tie.goesUp below.digits)
  match i.holds below, i.holds above with
  | true, true => some (if upIsBetter then above else below)
  | true, false => some below
  | false, true => some above
  | false, false => none

/-- The first hit on the grids of `count` digits and more; `remaining` grids are tried. -/
def Interval.firstHit (i : Interval) (tie : Tie) (leading : Int) : Nat → Nat → Digits
  | 0, count => ⟨i.value / i.unit, 1 - (count : Int)⟩
  | remaining + 1, count =>
    match i.onGrid? tie (leading - count + 1) with
    | some d => d
    | none => i.firstHit tie leading remaining (count + 1)

/-- A decimal without zeros at its end.  `fuel` bounds their number. -/
def Digits.trimmed : Nat → Digits → Digits
  | 0, d => d
  | fuel + 1, d =>
    if d.digits != 0 && d.digits % 10 == 0 then trimmed fuel ⟨d.digits / 10, d.exponent + 1⟩ else d

/-- The decimal with the fewest digits that reads back as the number.  Seventeen digits always
suffice. -/
def Binary.shortest (tie : Tie) (b : Binary) : Digits :=
  if b.mantissa == 0 then ⟨0, 0⟩
  else
    let i := b.interval
    (i.firstHit tie (leadingExponent i.value i.unit) 17 1).trimmed 17

end Excerpt.Decimal
