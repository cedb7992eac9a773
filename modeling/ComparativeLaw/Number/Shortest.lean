import ComparativeLaw.Number.Rounding

/-!
The shortest decimal that reads back as a binary number. A decimal reads back if it lies in the
interval of reals that round to the number; among the shortest the nearest is taken.
-/
namespace ComparativeLaw

/-- A positive binary number `significand * 2 ^ exponent`. -/
structure Binary where
  significand : Nat
  exponent : Int
  /-- The gap to the number below is half the gap to the number above. -/
  narrowBelow : Bool
deriving DecidableEq, Repr

/-- The number `digits * 10 ^ exponent`. -/
structure Decimal where
  digits : Nat
  exponent : Int
deriving DecidableEq, Repr

namespace Binary

def toFraction (x : Binary) : Fraction :=
  ⟨false, x.significand * Nat.pow 2 x.exponent.toNat, Nat.pow 2 (-x.exponent).toNat⟩

/-- Quarters of the gap above, as a fraction: the bounds of the interval are whole multiples. -/
def quarter (x : Binary) : Nat × Nat :=
  (Nat.pow 2 (x.exponent - 2).toNat, Nat.pow 2 (2 - x.exponent).toNat)

/-- Whether a decimal lies among the reals that round to the number, the ends of the interval
included exactly when the significand is even. -/
def readsBack (x : Binary) (d : Decimal) : Bool :=
  let (unit, den) := x.quarter
  let scale := Nat.pow 10 (-d.exponent).toNat
  let value := d.digits * Nat.pow 10 d.exponent.toNat * den
  let low := (if x.narrowBelow then 4 * x.significand - 1 else 4 * x.significand - 2) * unit * scale
  let high := (4 * x.significand + 2) * unit * scale
  if x.significand % 2 = 0 then Nat.ble low value && Nat.ble value high
  else Nat.blt low value && Nat.blt value high

/-- The decimals with the given last place right below and right above the number. -/
def neighbours (x : Binary) (exponent : Int) : Decimal × Decimal :=
  let f := x.toFraction
  let below := f.num * Nat.pow 10 (-exponent).toNat / (f.den * Nat.pow 10 exponent.toNat)
  (⟨below, exponent⟩, ⟨below + 1, exponent⟩)

/-- The nearest decimal with the given last place, if it or its neighbour on the other side of the
number reads back. -/
def atPlace? (x : Binary) (exponent : Int) : Option Decimal :=
  let (below, above) := x.neighbours exponent
  match x.readsBack below, x.readsBack above with
  | true, true => some ⟨x.toFraction.roundTo exponent, exponent⟩
  | true, false => some below
  | false, true => some above
  | false, false => none

/-- The shortest decimal that reads back; the exact value if no decimal of at most seventeen digits
does. -/
def shortest (x : Binary) : Decimal :=
  let lead := x.toFraction.leadingExponent
  ((List.range 17).findSome? fun (n : Nat) => x.atPlace? (lead - n)).getD
    ⟨x.significand * Nat.pow 5 (-x.exponent).toNat * Nat.pow 2 x.exponent.toNat,
      -(-x.exponent).toNat⟩

end Binary

/-- Moves trailing zeros of the digits into the exponent; `fuel` bounds their number. -/
def Decimal.stripZeros : Nat → Decimal → Decimal
  | 0, d => d
  | fuel + 1, d =>
    if d.digits % 10 = 0 && d.digits ≠ 0 then stripZeros fuel ⟨d.digits / 10, d.exponent + 1⟩
    else d

end ComparativeLaw
