import ComparativeLaw.Number.Numeral
import ComparativeLaw.Number.Text

/-!
The numbers that weights, indicators, points and scores are made of. The analysis runs on doubles
and is stated over any such numbers, exact rationals among them.
-/
namespace ComparativeLaw

/-- Numbers with the operations of the scorer, a test for being finite, and their text forms. -/
class Scalar (α : Type) extends
    Add α, Sub α, Mul α, Div α, OfScientific α, LT α, LE α, BEq α, Inhabited α where
  decidableLT (a b : α) : Decidable (a < b)
  decidableLE (a b : α) : Decidable (a ≤ b)
  isFinite : α → Bool
  /-- The number a numeral denotes, if there is a finite one. -/
  ofNumeral? : Numeral → Option α
  /-- The nearest number with so many decimal places. -/
  round : Nat → α → α
  shortest : α → String
  general : α → String
  fixed : Nat → α → String

namespace Scalar

variable {α : Type} [Scalar α]

instance (a b : α) : Decidable (a < b) := decidableLT a b

instance (a b : α) : Decidable (a ≤ b) := decidableLE a b

/-- The larger of two numbers, the first unless the second is strictly larger. -/
def larger (a b : α) : α := if a < b then b else a

/-- The smaller of two numbers, the first unless the second is strictly smaller. -/
def smaller (a b : α) : α := if b < a then b else a

/-- Cuts a number off below zero and above a bound; what compares with neither becomes the
bound. -/
def clamp (bound x : α) : α := larger 0.0 (smaller bound x)

/-- Adds from left to right, starting from zero. -/
def sum (xs : List α) : α := xs.foldl (· + ·) 0.0

end Scalar

/-- The double nearest to a numeral, an infinity beyond the range. -/
def Numeral.toFloat : Numeral → Float
  | .nan => 0.0 / 0.0
  | .infinite negative => if negative then -1.0 / 0.0 else 1.0 / 0.0
  | .decimal negative digits exponent =>
    let size := (digitCount digits : Int) + exponent
    let magnitude : Float :=
      if digits = 0 || size < -400 then 0.0
      else if 400 < size then 1.0 / 0.0
      else Float.ofScientific digits (exponent < 0) exponent.natAbs
    if negative then -magnitude else magnitude

def truncate? (x : Float) : Option Int :=
  match Printed.ofFloat x with
  | .nan | .infinite _ => none
  | .zero _ => some 0
  | .positive negative m =>
    let n : Int := (m.toFraction.num / m.toFraction.den : Nat)
    some (if negative then -n else n)

/-- The largest whole double that is not above a double; what is not finite stays as it is. -/
def floorDouble (x : Float) : Float :=
  match truncate? x with
  | none => x
  | some n =>
    let whole := Float.ofInt n
    if x < whole then whole - 1.0 else whole

/-- Rounds the exact value of a double to so many places and takes the nearest double again. -/
def roundDouble (places : Nat) (x : Float) : Float :=
  match Printed.ofFloat x with
  | .positive negative m =>
    let magnitude := Float.ofScientific (m.toFraction.roundTo (-places)) true places
    if negative then -magnitude else magnitude
  | _ => x

instance : Scalar Float where
  decidableLT _ _ := inferInstance
  decidableLE _ _ := inferInstance
  isFinite := Float.isFinite
  ofNumeral? n := if n.toFloat.isFinite then some n.toFloat else none
  round := roundDouble
  shortest x := NumberText.shortest (.ofFloat x)
  general x := NumberText.general (.ofFloat x)
  fixed places x := NumberText.fixed places (.ofFloat x)

def Numeral.toRat? : Numeral → Option Rat
  | .decimal negative digits exponent =>
    let magnitude : Rat :=
      (digits * Nat.pow 10 exponent.toNat : Nat) / (Nat.pow 10 (-exponent).toNat : Nat)
    some (if negative then -magnitude else magnitude)
  | _ => none

/-- The count of units in the last of so many places that is nearest to a rational. -/
def unitsOf (places : Nat) (q : Rat) : Nat :=
  (Fraction.mk false q.num.natAbs q.den).roundTo (-places)

instance : Scalar Rat where
  decidableLT _ _ := inferInstance
  decidableLE _ _ := inferInstance
  isFinite _ := true
  ofNumeral? := Numeral.toRat?
  round places q :=
    let magnitude : Rat := (unitsOf places q : Nat) / (Nat.pow 10 places : Nat)
    if q < 0 then -magnitude else magnitude
  shortest q := if q.den = 1 then toString q.num else s!"{q.num}/{q.den}"
  general q := if q.den = 1 then toString q.num else s!"{q.num}/{q.den}"
  fixed places q := NumberText.signed (q < 0) (NumberText.placed (unitsOf places q) places)

end ComparativeLaw
