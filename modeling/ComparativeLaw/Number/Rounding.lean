namespace ComparativeLaw

/-- The nearest natural number to `num / den`, the even one of two. -/
def roundDiv (num den : Nat) : Nat :=
  let q := num / den
  let r := num % den
  if 2 * r < den then q else if den < 2 * r then q + 1 else if q % 2 = 0 then q else q + 1

/-- A signed fraction; zero has a sign too. -/
structure Fraction where
  negative : Bool
  num : Nat
  den : Nat
deriving DecidableEq, Repr

def digitCount (n : Nat) : Nat := (Nat.toDigits 10 n).length

namespace Fraction

/-- The exponent of the leading digit of a positive fraction. -/
def leadingExponent (x : Fraction) : Int :=
  if x.den ≤ x.num then digitCount (x.num / x.den) - 1
  else Int.negOfNat (digitCount ((x.den + x.num - 1) / x.num - 1))

/-- The nearest multiple of `10 ^ exponent`, counted in that unit. -/
def roundTo (x : Fraction) (exponent : Int) : Nat :=
  roundDiv (x.num * Nat.pow 10 (-exponent).toNat) (x.den * Nat.pow 10 exponent.toNat)

end Fraction
end ComparativeLaw
