import ComparativeLaw.Json.Conversion

/-!
Moments of a clock against windows of a fixed length. An exact moment falls into its window by the
floor of a quotient. A clock that counts in doubles is divided as doubles are: a moment right below
a boundary may then seem to lie a whole window after the beginning of its own.
-/
namespace ComparativeLaw

/-- The number of a window, and the whole seconds that have passed since it began. -/
structure Tick where
  window : Int
  elapsed : Int
deriving DecidableEq, Repr

namespace Tick

def ofRat (seconds : Nat) (now : Rat) : Tick :=
  let window := (now / (seconds : Rat)).floor
  { window, elapsed := (now - (seconds : Rat) * (window : Rat)).floor }

/-- The units of a place in a binary number. -/
def units (place : Int) (x : Binary) : Nat := x.significand * Nat.pow 2 (x.exponent - place).toNat

/-- The remainder of two positive numbers in units of the lower of their last places. It has no more
digits than one of them, so a double holds it. -/
def remainderOf (x w : Binary) : Float :=
  let place := min x.exponent w.exponent
  (Float.ofNat (units place x % units place w)).scaleB place

/-- What is left of a double after whole lengths, with its sign. -/
def remainder (x w : Float) : Float :=
  match Printed.ofFloat x, Printed.ofFloat w with
  | .positive negative m, .positive _ n =>
    if negative then -remainderOf m n else remainderOf m n
  | .zero _, _ => x
  | _, _ => 0.0 / 0.0

/-- The tick of a moment in doubles. A negative remainder is moved into the window below; the
quotient is taken to the whole number next to it. -/
def ofFloat (seconds : Nat) (now : Float) : Except Fault Tick := do
  let length ← (Json.int seconds).toFloat
  let rest := remainder now length
  let quotient := (now - rest) / length
  let (rest, quotient) := if rest < 0.0 then (rest + length, quotient - 1.0) else (rest, quotient)
  let below := floorDouble quotient
  let window := if 0.5 < quotient - below then below + 1.0 else below
  return { window := ← Json.truncated window, elapsed := ← Json.truncated rest }

end Tick
end ComparativeLaw
