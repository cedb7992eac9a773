import ComparativeLaw.Number.Shortest

namespace ComparativeLaw

/-- A number as its text forms see it. -/
inductive Printed where
  | nan
  | infinite (negative : Bool)
  | zero (negative : Bool)
  | positive (negative : Bool) (magnitude : Binary)
deriving DecidableEq, Repr

/-- Reads the sign, exponent and significand out of a double. -/
def Printed.ofFloat (x : Float) : Printed :=
  let bits := x.toBits.toNat
  let negative : Bool := bits / Nat.pow 2 63 = 1
  let exponent : Nat := bits / Nat.pow 2 52 % Nat.pow 2 11
  let low : Nat := bits % Nat.pow 2 52
  if exponent = 2047 then if low = 0 then .infinite negative else .nan
  else if exponent = 0 then
    if low = 0 then .zero negative else .positive negative ⟨low, -1074, false⟩
  else .positive negative ⟨Nat.pow 2 52 + low, (exponent : Int) - 1075, low = 0 && exponent > 1⟩

namespace NumberText

def signed (negative : Bool) (body : List Char) : String :=
  String.ofList (if negative then '-' :: body else body)

/-- The digits with a point after the first `point` of them, zeros filled in on either side. -/
def positional (digits : List Char) (point : Int) : List Char :=
  if point ≤ 0 then '0' :: '.' :: List.replicate (-point).toNat '0' ++ digits
  else if digits.length ≤ point.toNat then
    digits ++ List.replicate (point.toNat - digits.length) '0'
  else digits.take point.toNat ++ '.' :: digits.drop point.toNat

/-- The digits with a point after the first and the exponent in at least two digits. -/
def scientific (digits : List Char) (exponent : Int) : List Char :=
  let fraction := if digits.length ≤ 1 then [] else '.' :: digits.drop 1
  let power := Nat.toDigits 10 exponent.natAbs
  digits.take 1 ++ fraction ++ ['e', if exponent < 0 then '-' else '+'] ++
    List.replicate (2 - power.length) '0' ++ power

/-- The shortest form: positional for leading exponents from -4 to 15, and then always with a
point. -/
def shortestBody (x : Binary) : List Char :=
  let d := x.shortest.stripZeros 400
  let digits := Nat.toDigits 10 d.digits
  let point := digits.length + d.exponent
  if -4 < point && point ≤ 16 then
    let body := positional digits point
    if body.contains '.' then body else body ++ ['.', '0']
  else scientific digits (point - 1)

def shortest : Printed → String
  | .nan => "nan"
  | .infinite negative => signed negative "inf".toList
  | .zero negative => signed negative "0.0".toList
  | .positive negative x => signed negative (shortestBody x)

/-- The text of `count` units in the last of `places` decimal places. -/
def placed (count places : Nat) : List Char :=
  let digits := Nat.toDigits 10 count
  let padded := List.replicate (places + 1 - digits.length) '0' ++ digits
  if places = 0 then padded
  else padded.take (padded.length - places) ++ '.' :: padded.drop (padded.length - places)

def fixed (places : Nat) : Printed → String
  | .nan => "nan"
  | .infinite negative => signed negative "inf".toList
  | .zero negative => signed negative (placed 0 places)
  | .positive negative x => signed negative (placed (x.toFraction.roundTo (-places)) places)

/-- Six significant digits without trailing zeros, positional for leading exponents from -4 to
5. -/
def generalBody (x : Binary) : List Char :=
  let f := x.toFraction
  let lead := f.leadingExponent
  let d := (Decimal.mk (f.roundTo (lead - 5)) (lead - 5)).stripZeros 400
  let digits := Nat.toDigits 10 d.digits
  let point := digits.length + d.exponent
  if -4 < point && point ≤ 6 then positional digits point else scientific digits (point - 1)

def general : Printed → String
  | .nan => "nan"
  | .infinite negative => signed negative "inf".toList
  | .zero negative => signed negative ['0']
  | .positive negative x => signed negative (generalBody x)

end NumberText
end ComparativeLaw
