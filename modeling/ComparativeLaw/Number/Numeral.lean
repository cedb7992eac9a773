import ComparativeLaw.Text.Digit

namespace ComparativeLaw

/-- A decimal `± digits * 10 ^ exponent`, an infinity, or no number at all. -/
inductive Numeral where
  | decimal (negative : Bool) (digits : Nat) (exponent : Int)
  | infinite (negative : Bool)
  | nan
deriving DecidableEq, Repr

namespace Numeral

open Text

def ofInt (n : Int) : Numeral := .decimal (n < 0) n.natAbs 0

/-- The digits up to a character that is none, and the rest. -/
def splitDigits (s : List Char) : List Char × List Char :=
  (s.takeWhile isDigit, s.dropWhile isDigit)

/-- The exponent part of a decimal: nothing, or a mark, an optional sign and digits. -/
def readExponent? : List Char → Option Int
  | [] => some 0
  | c :: s =>
    if c = 'e' || c = 'E' then do
      let (negative, digits) := splitSign s
      let n ← readDigits? digits
      return if negative then -n else n
    else none

/-- Digits with an optional point among or around them, and an optional exponent. -/
def readUnsigned? (negative : Bool) (s : List Char) : Option Numeral := do
  let (whole, afterWhole) := splitDigits s
  let (fraction, rest) := match afterWhole with
    | '.' :: t => splitDigits t
    | _ => ([], afterWhole)
  let digits ← readDigits? (whole ++ fraction)
  let exponent ← readExponent? rest
  return .decimal negative digits (exponent - fraction.length)

/-- A number in plain form without underscores; infinity and not-a-number go by their names in any
case. -/
def readPlain? (s : List Char) : Option Numeral :=
  let (negative, body) := splitSign s
  match String.ofList (body.map Char.toLower) with
  | "inf" | "infinity" => some (.infinite negative)
  | "nan" => some .nan
  | _ => readUnsigned? negative body

/-- Reads a number text: optional blanks around it, digits of any script, and single underscores
between digits. -/
def read? (s : String) : Option Numeral := do
  readPlain? (← dropUnderscores false (← plainNumber? s.toList))

end Numeral
end ComparativeLaw
