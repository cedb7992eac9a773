import ComparativeLaw.Text.Blank

namespace ComparativeLaw.Text

/-- The zeros of the decimal scripts; the nine digits after each follow it. -/
def digitZeros : List Nat :=
  [0x30, 0x660, 0x6F0, 0x7C0, 0x966, 0x9E6, 0xA66, 0xAE6, 0xB66, 0xBE6, 0xC66, 0xCE6, 0xD66,
    0xDE6, 0xE50, 0xED0, 0xF20, 0x1040, 0x1090, 0x17E0, 0x1810, 0x1946, 0x19D0, 0x1A80, 0x1A90,
    0x1B50, 0x1BB0, 0x1C40, 0x1C50, 0xA620, 0xA8D0, 0xA900, 0xA9D0, 0xA9F0, 0xAA50, 0xABF0, 0xFF10,
    0x104A0, 0x10D30, 0x11066, 0x110F0, 0x11136, 0x111D0, 0x112F0, 0x11450, 0x114D0, 0x11650,
    0x116C0, 0x11730, 0x118E0, 0x11950, 0x11C50, 0x11D50, 0x11DA0, 0x16A60, 0x16AC0, 0x16B50,
    0x1D7CE, 0x1D7D8, 0x1D7E2, 0x1D7EC, 0x1D7F6, 0x1E140, 0x1E2F0, 0x1E950, 0x1FBF0]

/-- The value of a decimal digit of any script. -/
def decimalValue? (c : Char) : Option Nat :=
  (digitZeros.find? fun z => Nat.ble z c.toNat && Nat.ble c.toNat (z + 9)).map (c.toNat - ·)

def digitValue? (c : Char) : Option Nat :=
  if '0' ≤ c && c ≤ '9' then some (c.toNat - 48) else none

def isDigit (c : Char) : Bool := '0' ≤ c && c ≤ '9'

/-- The blanks that may surround a number once it is in plain form. -/
def isPlainBlank (c : Char) : Bool := c = ' ' || ('\t' ≤ c && c ≤ '\r')

/-- The plain form of one character, none if no number text can hold it. -/
def plainDigit? (c : Char) : Option Char :=
  if c.toNat < 0x7F then some c
  else if isBlank c then some ' '
  else (decimalValue? c).map fun d => Char.ofNat (48 + d)

/-- The plain form of a number text without surrounding blanks. -/
def plainNumber? (s : List Char) : Option (List Char) :=
  (s.mapM plainDigit?).map (trimBy isPlainBlank)

/-- Removes underscores that stand between two digits; any other underscore is refused. -/
def dropUnderscores : Bool → List Char → Option (List Char)
  | _, [] => some []
  | afterDigit, '_' :: c :: s =>
    if afterDigit && isDigit c then (dropUnderscores true s).map (c :: ·) else none
  | _, ['_'] => none
  | _, c :: s => (dropUnderscores (isDigit c) s).map (c :: ·)

/-- The value of a text of ASCII digits, none if there are no digits or others stand among them. -/
def readDigits? (s : List Char) : Option Nat :=
  if s.isEmpty then none
  else s.foldl (fun acc c => acc.bind fun v => (digitValue? c).map (10 * v + ·)) (some 0)

/-- Splits a leading sign off; the flag is true for a minus. -/
def splitSign : List Char → Bool × List Char
  | '-' :: s => (true, s)
  | '+' :: s => (false, s)
  | s => (false, s)

/-- The plain form of a text up to the first character that no number text can hold, and whether
there is none. -/
def plainRun : List Char → List Char × Bool
  | [] => ([], true)
  | c :: s =>
    match plainDigit? c with
    | some d => let rest := plainRun s; (d :: rest.1, rest.2)
    | none => ([], false)

/-- The digits at the front, which single underscores may separate, and what follows them. -/
def digitRun? (s : List Char) : Option (List Char × List Char) :=
  let run := s.takeWhile fun c => isDigit c || c = '_'
  (dropUnderscores false run).map fun digits => (digits, s.drop run.length)

/-- Why a text stands for no whole number. -/
inductive IntegerTrouble where
  | malformed
  /-- So many digits, more than are read. -/
  | tooLong (digits : Nat)
deriving DecidableEq, Repr

/-- The most digits of a whole number that is read. -/
def digitLimit : Nat := 4300

/-- Reads a whole number: optional blanks around it, a sign, and digits that single underscores
may separate. What follows the digits is looked at only if they are not too many. -/
def readInteger (s : String) : Except IntegerTrouble Int :=
  let (plain, complete) := plainRun s.toList
  let (negative, body) := splitSign (plain.dropWhile isPlainBlank)
  match digitRun? body with
  | none => .error .malformed
  | some (digits, rest) =>
    if digitLimit < digits.length then .error (.tooLong digits.length)
    else match readDigits? digits with
      | some n =>
        let n : Int := n
        if complete && rest.all isPlainBlank then .ok (if negative then -n else n)
        else .error .malformed
      | none => .error .malformed

/-- The whole number that a text stands for, if it does. -/
def readInt? (s : String) : Option Int := (readInteger s).toOption

end ComparativeLaw.Text
