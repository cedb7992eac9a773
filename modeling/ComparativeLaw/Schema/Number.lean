import ComparativeLaw.Schema.Reading

namespace ComparativeLaw.Schema

/-- A blank that may surround a number text; the information separators are none. -/
def isSpace (c : Char) : Bool := Text.isBlank c && !(0x1C ≤ c.toNat && c.toNat ≤ 0x1F)

def trimmed (s : List Char) : List Char := Text.trimBy isSpace s

/-- Whether two underscores stand side by side. -/
def doubled : List Char → Bool
  | '_' :: '_' :: _ => true
  | _ :: s => doubled s
  | [] => false

/-- The text without its underscores, if they stand alone and inside of it. -/
def withoutUnderscores? (s : List Char) : Option (List Char) :=
  if s.head? = some '_' || s.getLast? = some '_' || !s.contains '_' || doubled s then none
  else some (s.filter (· ≠ '_'))

/-- The rest of a number after leading zeros, underscores among them; `last` is what stands right
before it and stays if no other digit follows. -/
def afterZeros? (last : Char) : List Char → Option (List Char)
  | [] => some [last]
  | c :: s =>
    if c = '0' || c = '_' then afterZeros? c s
    else if Text.isDigit c || c = '-' then some (c :: s)
    else if c = '.' then some (last :: c :: s)
    else none

/-- A number without its leading zeros; it starts with a digit or a minus. -/
def withoutZeros? : List Char → Option (List Char)
  | [] => none
  | c :: s =>
    if c = '0' then afterZeros? c s
    else if Text.isDigit c || c = '-' then some (c :: s)
    else none

/-- A number without its fraction, which holds zeros only. -/
def wholePart? (s : List Char) : Option (List Char) :=
  match s.dropWhile (· ≠ '.') with
  | [] => some s
  | _ :: zeros =>
    if !zeros.isEmpty && zeros.all (· = '0') then some (s.takeWhile (· ≠ '.')) else none

/-- An integer text without a plus, and without the zeros that stand in front of its digits. -/
def unpadded? : List Char → Option (List Char)
  | '+' :: '-' :: _ => none
  | '+' :: s => withoutZeros? s
  | '-' :: s => (withoutZeros? s).map ('-' :: ·)
  | s => withoutZeros? s

/-- The sign and the digits of an integer text, with everything in it dropped that a number may
do without. -/
def integerParts? (s : List Char) : Option (Bool × List Char) := do
  let whole ← wholePart? (← unpadded? s)
  return match (withoutUnderscores? whole).getD whole with
    | '-' :: digits => (true, digits)
    | digits => (false, digits)

/-- Whether digits have a zero in front that says nothing. -/
def isPadded : List Char → Bool
  | '0' :: _ :: _ => true
  | _ => false

/-- The longest integer with its sign that is read from a text. -/
def longestInteger : Nat := 4300

def integerOfText (s : String) : Checked Int :=
  match integerParts? (trimmed s.toList) with
  | none => refuse .intParsing
  | some (negative, digits) =>
    let (run, rest) := Numeral.splitDigits digits
    if longestInteger < run.length + negative.toNat then refuse .intParsingSize
    else if isPadded run then refuse .intParsing
    else match rest, Text.readDigits? run with
      | [], some n =>
        let n : Int := n
        .ok (if negative then -n else n)
      | _, _ => refuse .intParsing

/-- The bounds of the doubles that are read as integers. -/
def wideBound : Float := 9223372036854775808.0

def integerOfFloat (x : Float) : Checked Int :=
  match Printed.ofFloat x with
  | .nan | .infinite _ => refuse .finiteNumber
  | .zero _ => .ok 0
  | .positive negative m =>
    let f := m.toFraction
    if f.num % f.den ≠ 0 then refuse .intFromFloat
    else if x ≤ -wideBound || wideBound ≤ x then refuse .intParsingSize
    else
      let n : Int := (f.num / f.den : Nat)
      .ok (if negative then -n else n)

/-- Truth values count as zero and one, whole doubles as integers, and a text may stand for an
integer. -/
def integer : Json → Checked Int
  | .bool b => .ok (if b then 1 else 0)
  | .int n => .ok n
  | .float x => integerOfFloat x
  | j => wellFormed .intType integerOfText j

def natural (j : Json) : Checked Nat := do
  match ← integer j with
  | .ofNat n => return n
  | .negSucc _ => refuse .greaterThanEqual

def numeralOfText? (s : String) : Option Numeral :=
  (Numeral.readPlain? (trimmed s.toList)).orElse fun _ =>
    (withoutUnderscores? s.toList).bind Numeral.readPlain?

def numberOfText (s : String) : Checked Float :=
  match numeralOfText? s with
  | some n => .ok n.toFloat
  | none => refuse .floatParsing

def number : Json → Checked Float
  | .bool b => .ok (if b then 1.0 else 0.0)
  | .int n =>
    let x := (Numeral.ofInt n).toFloat
    if x.isFinite then .ok x else refuse .floatType
  | .float x => .ok x
  | j => wellFormed .floatType numberOfText j

end ComparativeLaw.Schema
