import ComparativeLaw.Json.Basic

/-!
Reading data texts. Beyond the standard the words for not-a-number and the infinities are read,
of a repeated key the last value counts, and a complaint tells where the text went wrong. A whole
number of too many digits and a value nested too deeply are not read.
-/
namespace ComparativeLaw.Json

/-- What is wrong with a data text. -/
inductive Complaint where
  | value
  | key
  | colon
  | comma
  | extra
  | unterminated
  | control
  | escape
  | unicodeEscape
  | byteOrderMark
deriving DecidableEq, Repr

def Complaint.message : Complaint → String
  | value => "Expecting value"
  | key => "Expecting property name enclosed in double quotes"
  | colon => "Expecting ':' delimiter"
  | comma => "Expecting ',' delimiter"
  | extra => "Extra data"
  | unterminated => "Unterminated string starting at"
  | control => "Invalid control character at"
  | escape => "Invalid \\escape"
  | unicodeEscape => "Invalid \\uXXXX escape"
  | byteOrderMark => "Unexpected UTF-8 BOM (decode using utf-8-sig)"

/-- Why a text was not read. -/
inductive Trouble where
  /-- A complaint and the number of characters from its place to the end. -/
  | wrong (complaint : Complaint) (remaining : Nat)
  /-- A whole number of so many digits. -/
  | longInteger (digits : Nat)
  | tooDeep
deriving DecidableEq, Repr

def trouble {α : Type} (complaint : Complaint) (place : List Char) : Except Trouble α :=
  .error (.wrong complaint place.length)

def isSpace (c : Char) : Bool := c = ' ' || c = '\n' || c = '\r' || c = '\t'

def skipSpaces (s : List Char) : List Char := s.dropWhile isSpace

def hexValue? (c : Char) : Option Nat :=
  if '0' ≤ c && c ≤ '9' then some (c.toNat - 48)
  else if 'a' ≤ c && c ≤ 'f' then some (c.toNat - 87)
  else if 'A' ≤ c && c ≤ 'F' then some (c.toNat - 55)
  else none

def hexUnit? : List Char → Option (Nat × List Char)
  | a :: b :: c :: d :: s => do
    let n := (← hexValue? a) * 4096 + (← hexValue? b) * 256 + (← hexValue? c) * 16 + (← hexValue? d)
    return (n, s)
  | _ => none

/-- The code point after `\u`, given the text from the `u` on. At least one character has to follow
the four digits; a surrogate that no other half follows stands alone. -/
def readUnicode (s : List Char) : Except Trouble (Nat × List Char) :=
  match hexUnit? (s.drop 1) with
  | some (n, rest@(_ :: _)) =>
    match Text.isHighUnit n && decide (6 < (Text.pointsOf rest).length), rest with
    | true, '\\' :: 'u' :: rest' =>
      match hexUnit? rest' with
      | some (m, rest'') =>
        if Text.isLowUnit m then .ok (Text.ofPair n m, rest'') else .ok (n, rest)
      | none => trouble .unicodeEscape ('u' :: rest')
    | _, _ => .ok (n, rest)
  | _ => trouble .unicodeEscape s

def simpleEscape? : Char → Option Char
  | '"' => some '"'
  | '\\' => some '\\'
  | '/' => some '/'
  | 'b' => some '\x08'
  | 'f' => some '\x0c'
  | 'n' => some '\n'
  | 'r' => some '\r'
  | 't' => some '\t'
  | _ => none

/-- Reads a string up to its closing mark; `start` is the text from the opening mark on and `read`
holds the characters so far, last first. -/
def readChars (start : List Char) :
    Nat → List Char → List Char → Except Trouble (String × List Char)
  | 0, _, _ => trouble .unterminated start
  | fuel + 1, read, s =>
    match s with
    | [] => trouble .unterminated start
    | '"' :: s => .ok (String.ofList read.reverse, s)
    | '\\' :: [] => trouble .unterminated start
    | '\\' :: 'u' :: t => do
      let (n, rest) ← readUnicode ('u' :: t)
      readChars start fuel ((Text.ofPoint n).reverse ++ read) rest
    | '\\' :: e :: t =>
      match simpleEscape? e with
      | some c => readChars start fuel (c :: read) t
      | none => trouble .escape s
    | c :: t =>
      if c.toNat ≤ 0x1F then trouble .control s else readChars start fuel (c :: read) t

/-- Reads a string whose opening mark is the first character of `s`. -/
def readString (s : List Char) : Except Trouble (String × List Char) :=
  readChars s (s.length + 1) [] (s.drop 1)

/-- The fraction of a number, if a digit follows the point. -/
def takeFraction : List Char → Option (List Char × List Char)
  | '.' :: c :: s => if Text.isDigit c then some (Numeral.splitDigits (c :: s)) else none
  | _ => none

/-- The exponent of a number, if digits follow the mark and the sign. -/
def takeExponent : List Char → Option (Int × List Char)
  | c :: s =>
    if c = 'e' || c = 'E' then
      let (negative, s) := Text.splitSign s
      let (digits, rest) := Numeral.splitDigits s
      (Text.readDigits? digits).map fun n => (if negative then -n else (n : Int), rest)
    else none
  | [] => none

/-- The digits before the point: a zero alone, or digits that start with another one. -/
def takeWhole : List Char → Option (List Char × List Char)
  | '0' :: s => some (['0'], s)
  | c :: s => if Text.isDigit c then some (Numeral.splitDigits (c :: s)) else none
  | [] => none

/-- Reads a number: whole if it has neither fraction nor exponent. -/
def readNumber (s : List Char) : Except Trouble (Json × List Char) :=
  let (negative, body) := match s with
    | '-' :: t => (true, t)
    | _ => (false, s)
  match takeWhole body with
  | none => trouble .value s
  | some (whole, rest) =>
    let fraction := takeFraction rest
    let rest := (fraction.map (·.2)).getD rest
    let exponent := takeExponent rest
    let rest := (exponent.map (·.2)).getD rest
    let digits := (fraction.map (·.1)).getD []
    let long := fraction.isNone && exponent.isNone && decide (Text.digitLimit < whole.length)
    let n := if long then 0 else (Text.readDigits? (whole ++ digits)).getD 0
    if fraction.isSome || exponent.isSome then
      let e := (exponent.map (·.1)).getD 0 - digits.length
      .ok (float (Numeral.toFloat (.decimal negative n e)), rest)
    else if long then .error (.longInteger whole.length)
    else .ok (int (if negative then -n else n), rest)

def dropWord? : List Char → List Char → Option (List Char)
  | [], s => some s
  | w :: ws, c :: s => if w = c then dropWord? ws s else none
  | _ :: _, [] => none

/-- The words that stand for values. -/
def wordValues : List (List Char × Json) :=
  [("null".toList, null), ("true".toList, bool true), ("false".toList, bool false),
    ("NaN".toList, float (0.0 / 0.0)), ("Infinity".toList, float (1.0 / 0.0)),
    ("-Infinity".toList, float (-1.0 / 0.0))]

def readWord? (s : List Char) : Option (Json × List Char) :=
  wordValues.findSome? fun w => (dropWord? w.1 s).map fun rest => (w.2, rest)

/-- How many lists and objects may be open inside of one another. -/
def deepest : Nat := 990

mutual

/-- Reads a value at the front; `fuel` bounds the steps and twice the length of the text is
enough. At most `depth` lists and objects are opened inside of one another. -/
def readValue : Nat → Nat → List Char → Except Trouble (Json × List Char)
  | 0, _, s => trouble .value s
  | fuel + 1, depth, s =>
    match s, depth with
    | '"' :: _, _ => do
      let (t, rest) ← readString s
      return (text t, rest)
    | '[' :: _, 0 | '\x7b' :: _, 0 => .error .tooDeep
    | '[' :: s, depth + 1 =>
      match skipSpaces s with
      | ']' :: rest => .ok (list [], rest)
      | s => readItems fuel depth [] s
    | '\x7b' :: s, depth + 1 =>
      match skipSpaces s with
      | '\x7d' :: rest => .ok (object [], rest)
      | s => readFields fuel depth [] s
    | _, _ => (readWord? s).elim (readNumber s) .ok

/-- Reads the items of a list from one item on; `items` holds those before, last first. -/
def readItems : Nat → Nat → List Json → List Char → Except Trouble (Json × List Char)
  | 0, _, _, s => trouble .value s
  | fuel + 1, depth, items, s => do
    let (x, s) ← readValue fuel depth s
    match skipSpaces s with
    | ']' :: rest => return (list (x :: items).reverse, rest)
    | ',' :: s => readItems fuel depth (x :: items) (skipSpaces s)
    | s => trouble .comma s

/-- Reads the fields of an object from one key on. -/
def readFields : Nat → Nat → List (String × Json) → List Char → Except Trouble (Json × List Char)
  | 0, _, _, s => trouble .value s
  | fuel + 1, depth, fields, s =>
    match s with
    | '"' :: _ => do
      let (k, s) ← readString s
      match skipSpaces s with
      | ':' :: s =>
        let (x, s) ← readValue fuel depth (skipSpaces s)
        let fields := Table.insert k x fields
        match skipSpaces s with
        | '\x7d' :: rest => return (object fields, rest)
        | ',' :: s => readFields fuel depth fields (skipSpaces s)
        | s => trouble .comma s
      | s => trouble .colon s
    | _ => trouble .key s

end

/-- Reads a whole text as one value. -/
def readAll (s : List Char) : Except Trouble Json := do
  if s.head? = some (Char.ofNat 0xFEFF) then trouble .byteOrderMark s
  let (j, rest) ← readValue (2 * s.length + 2) deepest (skipSpaces s)
  match skipSpaces rest with
  | [] => return j
  | rest => trouble .extra rest

/-- The place before so many characters: line and column from one, and the number of characters
before it. -/
def position (s : List Char) (remaining : Nat) : Nat × Nat × Nat :=
  let before := s.take (s.length - remaining)
  let points := Text.pointsOf before
  (before.count '\n' + 1, (points.reverse.takeWhile (· ≠ 0x0A)).length + 1, points.length)

def located (s : List Char) (complaint : Complaint) (remaining : Nat) : String :=
  let (line, column, offset) := position s remaining
  s!"{complaint.message}: line {line} column {column} (char {offset})"

end ComparativeLaw.Json
