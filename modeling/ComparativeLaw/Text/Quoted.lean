import ComparativeLaw.Text.Point
import ComparativeLaw.Text.Printable

namespace ComparativeLaw.Text

def hexDigit (n : Nat) : Char := Char.ofNat (if n < 10 then 48 + n else 87 + n)

def hexDigits : Nat → Nat → List Char
  | 0, _ => []
  | width + 1, n => hexDigits width (n / 16) ++ [hexDigit (n % 16)]

def quoteMark (s : List Char) : Char :=
  if s.contains '\'' && !s.contains '"' then '"' else '\''

/-- A code point by its number. -/
def numbered (n : Nat) : List Char :=
  if n ≤ 0xFF then '\\' :: 'x' :: hexDigits 2 n
  else if n ≤ 0xFFFF then '\\' :: 'u' :: hexDigits 4 n
  else '\\' :: 'U' :: hexDigits 8 n

/-- A code point between quotation marks: those and backslashes after a backslash, line and tab
characters by letter, other unprintable characters and surrogates by number. -/
def quotedPoint (quote : Char) (n : Nat) : List Char :=
  let c := Char.ofNat n
  if isSurrogate n then numbered n
  else if c = quote || c = '\\' then ['\\', c]
  else if c = '\n' then ['\\', 'n']
  else if c = '\r' then ['\\', 'r']
  else if c = '\t' then ['\\', 't']
  else if isPrintable c then [c]
  else numbered n

def quotedChars (s : List Char) : List Char :=
  let quote := quoteMark s
  quote :: (pointsOf s).flatMap (quotedPoint quote) ++ [quote]

/-- A text in single marks, unless it holds a single mark and no double one. -/
def quoted (s : String) : String := String.ofList (quotedChars s.toList)

/-- A text with its surrogates shown by number. -/
def visible (s : String) : String :=
  String.ofList ((points s).flatMap fun n => if isSurrogate n then numbered n else ofPoint n)

end ComparativeLaw.Text
