import ComparativeLaw.Json.Basic

namespace ComparativeLaw.Json

def escapedUnit (n : Nat) : List Char := '\\' :: 'u' :: Text.hexDigits 4 n

/-- A code point inside quotation marks; beyond the basic plane it takes two units. -/
def escapedPoint (n : Nat) : List Char :=
  match Char.ofNat n with
  | '"' => ['\\', '"']
  | '\\' => ['\\', '\\']
  | '\n' => ['\\', 'n']
  | '\r' => ['\\', 'r']
  | '\t' => ['\\', 't']
  | '\x08' => ['\\', 'b']
  | '\x0c' => ['\\', 'f']
  | c =>
    if Nat.ble 0x20 n && Nat.ble n 0x7E then [c]
    else if Nat.ble n 0xFFFF then escapedUnit n
    else
      escapedUnit (0xD800 + (n - 0x10000) / 0x400) ++ escapedUnit (0xDC00 + (n - 0x10000) % 0x400)

def escaped (s : String) : String :=
  String.ofList ('"' :: (Text.points s).flatMap escapedPoint ++ ['"'])

def floatText (x : Float) : String :=
  match Printed.ofFloat x with
  | .nan => "NaN"
  | .infinite negative => if negative then "-Infinity" else "Infinity"
  | p => NumberText.shortest p

mutual

def compact : Json → String
  | null => "null"
  | bool b => if b then "true" else "false"
  | int n => toString n
  | float x => floatText x
  | text s => escaped s
  | list items => "[" ++ compactItems items ++ "]"
  | object fields => "\x7b" ++ compactFields fields ++ "\x7d"

def compactItems : List Json → String
  | [] => ""
  | [x] => compact x
  | x :: xs => compact x ++ ", " ++ compactItems xs

def compactFields : List (String × Json) → String
  | [] => ""
  | [(k, x)] => escaped k ++ ": " ++ compact x
  | (k, x) :: xs => escaped k ++ ": " ++ compact x ++ ", " ++ compactFields xs

end

/-- A line break and the indentation of a level. -/
def lineStart (level : Nat) : String := String.ofList ('\n' :: List.replicate (2 * level) ' ')

mutual

/-- A value with one item a line, on the given level of indentation. -/
def indentedAt (level : Nat) : Json → String
  | list [] => "[]"
  | list items => "[" ++ indentedItems (level + 1) items ++ lineStart level ++ "]"
  | object [] => "\x7b\x7d"
  | object fields => "\x7b" ++ indentedFields (level + 1) fields ++ lineStart level ++ "\x7d"
  | null => "null"
  | bool b => if b then "true" else "false"
  | int n => toString n
  | float x => floatText x
  | text s => escaped s

def indentedItems (level : Nat) : List Json → String
  | [] => ""
  | [x] => lineStart level ++ indentedAt level x
  | x :: xs => lineStart level ++ indentedAt level x ++ "," ++ indentedItems level xs

def indentedFields (level : Nat) : List (String × Json) → String
  | [] => ""
  | [(k, x)] => lineStart level ++ escaped k ++ ": " ++ indentedAt level x
  | (k, x) :: xs =>
    lineStart level ++ escaped k ++ ": " ++ indentedAt level x ++ "," ++ indentedFields level xs

end

/-- A value with one item a line, indented by two spaces a level. -/
def indented (j : Json) : String := j.indentedAt 0

end ComparativeLaw.Json
