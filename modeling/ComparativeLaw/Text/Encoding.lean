import ComparativeLaw.Text.Utf8

/-!
The encodings of data texts. Null bytes at the beginning show how wide the code units are and which
end of them comes first, for a data text begins with a character below U+0080. Surrogates alone are
taken as they are.
-/
namespace ComparativeLaw.Text

inductive Encoding where
  | utf8
  | utf16 (bigEndian : Bool)
  | utf32 (bigEndian : Bool)
deriving DecidableEq, Repr

namespace Encoding

def ofBytes : List UInt8 → Encoding
  | 0 :: 0 :: _ :: _ :: _ => .utf32 true
  | 0 :: _ :: _ :: _ :: _ => .utf16 true
  | _ :: 0 :: 0 :: 0 :: _ => .utf32 false
  | _ :: 0 :: _ :: _ :: _ => .utf16 false
  | [0, _] => .utf16 true
  | [_, 0] => .utf16 false
  | _ => .utf8

def number (bigEndian : Bool) (bytes : List UInt8) : Nat :=
  (if bigEndian then bytes else bytes.reverse).foldl (fun n b => 256 * n + b.toNat) 0

/-- The code units of two bytes, unless a byte is left over. -/
def units16? (bigEndian : Bool) : List UInt8 → Option (List Nat)
  | [] => some []
  | a :: b :: bytes => (units16? bigEndian bytes).map (number bigEndian [a, b] :: ·)
  | _ => none

/-- The code units of four bytes, unless some bytes are left over. -/
def units32? (bigEndian : Bool) : List UInt8 → Option (List Nat)
  | [] => some []
  | a :: b :: c :: d :: bytes => (units32? bigEndian bytes).map (number bigEndian [a, b, c, d] :: ·)
  | _ => none

/-- The code points of code units of which two may make up one. -/
def pairUp : List Nat → List Nat
  | high :: low :: units =>
    if isHighUnit high && isLowUnit low then ofPair high low :: pairUp units
    else high :: pairUp (low :: units)
  | units => units

/-- The text of code points, if they are. -/
def ofPoints? (points : List Nat) : Option (List Char) :=
  if points.all fun n => Nat.ble n lastPoint then some (ofPoints points) else none

/-- The text in bytes of an encoding, if it is one. A mark of the byte order is no part of it. -/
def decode? (bytes : List UInt8) : Encoding → Option (List Char)
  | utf8 =>
    match Utf8.broken? bytes, Utf8.sound bytes with
    | some _, _ => none
    | none, '\uFEFF' :: s => some s
    | none, s => some s
  | utf16 bigEndian => (units16? bigEndian bytes).map fun units => ofPoints (pairUp units)
  | utf32 bigEndian => (units32? bigEndian bytes).bind ofPoints?

end Encoding

/-- The data text in bytes of any encoding. -/
def ofBytes? (bytes : List UInt8) : Option (List Char) := (Encoding.ofBytes bytes).decode? bytes

end ComparativeLaw.Text
