import ComparativeLaw.Text.Point

namespace ComparativeLaw.Text.Utf8

/-- The bounds between which a byte has to lie. -/
abbrev Bounds := Nat × Nat

def anyTail : Bounds := (0x80, 0xBF)

/-- The bounds of the bytes after the first byte of a character; none for a byte that starts no
character. -/
def tails? (first : Nat) : Option (List Bounds) :=
  if first ≤ 0x7F then some []
  else if first < 0xC2 then none
  else if first ≤ 0xDF then some [anyTail]
  else if first = 0xE0 then some [(0xA0, 0xBF), anyTail]
  else if first = 0xED then some [(0x80, 0x9F), anyTail]
  else if first ≤ 0xEF then some [anyTail, anyTail]
  else if first = 0xF0 then some [(0x90, 0xBF), anyTail, anyTail]
  else if first ≤ 0xF3 then some [anyTail, anyTail, anyTail]
  else if first = 0xF4 then some [(0x80, 0x8F), anyTail, anyTail]
  else none

def within (b : Bounds) (n : Nat) : Bool := Nat.ble b.1 n && Nat.ble n b.2

/-- The place of the byte that breaks a text, counted from `n`; the end breaks it if `owed` bytes
are missing there. -/
def brokenFrom? (n : Nat) : List Bounds → List UInt8 → Option Nat
  | [], [] => none
  | _ :: _, [] => some n
  | [], b :: bytes =>
    match tails? b.toNat with
    | some owed => brokenFrom? (n + 1) owed bytes
    | none => some n
  | tail :: owed, b :: bytes =>
    if within tail b.toNat then brokenFrom? (n + 1) owed bytes else some n

/-- The place where bytes are no text, if they are none. -/
def broken? (bytes : List UInt8) : Option Nat := brokenFrom? 0 [] bytes

/-- A character under way: what its bytes so far say about its code point, and the bounds of the
bytes to come. -/
abbrev Underway := Nat × List Bounds

def begin? (first : Nat) : Option Underway :=
  let bits :=
    if first ≤ 0x7F then first
    else if first < 0xE0 then first % 0x20
    else if first < 0xF0 then first % 0x10
    else first % 0x08
  (tails? first).map fun owed => (bits, owed)

def continue? (n : Nat) : Underway → Option Underway
  | (value, tail :: owed) => if within tail n then some (value * 64 + n % 64, owed) else none
  | (_, []) => none

/-- The text before the place where it breaks. -/
def soundFrom : Option Underway → List UInt8 → List Char
  | _, [] => []
  | underway, b :: bytes =>
    let next := match underway with
      | none => begin? b.toNat
      | some u => continue? b.toNat u
    match next with
    | none => []
    | some (value, []) => ofPoint value ++ soundFrom none bytes
    | some next => soundFrom (some next) bytes

def sound (bytes : List UInt8) : List Char := soundFrom none bytes

/-- A character under way with its bytes, last first. -/
abbrev Begun := Underway × List UInt8

/-- The text of bytes where `mend` says what stands for the bytes of a part that breaks it. -/
def mendedFrom (mend : List UInt8 → List Char) : Option Begun → List UInt8 → List Char
  | none, [] => []
  | some (_, read), [] => mend read.reverse
  | begun, b :: bytes =>
    let next := begun.bind fun (u, read) => (continue? b.toNat u).map fun u => (u, b :: read)
    match next with
    | some ((value, []), _) => ofPoint value ++ mendedFrom mend none bytes
    | some next => mendedFrom mend (some next) bytes
    | none =>
      let broken := begun.elim [] fun (_, read) => mend read.reverse
      match begin? b.toNat with
      | none => broken ++ mend [b] ++ mendedFrom mend none bytes
      | some (value, []) => broken ++ ofPoint value ++ mendedFrom mend none bytes
      | some u => broken ++ mendedFrom mend (some (u, [b])) bytes

/-- The text of bytes with a replacement character for each part that breaks it. -/
def lossy (bytes : List UInt8) : List Char :=
  mendedFrom (fun _ => [Char.ofNat 0xFFFD]) none bytes

/-- The text of bytes with a surrogate for each byte of a part that breaks it. -/
def escaped (bytes : List UInt8) : List Char :=
  mendedFrom (fun broken => ofPoints (broken.map fun b => 0xDC00 + b.toNat)) none bytes

/-- The bytes of a code point, a byte by itself for a surrogate of the upper half of the bytes. -/
def pointBytes? (n : Nat) : Option (List UInt8) :=
  if Nat.ble 0xDC80 n && Nat.ble n 0xDCFF then some [(n - 0xDC00).toUInt8]
  else if isSurrogate n then none
  else some (String.singleton (Char.ofNat n)).toUTF8.toList

/-- The bytes of a text with such surrogates, if it holds no others. -/
def unescaped? (s : String) : Option (List UInt8) :=
  ((points s).mapM pointBytes?).map List.flatten

end ComparativeLaw.Text.Utf8
