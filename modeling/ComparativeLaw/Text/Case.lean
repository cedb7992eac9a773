import ComparativeLaw.Text.Blank
import ComparativeLaw.Text.CaseTable

/-!
Lower, upper and title case of texts by the full mappings: one character may become several, and
a capital sigma at the end of a word becomes the final small sigma.
-/
namespace ComparativeLaw.Text

/-- The code point after the first run that covers it, unchanged if none does. -/
def shiftBy (runs : List CaseRun) (n : Nat) : Nat :=
  match runs.find? (·.covers n) with
  | some r => ((n : Int) + r.offset).toNat
  | none => n

/-- The characters listed for a code point, if it is listed. -/
def listed (table : List (Nat × List Nat)) (n : Nat) : Option (List Char) :=
  (table.find? fun e => Nat.beq e.1 n).map fun e => e.2.map Char.ofNat

/-- Lower case of a character outside any context; a dotted capital I keeps its dot. -/
def lowerOf (c : Char) : List Char :=
  let n := c.toNat
  if Nat.ble n 0x7F then [if Nat.ble 0x41 n && Nat.ble n 0x5A then Char.ofNat (n + 32) else c]
  else if Nat.beq n 0x130 then ['i', Char.ofNat 0x307]
  else [Char.ofNat (shiftBy lowerRuns n)]

def upperOf (c : Char) : List Char :=
  let n := c.toNat
  if Nat.ble n 0x7F then [if Nat.ble 0x61 n && Nat.ble n 0x7A then Char.ofNat (n - 32) else c]
  else (listed upperLong n).getD [Char.ofNat (shiftBy upperRuns n)]

def titleOf (c : Char) : List Char :=
  if Nat.ble c.toNat 0x7F then upperOf c else (listed titleOwn c.toNat).getD (upperOf c)

def isCased (c : Char) : Bool :=
  let n := c.toNat
  if Nat.ble n 0x7F then
    Nat.ble 0x41 n && Nat.ble n 0x5A || Nat.ble 0x61 n && Nat.ble n 0x7A
  else inRanges casedRanges n

def isCaseIgnorable (c : Char) : Bool := inRanges caseIgnorableRanges c.toNat

/-- Whether the first character that is not ignorable has case. -/
def startsCased : List Char → Bool
  | [] => false
  | c :: s => if isCaseIgnorable c then startsCased s else isCased c

/-- Whether the last character that is not ignorable has case, given the answer before `c`. -/
def casedAfter (before : Bool) (c : Char) : Bool :=
  if isCaseIgnorable c then before else isCased c

/-- Lower case of one character between what stands before and after it: a capital sigma is
final after a letter and not before one. -/
def lowerIn (before : Bool) (c : Char) (after : List Char) : List Char :=
  if c = 'Σ' then [if before && !startsCased after then 'ς' else 'σ'] else lowerOf c

/-- Lower case of a text that follows a letter (`before`) or does not. -/
def lowerFrom (before : Bool) : List Char → List Char
  | [] => []
  | c :: s => lowerIn before c s ++ lowerFrom (casedAfter before c) s

/-- Title case of a text: `within` tells whether the character right before has case, `before`
whether the last one that is not ignorable has. -/
def titleFrom (within before : Bool) : List Char → List Char
  | [] => []
  | c :: s =>
    (if within then lowerIn before c s else titleOf c) ++
      titleFrom (isCased c) (casedAfter before c) s

def lowerChars (s : List Char) : List Char := lowerFrom false s

def upperChars (s : List Char) : List Char := s.flatMap upperOf

def lower (s : String) : String := String.ofList (lowerChars s.toList)

def upper (s : String) : String := String.ofList (upperChars s.toList)

/-- Each word starts in title case and goes on in lower case; a word starts after any character
without case. -/
def title (s : String) : String := String.ofList (titleFrom false false s.toList)

end ComparativeLaw.Text
