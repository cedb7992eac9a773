/-!
Code points. A surrogate is a code point that is no character, but a text may hold one alone. Among
characters it is written as a mark and a character that stands in for it, and the character that
serves as the mark is written twice. So a text stays a list of characters, and `pointsOf_ofPoints`
says that it keeps its points.
-/
namespace ComparativeLaw.Text

/-- A unit for which another one follows to make up a character. -/
def isHighUnit (n : Nat) : Bool := Nat.ble 0xD800 n && Nat.ble n 0xDBFF

def isLowUnit (n : Nat) : Bool := Nat.ble 0xDC00 n && Nat.ble n 0xDFFF

def isSurrogate (n : Nat) : Bool := Nat.ble 0xD800 n && Nat.ble n 0xDFFF

/-- The point of two units that belong together. -/
def ofPair (high low : Nat) : Nat := 0x10000 + (high - 0xD800) * 0x400 + (low - 0xDC00)

def lastPoint : Nat := 0x10FFFF

/-- The character before one that stands in for a surrogate. -/
def mark : Char := Char.ofNat lastPoint

/-- How far the characters that stand in are from the surrogates. -/
def standInOffset : Nat := 0x800

/-- A code point as it is written. -/
def ofPoint (n : Nat) : List Char :=
  if isSurrogate n then [mark, Char.ofNat (n + standInOffset)]
  else if n = lastPoint then [mark, mark]
  else [Char.ofNat n]

def ofPoints (points : List Nat) : List Char := points.flatMap ofPoint

def written (s : List Char) : List Char := s.flatMap fun c => ofPoint c.toNat

/-- The point that a character after the mark tells. -/
def markedPoint (c : Char) : Nat := if c = mark then lastPoint else c.toNat - standInOffset

def pointsOf : List Char → List Nat
  | [] => []
  | [c] => [c.toNat]
  | c :: d :: s => if c = mark then markedPoint d :: pointsOf s else c.toNat :: pointsOf (d :: s)

def points (s : String) : List Nat := pointsOf s.toList

def size (s : String) : Nat := (points s).length

def characters (s : String) : List String := (points s).map fun n => String.ofList (ofPoint n)

def take (n : Nat) (s : String) : String := String.ofList (ofPoints ((points s).take n))

/-- Whether a text comes before another one or equals it, by the numbers of the code points. -/
def precedes (s t : String) : Bool := !decide (points t < points s)

/-- Whether a text holds a surrogate, which no encoding of whole characters takes. -/
def hasSurrogate (s : String) : Bool := (points s).any isSurrogate

/-- A text with three replacement characters, one for each byte, in place of every surrogate. -/
def lossy (s : String) : String :=
  String.ofList (ofPoints ((points s).flatMap fun n =>
    if isSurrogate n then List.replicate 3 0xFFFD else [n]))

/-- The bytes of a text, unless it holds a surrogate. -/
def bytes? (s : String) : Option ByteArray :=
  if hasSurrogate s then none else some (String.ofList ((points s).map Char.ofNat)).toUTF8

theorem pointsOf_cons {c : Char} (h : c ≠ mark) (s : List Char) :
    pointsOf (c :: s) = c.toNat :: pointsOf s := by
  cases s <;> simp [pointsOf, h]

theorem toNat_ofNat {n : Nat} (h : n.isValidChar) : (Char.ofNat n).toNat = n := by
  rw [Char.ofNat, dif_pos h]
  rfl

theorem pointsOf_ofPoint {n : Nat} (h : n ≤ lastPoint) (s : List Char) :
    pointsOf (ofPoint n ++ s) = n :: pointsOf s := by
  unfold ofPoint
  split
  · next hs =>
    have hs : 0xD800 ≤ n ∧ n ≤ 0xDFFF := by simpa [isSurrogate] using hs
    have hv : (n + standInOffset).isValidChar := by
      simp only [standInOffset, Nat.isValidChar]
      omega
    have hn := toNat_ofNat hv
    have hm : Char.ofNat (n + standInOffset) ≠ mark := fun h => by
      have hm : mark.toNat = lastPoint := rfl
      rw [← h, hn] at hm
      simp only [standInOffset, lastPoint] at hm
      omega
    simp [pointsOf, markedPoint, hm, hn]
  · next hs =>
    split
    · next he => simp [pointsOf, markedPoint, he]
    · next he =>
      have hv : n.isValidChar := by
        simp only [isSurrogate, Bool.and_eq_true, Nat.ble_eq] at hs
        simp only [lastPoint] at h he
        simp only [Nat.isValidChar]
        omega
      have hn := toNat_ofNat hv
      have hm : Char.ofNat n ≠ mark := fun h => he (by rw [← hn, h]; rfl)
      rw [List.singleton_append, pointsOf_cons hm, hn]

/-- A text keeps the points that it is written from. -/
theorem pointsOf_ofPoints {ps : List Nat} (h : ∀ n ∈ ps, n ≤ lastPoint) :
    pointsOf (ofPoints ps) = ps := by
  induction ps with
  | nil => rfl
  | cons n ps ih =>
    rw [ofPoints, List.flatMap_cons, pointsOf_ofPoint (h n (by simp))]
    exact congrArg (n :: ·) (ih fun m hm => h m (by simp [hm]))

end ComparativeLaw.Text
