import ComparativeLaw.Text.Point

/-!
How much two texts resemble each other, and which words a mistyped one may stand for. The longest
run of characters that both texts have is matched first, then what stands before it and what stands
after it; two texts are close if at least three in five of their characters are matched.
-/
namespace ComparativeLaw.Text

/-- A run of characters that two texts have, by the places where it begins. -/
structure CommonRun where
  first : Nat
  second : Nat
  length : Nat
deriving DecidableEq, Repr

/-- The number of equal characters that two texts begin with. -/
def commonStart : List Nat → List Nat → Nat
  | a :: s, b :: t => if a = b then commonStart s t + 1 else 0
  | _, _ => 0

/-- The longest common run; of several the first one in the first text, and then in the second. -/
def longestRun (s t : List Nat) : CommonRun :=
  let runs := (List.range s.length).flatMap fun i => (List.range t.length).map fun j =>
    { first := i, second := j, length := commonStart (s.drop i) (t.drop j) : CommonRun }
  runs.foldl (fun best r => if best.length < r.length then r else best) ⟨0, 0, 0⟩

/-- The number of characters of a text that are matched in another one; `fuel` bounds how often it
is divided. -/
def matchedFrom : Nat → List Nat → List Nat → Nat
  | 0, _, _ => 0
  | fuel + 1, s, t =>
    let r := longestRun s t
    if r.length = 0 then 0
    else matchedFrom fuel (s.take r.first) (t.take r.second) + r.length +
      matchedFrom fuel (s.drop (r.first + r.length)) (t.drop (r.second + r.length))

/-- The number of matched characters, unless the lengths alone keep two texts from being close. -/
def matched (s t : List Nat) : Nat :=
  if 10 * min s.length t.length < 3 * (s.length + t.length) then 0 else matchedFrom s.length s t

/-- A word with the part of the characters that are matched, out of all characters of both texts. -/
structure Likeness where
  word : String
  matched : Nat
  total : Nat
deriving DecidableEq, Repr

namespace Likeness

def of (text word : String) : Likeness where
  word
  matched := Text.matched (points word) (points text)
  total := size word + size text

def isClose (x : Likeness) : Bool := 3 * x.total ≤ 10 * x.matched

/-- Whether a word comes before another one: the more like first, then the later in the alphabet. -/
def before (x y : Likeness) : Bool :=
  decide (y.matched * x.total < x.matched * y.total) ||
    decide (y.matched * x.total = x.matched * y.total) && precedes y.word x.word

end Likeness

/-- The words that are close to a text, in alphabetical order; of more than three those that are the
closest. -/
def closeWords (text : String) (words : List String) : List String :=
  let close := (words.map (Likeness.of text)).filter Likeness.isClose
  (((close.mergeSort Likeness.before).take 3).map Likeness.word).mergeSort precedes

end ComparativeLaw.Text
