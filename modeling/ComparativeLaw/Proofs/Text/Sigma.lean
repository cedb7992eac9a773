import ComparativeLaw.Text.Case

/-!
Lower case by position. Each character of a text is put in lower case by itself, and only a capital
sigma looks at its neighbours: it is final if the nearest character before it that is not passed
over has case and the nearest one after it has none. The pass over the text, which remembers what
came before, comes to just that.
-/
namespace ComparativeLaw.Text

/-- Whether the first of some characters that is not passed over has case. -/
def nearestCased (s : List Char) : Bool := (s.find? fun c => !isCaseIgnorable c).any isCased

/-- Whether a sigma at a position of a text is final. -/
def isFinalAt (s : List Char) (i : Nat) : Bool :=
  nearestCased (s.take i).reverse && !nearestCased (s.drop (i + 1))

/-- The lower case of a character at a position of a text. -/
def lowerAt (s : List Char) (i : Nat) (c : Char) : List Char :=
  if c = 'Σ' then [if isFinalAt s i then 'ς' else 'σ'] else lowerOf c

/-- Looking ahead for a cased character is looking for the nearest one. -/
theorem startsCased_eq (s : List Char) : startsCased s = nearestCased s := by
  induction s with
  | nil => rfl
  | cons c s ih =>
    by_cases hc : isCaseIgnorable c = true
    · simpa [startsCased, nearestCased, hc] using ih
    · simp [startsCased, nearestCased, hc]

/-- The state after a character says whether the nearest cased character before is there. -/
theorem casedAfter_eq (front : List Char) (c : Char) :
    casedAfter (nearestCased front.reverse) c = nearestCased (front ++ [c]).reverse := by
  by_cases hc : isCaseIgnorable c = true <;> simp [casedAfter, nearestCased, hc]

/-- In the state of the text in front, a character becomes what it becomes at its place. -/
theorem lowerIn_eq (front : List Char) (c : Char) (back : List Char) :
    lowerIn (nearestCased front.reverse) c back =
      lowerAt (front ++ c :: back) front.length c := by
  have hback : (front ++ c :: back).drop (front.length + 1) = back := by
    rw [← List.drop_drop, List.drop_left, List.drop_one, List.tail_cons]
  rw [lowerIn, lowerAt, isFinalAt, List.take_left, hback, startsCased_eq]

/-- The pass from left to right looks at each character at its place in the whole text. -/
theorem lowerFrom_eq (front s : List Char) :
    lowerFrom (nearestCased front.reverse) s =
      (s.zipIdx front.length).flatMap fun e => lowerAt (front ++ s) e.2 e.1 := by
  -- With what stands in front of the rest general: it grows by each character that is passed.
  induction s generalizing front with
  | nil => rfl
  | cons c s ih =>
    have hsplit : front ++ c :: s = (front ++ [c]) ++ s := by simp
    have hrest := ih (front ++ [c])
    rw [List.length_append, List.length_singleton, ← hsplit] at hrest
    rw [lowerFrom, lowerIn_eq, casedAfter_eq, hrest, List.zipIdx_cons, List.flatMap_cons]

/-- The lower case of a text is that of its characters where they stand. -/
theorem lowerChars_eq (s : List Char) :
    lowerChars s = s.zipIdx.flatMap fun e => lowerAt s e.2 e.1 := lowerFrom_eq [] s

end ComparativeLaw.Text
