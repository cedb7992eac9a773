import ComparativeLaw.ChoiceOfLaw.Resolution

/-!
The winner among scored candidates. A tie at the top goes to the forum if it shares the top score,
otherwise to the first candidate; the confidence is the gap to the runner-up relative to the top.
-/
namespace ComparativeLaw

structure Standing (α : Type) where
  winner : String
  top : α
  second : α

namespace Standing

variable {α : Type} [Scalar α]

/-- The largest of some numbers, the first of equal ones. -/
def largest? : List α → Option α
  | [] => none
  | x :: xs => some (xs.foldl Scalar.larger x)

def tied (scores : Scores α) (top : α) : List String :=
  (scores.filter fun e => e.2 == top).map (·.1)

/-- The best of the scores of the other candidates, zero if there are none. -/
def secondBest (scores : Scores α) (winner : String) : α :=
  (largest? ((scores.filter fun e => e.1 ≠ winner).map (·.2))).getD 0.0

/-- The winner, the top score and the best score of the others. A top score that is not even equal
to itself has no candidate. -/
def of (scores : Scores α) (forum : Option String) : Except Fault (Standing α) :=
  match largest? (scores.map (·.2)) with
  | none => .error (.complaint .emptyMaximum)
  | some top =>
    let tied := tied scores top
    match (forum.filter tied.contains).or tied.head? with
    | none => .error .noElement
    | some winner => .ok { winner, top, second := secondBest scores winner }

/-- The gap between the two best scores relative to the top, zero if the top is not positive. -/
def gap (top second : α) : α := if top ≤ 0.0 then 0.0 else Scalar.clamp 1.0 ((top - second) / top)

def confidence (s : Standing α) : α := gap s.top s.second

end Standing
end ComparativeLaw
