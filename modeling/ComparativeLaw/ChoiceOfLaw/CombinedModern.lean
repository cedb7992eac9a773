import ComparativeLaw.ChoiceOfLaw.InterestAnalysis
import ComparativeLaw.ChoiceOfLaw.Relationship

namespace ComparativeLaw.CombinedModern

variable {α : Type} [Scalar α]

def interestOnly (first : Resolution α) : Resolution α :=
  { first with
    approach := .combinedModern
    reasoning := first.reasoning ++ " No relationship analysis is needed." }

/-- The relationship decides; the confidence is the mean of both stages. -/
def bothStages (first second : Resolution α) : Resolution α :=
  let one := Scalar.fixed 2 first.confidence
  let two := Scalar.fixed 2 second.confidence
  { second with
    approach := .combinedModern
    confidence := (first.confidence + second.confidence) / 2.0
    reasoning :=
      s!"{first.reasoning} The relationship analysis is therefore applied: {second.reasoning} " ++
      s!"Confidence averages both stages ({one} and {two})."
    conflict := first.conflict }

/-- Interest analysis comes first, and the relationship of the contacts only if that finds no false
conflict. -/
def resolve (m : Materials α) (facts : Facts) (forum : Reference) : Except Fault (Resolution α) :=
  let first := InterestAnalysis.resolve m facts forum
  if first.conflict = some .falseConflict then .ok (interestOnly first)
  else (Relationship.resolve m facts forum).map (bothStages first)

end ComparativeLaw.CombinedModern
