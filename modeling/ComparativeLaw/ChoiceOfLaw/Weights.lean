import ComparativeLaw.ChoiceOfLaw.Vocabulary
import ComparativeLaw.Number.Scalar
import ComparativeLaw.Topic

namespace ComparativeLaw.ContactKind

variable {α : Type} [Scalar α]

def tortWeight : ContactKind → α
  | placeOfInjury => 3.0
  | placeOfConduct => 2.0
  | domicileOfPlaintiff | domicileOfDefendant => 1.5
  | placeOfBusiness | placeOfRelationship => 1.0
  | _ => 0.0

def contractWeight : ContactKind → α
  | placeOfPerformance => 3.0
  | placeOfContracting | locationOfSubjectMatter => 2.0
  | placeOfNegotiation => 1.5
  | domicileOfPlaintiff | domicileOfDefendant | placeOfBusiness => 1.0
  | _ => 0.0

def propertyWeight : ContactKind → α
  | locationOfSubjectMatter => 3.0
  | domicileOfPlaintiff | domicileOfDefendant | placeOfContracting => 1.0
  | _ => 0.0

/-- The weight of a kind for a category of topics. -/
def baseWeight : Category → ContactKind → α
  | .tort, k | .procedure, k | .criminal, k => k.tortWeight
  | .contract, k => k.contractWeight
  | .property, k => k.propertyWeight
  | .other, _ => 1.0

/-- The weight of a kind with overrides, of which the last one for the kind counts. -/
def weight (category : Category) (overrides : List (ContactKind × α)) (k : ContactKind) : α :=
  ((overrides.reverse.find? fun e => e.1 = k).map (·.2)).getD (baseWeight category k)

/-- An override that comes last replaces the weight of its kind and leaves every other. -/
theorem weight_append (category : Category) (overrides : List (ContactKind × α))
    (k k' : ContactKind) (w : α) : weight category (overrides ++ [(k, w)]) k' =
      if k' = k then w else weight category overrides k' := by
  rw [weight, List.reverse_append, List.reverse_singleton, List.singleton_append, List.find?_cons]
  by_cases h : k' = k
  · simp [h]
  · simp [h, Ne.symm h, weight]

end ComparativeLaw.ContactKind
