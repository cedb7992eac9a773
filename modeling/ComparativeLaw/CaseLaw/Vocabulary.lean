import ComparativeLaw.Policy
import ComparativeLaw.Vocabulary

namespace ComparativeLaw

/-- The levels of courts, the highest first. -/
inductive CourtLevel where
  | supreme | appellate | regional | district
deriving DecidableEq, Repr, Inhabited

namespace CourtLevel

def all : List CourtLevel := [supreme, appellate, regional, district]

def code : CourtLevel → String
  | supreme => "supreme"
  | appellate => "appellate"
  | regional => "regional"
  | district => "district"

def label : CourtLevel → String
  | supreme => "Supreme Court"
  | appellate => "Court of Appeal"
  | regional => "Regional Court"
  | district => "District Court"

/-- The place of a level from the top, zero for the highest. -/
def rank : CourtLevel → Nat
  | supreme => 0
  | appellate => 1
  | regional => 2
  | district => 3

instance : Vocabulary CourtLevel := ⟨"CourtLevel", all, code⟩

/-- What a decision of the level earns in every search. -/
def points {α : Type} (policy : Policy α) : CourtLevel → α
  | supreme => policy.supremePoints
  | appellate => policy.appellatePoints
  | regional => policy.regionalPoints
  | district => policy.districtPoints

end CourtLevel

inductive Outcome where
  | affirmed | reversed | modified | remanded | dismissed | forPlaintiff | forDefendant | other
deriving DecidableEq, Repr, Inhabited

namespace Outcome

def all : List Outcome :=
  [affirmed, reversed, modified, remanded, dismissed, forPlaintiff, forDefendant, other]

def code : Outcome → String
  | affirmed => "affirmed"
  | reversed => "reversed"
  | modified => "modified"
  | remanded => "remanded"
  | dismissed => "dismissed"
  | forPlaintiff => "for_plaintiff"
  | forDefendant => "for_defendant"
  | other => "other"

instance : Vocabulary Outcome := ⟨"Outcome", all, code⟩

end Outcome
end ComparativeLaw
