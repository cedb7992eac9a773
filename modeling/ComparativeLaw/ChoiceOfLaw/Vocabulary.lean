import ComparativeLaw.Vocabulary

namespace ComparativeLaw

/-- What ties a dispute to a jurisdiction. -/
inductive ContactKind where
  | placeOfInjury
  | placeOfConduct
  | domicileOfPlaintiff
  | domicileOfDefendant
  | placeOfBusiness
  | placeOfRelationship
  | placeOfContracting
  | placeOfNegotiation
  | placeOfPerformance
  | locationOfSubjectMatter
deriving DecidableEq, Repr, Inhabited

namespace ContactKind

def all : List ContactKind :=
  [placeOfInjury, placeOfConduct, domicileOfPlaintiff, domicileOfDefendant, placeOfBusiness,
    placeOfRelationship, placeOfContracting, placeOfNegotiation, placeOfPerformance,
    locationOfSubjectMatter]

def code : ContactKind → String
  | placeOfInjury => "place_of_injury"
  | placeOfConduct => "place_of_conduct"
  | domicileOfPlaintiff => "domicile_of_plaintiff"
  | domicileOfDefendant => "domicile_of_defendant"
  | placeOfBusiness => "place_of_business"
  | placeOfRelationship => "place_of_relationship"
  | placeOfContracting => "place_of_contracting"
  | placeOfNegotiation => "place_of_negotiation"
  | placeOfPerformance => "place_of_performance"
  | locationOfSubjectMatter => "location_of_subject_matter"

instance : Vocabulary ContactKind := ⟨"ContactingFactorKind", all, code⟩

end ContactKind

/-- The doctrines by which a forum chooses the governing law. -/
inductive Approach where
  | territorial
  | mostSignificantRelationship
  | interestAnalysis
  | betterLaw
  | combinedModern
deriving DecidableEq, Repr, Inhabited

namespace Approach

def code : Approach → String
  | territorial => "territorial"
  | mostSignificantRelationship => "most_significant_relationship"
  | interestAnalysis => "interest_analysis"
  | betterLaw => "better_law"
  | combinedModern => "combined_modern"

def label : Approach → String
  | territorial => "Territorial (lex loci)"
  | mostSignificantRelationship => "Most Significant Relationship"
  | interestAnalysis => "Governmental Interest Analysis"
  | betterLaw => "Better Law"
  | combinedModern => "Combined Modern"

instance : Vocabulary Approach :=
  ⟨"ApproachKind", [territorial, mostSignificantRelationship, interestAnalysis, betterLaw,
    combinedModern], code⟩

end Approach

inductive Conflict where
  | falseConflict
  | trueConflict
  | unprovidedFor
deriving DecidableEq, Repr, Inhabited

def Conflict.code : Conflict → String
  | falseConflict => "false_conflict"
  | trueConflict => "true_conflict"
  | unprovidedFor => "unprovided_for"

end ComparativeLaw
