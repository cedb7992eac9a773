import ComparativeLaw.Vocabulary

namespace ComparativeLaw

inductive Category where
  | tort | contract | property | procedure | criminal | other
deriving DecidableEq, Repr, Inhabited

instance : Vocabulary Category where
  title := "TopicCategory"
  all := [.tort, .contract, .property, .procedure, .criminal, .other]
  code
    | .tort => "tort"
    | .contract => "contract"
    | .property => "property"
    | .procedure => "procedure"
    | .criminal => "criminal"
    | .other => "other"

/-- The questions on which jurisdictions are compared, each in one category. -/
inductive Topic where
  | comparativeNegligence
  | dramShopLiability
  | goodSamaritanProtection
  | productsLiability
  | emotionalDistress
  | punitiveDamages
  | medicalMalpractice
  | statuteOfFrauds
  | parolEvidenceRule
  | nonCompeteAgreements
  | adversePossession
  | maritalProperty
  | limitationsPersonalInjury
  | limitationsPropertyDamage
  | limitationsWrittenContract
  | limitationsOralContract
  | limitationsFraud
  | limitationsMedicalMalpractice
  | limitationsProductsLiability
  | damagesCaps
  | jointAndSeveralLiability
  | selfDefense
  | castleDoctrine
  | choiceOfLawApproach
deriving DecidableEq, Repr, Inhabited

namespace Topic

def all : List Topic :=
  [comparativeNegligence, dramShopLiability, goodSamaritanProtection, productsLiability,
    emotionalDistress, punitiveDamages, medicalMalpractice, statuteOfFrauds, parolEvidenceRule,
    nonCompeteAgreements, adversePossession, maritalProperty, limitationsPersonalInjury,
    limitationsPropertyDamage, limitationsWrittenContract, limitationsOralContract,
    limitationsFraud, limitationsMedicalMalpractice, limitationsProductsLiability, damagesCaps,
    jointAndSeveralLiability, selfDefense, castleDoctrine, choiceOfLawApproach]

def code : Topic → String
  | comparativeNegligence => "comparative_negligence"
  | dramShopLiability => "dram_shop_liability"
  | goodSamaritanProtection => "good_samaritan_protection"
  | productsLiability => "products_liability"
  | emotionalDistress => "emotional_distress"
  | punitiveDamages => "punitive_damages"
  | medicalMalpractice => "medical_malpractice"
  | statuteOfFrauds => "statute_of_frauds"
  | parolEvidenceRule => "parol_evidence_rule"
  | nonCompeteAgreements => "non_compete_agreements"
  | adversePossession => "adverse_possession"
  | maritalProperty => "marital_property"
  | limitationsPersonalInjury => "limitations_personal_injury"
  | limitationsPropertyDamage => "limitations_property_damage"
  | limitationsWrittenContract => "limitations_written_contract"
  | limitationsOralContract => "limitations_oral_contract"
  | limitationsFraud => "limitations_fraud"
  | limitationsMedicalMalpractice => "limitations_medical_malpractice"
  | limitationsProductsLiability => "limitations_products_liability"
  | damagesCaps => "damages_caps"
  | jointAndSeveralLiability => "joint_and_several_liability"
  | selfDefense => "self_defense"
  | castleDoctrine => "castle_doctrine"
  | choiceOfLawApproach => "choice_of_law_approach"

def label : Topic → String
  | comparativeNegligence => "Comparative/Contributory Negligence"
  | dramShopLiability => "Dram Shop Liability"
  | goodSamaritanProtection => "Good Samaritan Protection"
  | productsLiability => "Products Liability"
  | emotionalDistress => "Emotional Distress"
  | punitiveDamages => "Punitive Damages"
  | medicalMalpractice => "Medical Malpractice"
  | statuteOfFrauds => "Statute of Frauds"
  | parolEvidenceRule => "Parol Evidence Rule"
  | nonCompeteAgreements => "Non-Compete Agreements"
  | adversePossession => "Adverse Possession"
  | maritalProperty => "Marital Property"
  | limitationsPersonalInjury => "Statute of Limitations (Personal Injury)"
  | limitationsPropertyDamage => "Statute of Limitations (Property Damage)"
  | limitationsWrittenContract => "Statute of Limitations (Written Contract)"
  | limitationsOralContract => "Statute of Limitations (Oral Contract)"
  | limitationsFraud => "Statute of Limitations (Fraud)"
  | limitationsMedicalMalpractice => "Statute of Limitations (Medical Malpractice)"
  | limitationsProductsLiability => "Statute of Limitations (Products Liability)"
  | damagesCaps => "Damages Caps"
  | jointAndSeveralLiability => "Joint and Several Liability"
  | selfDefense => "Self-Defense"
  | castleDoctrine => "Castle Doctrine"
  | choiceOfLawApproach => "Choice of Law Approach"

def category : Topic → Category
  | comparativeNegligence | dramShopLiability | goodSamaritanProtection | productsLiability
  | emotionalDistress | punitiveDamages | medicalMalpractice => .tort
  | statuteOfFrauds | parolEvidenceRule | nonCompeteAgreements => .contract
  | adversePossession | maritalProperty => .property
  | limitationsPersonalInjury | limitationsPropertyDamage | limitationsWrittenContract
  | limitationsOralContract | limitationsFraud | limitationsMedicalMalpractice
  | limitationsProductsLiability | damagesCaps | jointAndSeveralLiability => .procedure
  | selfDefense | castleDoctrine => .criminal
  | choiceOfLawApproach => .other

instance : Vocabulary Topic := ⟨"LegalTopic", all, code⟩

/-- The normal form of a topic text: trimmed, in lower case, hyphens and spaces written as
underscores. -/
def normalise (s : String) : String :=
  String.ofList ((Text.lower (Text.strip s)).toList.map fun c =>
    if c = '-' || c = ' ' then '_' else c)

/-- Reads a topic in any case, with hyphens or spaces between its words. -/
def ofText? (s : String) : Option Topic := Vocabulary.ofCode? (normalise s)

end Topic
end ComparativeLaw
