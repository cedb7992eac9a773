import ComparativeLaw.CaseLaw.Decision

namespace ComparativeLaw.Bundled

/-- The day on which California adopted pure comparative negligence. -/
def liDecided : Date := ⟨1975, 3, 31, rfl⟩

def decisions : List Decision := [
  { id := "us-ny-1963-babcock", caseNumber := "12 N.Y.2d 473", decided := ⟨1963, 5, 9, rfl⟩
    level := .supreme, topic := "choice_of_law", outcome := .reversed
    jurisdiction := "US-NY"
    summary := "Guest statute of the place of injury displaced by forum law where New York had " ++
      "the dominant contacts with the host-guest relationship."
    holdings := [
      { issue := "Whether the Ontario guest statute governs a suit between New York " ++
          "domiciliaries injured in Ontario"
        reasoning := "The parties, the trip and the relationship were centered in New York; " ++
          "Ontario's concern was limited to conduct on its roads."
        conclusion := "New York law applies under a center of gravity analysis" }]
    parties := [.text "Georgia Babcock", .text "Mrs. Jackson"] },
  { id := "us-ca-1975-li", caseNumber := "13 Cal.3d 804", decided := liDecided
    level := .supreme, topic := "comparative_negligence", outcome := .reversed
    jurisdiction := "US-CA"
    summary := "Contributory negligence abolished in favor of pure comparative negligence " ++
      "apportioning liability by fault."
    holdings := [
      { issue := "Whether the all-or-nothing contributory negligence bar survives"
        reasoning := "Civil Code section 1714 does not codify the bar and permits judicial " ++
          "evolution."
        conclusion := "Pure comparative negligence replaces contributory negligence" }]
    parties := [.text "Nga Li", .text "Yellow Cab Company of California"]
    statutes := [.text "Cal. Civ. Code 1714"] },
  { id := "us-fl-1973-hoffman", caseNumber := "280 So.2d 431", decided := ⟨1973, 7, 10, rfl⟩
    level := .supreme, topic := "comparative_negligence", outcome := .modified
    jurisdiction := "US-FL"
    summary := "Florida adopts pure comparative negligence and rejects the contributory " ++
      "negligence bar."
    holdings := [
      { issue := "Whether the court may replace contributory negligence without legislation"
        reasoning := "The rule was judicially created and may be judicially altered."
        conclusion := "Damages are reduced in proportion to the plaintiff's fault" }]
    parties := [.text "Hoffman", .text "Jones"] },
  { id := "us-tx-2019-0142", caseNumber := "17-0142", decided := ⟨2019, 6, 14, rfl⟩
    level := .supreme, topic := "fraud", outcome := .affirmed
    jurisdiction := "US-TX"
    summary := "Fraud claim upheld where the seller concealed known structural defects during " ++
      "negotiation."
    holdings := [
      { issue := "Whether an as-is clause bars a fraudulent inducement claim"
        reasoning := "An as-is clause does not protect a seller who conceals known defects."
        conclusion := "The as-is clause does not bar the claim" }]
    parties := [.text "Buyer LLC", .text "Seller Holdings"]
    statutes := [.text "Tex. Bus. & Com. Code 27.01"] },
  { id := "us-tx-2021-d-0387", caseNumber := "DC-21-0387", decided := ⟨2021, 11, 2, rfl⟩
    level := .district, topic := "contract", outcome := .forDefendant
    jurisdiction := "US-TX"
    summary := "Breach of warranty claim dismissed for lack of timely notice."
    holdings := [
      { issue := "Whether the buyer's notice was timely"
        reasoning := "Notice came fourteen months after delivery."
        conclusion := "Notice untimely" },
      { issue := "Whether fraud tolled the notice period"
        reasoning := "No evidence of concealment was offered."
        conclusion := "No fraud shown, so no tolling" }]
    parties := [.text "Acme Parts", .text "Lone Star Supply"]
    statutes := [.text "Tex. Bus. & Com. Code 2.607"] },
  { id := "us-il-2010-lebron", caseNumber := "105741", decided := ⟨2010, 2, 4, rfl⟩
    level := .supreme, topic := "damages_caps", outcome := .affirmed
    jurisdiction := "US-IL"
    summary := "Statutory cap on non-economic damages in medical malpractice actions held " ++
      "unconstitutional."
    holdings := [
      { issue := "Whether the non-economic damages cap violates separation of powers"
        reasoning := "The cap operates as a legislative remittitur overriding the jury's " ++
          "assessment."
        conclusion := "The cap is unconstitutional" }]
    parties := [.text "Abigaile Lebron", .text "Gottlieb Memorial Hospital"]
    statutes := [.text "735 ILCS 5/2-1706.5"] },
  { id := "us-ca-2022-app-1188", caseNumber := "B311188", decided := ⟨2022, 8, 19, rfl⟩
    level := .appellate, topic := "products_liability", outcome := .remanded
    jurisdiction := "US-CA"
    summary := "Design defect verdict remanded for apportionment of non-economic damages under " ++
      "Proposition 51."
    holdings := [
      { issue := "Whether non-economic damages may be imposed jointly"
        reasoning := "Civil Code section 1431.2 limits each defendant to its share of " ++
          "non-economic damages."
        conclusion := "Several liability applies to non-economic damages" }]
    parties := [.text "Ramirez", .text "Pacific Ladder Co."]
    statutes := [.text "Cal. Civ. Code 1431.2"] },
  { id := "us-pa-2018-reg-0212", caseNumber := "2018-CV-0212", decided := ⟨2018, 3, 7, rfl⟩
    level := .regional, topic := "comparative_negligence", outcome := .forPlaintiff
    jurisdiction := "US-PA"
    summary := "Jury apportioned forty percent fault to the plaintiff pedestrian; recovery " ++
      "reduced accordingly."
    holdings := [
      { issue := "Whether the plaintiff's share of fault barred recovery"
        reasoning := "Plaintiff's negligence did not exceed the combined negligence of the " ++
          "defendants."
        conclusion := "Recovery reduced by forty percent" }]
    parties := [.text "Kowalski", .text "Keystone Transit Authority"]
    statutes := [.text "42 Pa. C.S. 7102"] }]

end ComparativeLaw.Bundled
