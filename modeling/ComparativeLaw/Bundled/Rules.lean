import ComparativeLaw.Bundled.Decisions
import ComparativeLaw.Jurisdiction.Known
import ComparativeLaw.Rule.Entry

namespace ComparativeLaw.Bundled

def quebec : Jurisdiction := { code := "CA-QC", name := "Quebec", tradition := .civilLaw }

/-- The known jurisdictions and those that only the bundled rules name. -/
def registry : Registry := Registry.known.merged [quebec]

/-- A rule of the jurisdiction with the given code, without its sources. -/
def entry (topic : Topic) (code : String) (rule : Rule) : RuleEntry :=
  { jurisdiction := (registry.get? (.text code)).getD (.ofCode code), topic, rule }

def comparativeNegligence : List RuleEntry :=
  let law := entry .comparativeNegligence
  [{ law "US-CA" .pureComparativeNegligence with
      precedents := [{
        citation := "13 Cal. 3d 804", shortName := "Li v. Yellow Cab Co.",
        year := 1975, significance := "Judicially adopted pure comparative negligence" }]
      adopted := some liDecided },
    { law "US-NY" .pureComparativeNegligence with
      statute := some {
        citation := "N.Y. C.P.L.R. 1411",
        title := .text ("Damages recoverable when contributory negligence or assumption of risk " ++
          "is established"),
        year := 1975 }
      adopted := some ⟨1975, 9, 1, rfl⟩ },
    { law "US-WA" .pureComparativeNegligence with
      statute := some { citation := "Wash. Rev. Code 4.22.005", year := 1981 } },
    { law "US-AZ" .pureComparativeNegligence with
      statute := some { citation := "Ariz. Rev. Stat. 12-2505", year := 1984 } },
    { law "US-LA" .pureComparativeNegligence with
      statute := some { citation := "La. Civ. Code art. 2323", year := 1979 } },
    { law "US-FL" .modifiedComparative51 with
      statute := some { citation := "Fla. Stat. 768.81(6)", year := 2023 }
      adopted := some ⟨2023, 3, 24, rfl⟩
      notes := "Replaced pure comparative negligence (Hoffman v. Jones, 1973)." },
    { law "US-TX" .modifiedComparative51 with
      statute := some {
        citation := "Tex. Civ. Prac. & Rem. Code 33.001",
        title := "Proportionate Responsibility",
        year := 1995 } },
    { law "US-IL" .modifiedComparative51 with
      statute := some { citation := "735 ILCS 5/2-1116", year := 1986 } },
    { law "US-PA" .modifiedComparative51 with
      statute := some {
        citation := "42 Pa. C.S. 7102",
        title := "Comparative Negligence Act",
        year := 1978 } },
    { law "US-NJ" .modifiedComparative51 with
      statute := some { citation := "N.J. Stat. Ann. 2A:15-5.1", year := 1973 } },
    { law "US-OH" .modifiedComparative51 with
      statute := some { citation := "Ohio Rev. Code 2315.33", year := 2003 } },
    { law "US-MN" .modifiedComparative51 with
      statute := some { citation := "Minn. Stat. 604.01", year := 1969 } },
    { law "US-MA" .modifiedComparative51 with
      statute := some { citation := "Mass. Gen. Laws ch. 231, 85", year := 1969 } },
    { law "US-CO" .modifiedComparative50 with
      statute := some { citation := "Colo. Rev. Stat. 13-21-111", year := 1971 } },
    { law "US-GA" .modifiedComparative50 with
      statute := some { citation := "O.C.G.A. 51-12-33", year := 2005 } },
    { law "US-KS" .modifiedComparative50 with
      statute := some { citation := "Kan. Stat. Ann. 60-258a", year := 1974 } },
    { law "US-AL" .contributoryNegligence with
      precedents := [{
        citation := "124 So. 3d 724", shortName := "Golden Gate Nat'l Senior Care v. Nelson",
        year := 2013 }] },
    { law "US-MD" .contributoryNegligence with
      precedents := [{
        citation := "432 Md. 679", shortName := "Coleman v. Soccer Ass'n of Columbia",
        year := 2013, significance := "Declined to abandon contributory negligence" }] },
    law "US-VA" .contributoryNegligence,
    law "US-DC" .contributoryNegligence,
    { law "UK" .pureComparativeNegligence with
      statute := some {
        citation := "Law Reform (Contributory Negligence) Act 1945, s. 1",
        year := 1945 } },
    { law "DE" .pureComparativeNegligence with
      statute := some { citation := "BGB 254", title := "Mitverschulden" } },
    { law "JP" .pureComparativeNegligence with
      statute := some { citation := "Civil Code art. 722(2)" } },
    { law "CA-QC" .pureComparativeNegligence with
      statute := some { citation := "C.C.Q. art. 1478" } }]

def damagesCaps : List RuleEntry :=
  let law := entry .damagesCaps
  [{ law "US-CA" (.cap .nonEconomic 350000
        ["medical malpractice", "non-death cases", "rises annually to $750,000"]) with
      statute := some {
        citation := "Cal. Civ. Code 3333.2",
        title := "MICRA",
        year := 2022 }
      adopted := some ⟨2023, 1, 1, rfl⟩ },
    { law "US-TX" (.cap .nonEconomic 250000
        ["medical malpractice", "per claimant against physicians"]) with
      statute := some { citation := "Tex. Civ. Prac. & Rem. Code 74.301", year := 2003 } },
    { law "US-CO" (.cap .nonEconomic 1500000 []) with
      statute := some { citation := "Colo. Rev. Stat. 13-21-102.5", year := 2024 } },
    law "US-NY" .noDamagesCap,
    { law "US-PA" .noDamagesCap with
      statute := some { citation := "Pa. Const. art. III, 18" } },
    { law "US-IL" .noDamagesCap with
      precedents := [{
        citation := "237 Ill. 2d 217", shortName := "Lebron v. Gottlieb Memorial Hospital",
        year := 2010, significance := "Struck down the medical malpractice non-economic cap" }] },
    { law "US-FL" .noDamagesCap with
      precedents := [{
        citation := "147 So. 3d 894", shortName := "Estate of McCall v. United States",
        year := 2014 }] }]

/-- Liability for the whole damage above a share of the fault. -/
def jointlyAbove (percent : Float) : Rule :=
  .threshold "modified_joint_and_several" (.number percent)

def proposition51 : Rule :=
  .custom "Proposition 51"
    "Joint and several for economic damages; several only for non-economic damages"
    [("economic", "joint_and_several"), ("non_economic", "several")]

def jointLiability : List RuleEntry :=
  let law := entry .jointAndSeveralLiability
  [{ law "US-CA" proposition51 with
      statute := some { citation := "Cal. Civ. Code 1431.2", year := 1986 } },
    { law "US-NY" (jointlyAbove 50.0) with
      statute := some { citation := "N.Y. C.P.L.R. 1601", year := 1986 } },
    { law "US-TX" (jointlyAbove 50.0) with
      statute := some { citation := "Tex. Civ. Prac. & Rem. Code 33.013", year := 2003 } },
    { law "US-IL" (jointlyAbove 25.0) with
      statute := some { citation := "735 ILCS 5/2-1117", year := 2003 } },
    { law "US-PA" (jointlyAbove 60.0) with
      statute := some {
        citation := "42 Pa. C.S. 7102(a.1)",
        title := "Fair Share Act",
        year := 2011 } },
    { law "US-NJ" (jointlyAbove 60.0) with
      statute := some { citation := "N.J. Stat. Ann. 2A:15-5.3", year := 1995 } },
    { law "US-FL" .severalLiabilityOnly with
      statute := some { citation := "Fla. Stat. 768.81(3)", year := 2006 } },
    law "US-MD" .jointAndSeveralLiability]

def rules : List RuleEntry := comparativeNegligence ++ damagesCaps ++ jointLiability

end ComparativeLaw.Bundled
