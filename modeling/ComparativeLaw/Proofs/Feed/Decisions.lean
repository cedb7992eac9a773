import ComparativeLaw.Feed.Decisions
import ComparativeLaw.Proofs.Calendar.Text
import ComparativeLaw.Proofs.Jurisdiction.Canonical
import ComparativeLaw.Proofs.Schema.Reading
import ComparativeLaw.Proofs.Topic

namespace ComparativeLaw

open Checked Schema

/-- A text that is taken where one has to be given. -/
structure Text.Given (s : String) : Prop where
  clean : Text.hasSurrogate s = false
  ne_empty : s ≠ ""

/-- A text is taken if it is given: not empty, and without a surrogate. -/
theorem Text.given_iff {j : Json} {s : String} :
    nonEmptyText j = .ok s ↔ j = .text s ∧ Text.Given s := by
  rw [nonEmptyText_eq_ok]
  exact and_congr_right fun _ => ⟨fun h => ⟨h.1, h.2⟩, fun h => ⟨h.1, h.2⟩⟩

theorem Text.Given.read {s : String} (h : Text.Given s) : nonEmptyText (.text s) = .ok s :=
  Text.given_iff.mpr ⟨rfl, h⟩

theorem Text.Given.strip {s : String} (h : Text.Given s) (hb : Text.isBlankText s = false) :
    Text.Given (Text.strip s) where
  clean := Text.hasSurrogate_strip h.clean
  ne_empty := Text.ne_empty_of_isBlankText ((Text.isBlankText_strip s).trans hb)

/-- A holding as a schema takes it. -/
structure Holding.Given (h : Holding) : Prop where
  issue : Text.Given h.issue
  conclusion : Text.Given h.conclusion

namespace Decision

variable {d d' : Decision}

/-- A decision with the texts that a schema takes. -/
structure Given (d : Decision) : Prop where
  id : Text.Given d.id
  caseNumber : Text.Given d.caseNumber
  topic : Text.Given d.topic
  summary : Text.Given d.summary
  holdings : ∀ h ∈ d.holdings, h.Given
  parties : ∃ ps : List String, d.parties = ps.map .text
  statutes : ∃ ss : List String, d.statutes = ss.map .text

/-- A decision in which nothing that is required is blank. -/
structure Complete (d : Decision) : Prop where
  id : Text.isBlankText d.id = false
  caseNumber : Text.isBlankText d.caseNumber = false
  topic : Text.isBlankText d.topic = false
  summary : Text.isBlankText d.summary = false
  holdings : ∀ h ∈ d.holdings, h.complete = true

/-- Nothing is reported for names that all have something in them. -/
theorem blankNames_eq_nil {id caseNumber topic summary : String} :
    blankNames id caseNumber topic summary = [] ↔
      Text.isBlankText id = false ∧ Text.isBlankText caseNumber = false ∧
        Text.isBlankText topic = false ∧ Text.isBlankText summary = false := by
  simp [blankNames]

/-- A decision is built if it is complete, and then it is put into normal form. -/
theorem build_eq_ok : d.build = .ok d' ↔ d.Complete ∧ d' = d.normal := by
  have hrequired (shown : String) :
      checkRequired shown d.id d.caseNumber d.topic d.summary = .ok () ↔
        blankNames d.id d.caseNumber d.topic d.summary = [] := by
    unfold checkRequired
    split
    · next hnil => exact iff_of_true rfl hnil
    · next hcons => exact iff_of_false nofun hcons
  have hholdings (shown : String) :
      checkHoldings shown d.holdings = .ok () ↔ ∀ h ∈ d.holdings, h.complete = true := by
    unfold checkHoldings
    split
    · next position hposition =>
      refine iff_of_false nofun fun hall => ?_
      have hnone : d.holdings.findIdx? (fun h => !h.complete) = none :=
        List.findIdx?_eq_none_iff.mpr fun h hh => by rw [hall h hh]; rfl
      rw [hnone] at hposition
      cases hposition
    · next hnone =>
      refine iff_of_true rfl fun h hh => ?_
      simpa using List.findIdx?_eq_none_iff.mp hnone h hh
  simp only [build, bind_eq_ok, hrequired, hholdings, blankNames_eq_nil, pure, Except.pure,
    Except.ok.injEq]
  -- Nothing is refused exactly if no required text is blank and no holding lacks a part.
  constructor
  · rintro ⟨-, ⟨hid, hcase, htopic, hsummary⟩, -, hhold, rfl⟩
    exact ⟨⟨hid, hcase, htopic, hsummary, hhold⟩, rfl⟩
  · rintro ⟨h, rfl⟩
    exact ⟨(), ⟨h.id, h.caseNumber, h.topic, h.summary⟩, (), h.holdings, rfl⟩

/-- Normalising keeps a decision complete. -/
theorem Complete.normal (h : d.Complete) : d.normal.Complete where
  id := (Text.isBlankText_strip d.id).trans h.id
  caseNumber := (Text.isBlankText_strip d.caseNumber).trans h.caseNumber
  topic := Topic.isBlankText_normalise h.topic
  summary := (Text.isBlankText_strip d.summary).trans h.summary
  holdings := h.holdings

/-- What is given and complete stays given in its normal form. -/
theorem Given.normal (hg : d.Given) (hc : d.Complete) : d.normal.Given where
  id := hg.id.strip hc.id
  caseNumber := hg.caseNumber.strip hc.caseNumber
  topic := {
    clean := Topic.hasSurrogate_normalise hg.topic.clean
    ne_empty := Text.ne_empty_of_isBlankText (Topic.isBlankText_normalise hc.topic) }
  summary := hg.summary.strip hc.summary
  holdings := hg.holdings
  parties := hg.parties
  statutes := hg.statutes

/-- The decision without an empty code of a jurisdiction. -/
def settled (d : Decision) : Decision :=
  { d with jurisdiction := d.jurisdiction.filter fun s => !s.isEmpty }

/-- A jurisdiction is canonical after one reading, but an empty one is dropped by the next. -/
theorem canonicalJurisdiction_canonicalJurisdiction (code : Option String) :
    canonicalJurisdiction (canonicalJurisdiction code) =
      (canonicalJurisdiction code).filter fun s => !s.isEmpty := by
  have hcode (c : String) (hc : c ∈ canonicalJurisdiction code) : canonicalCode c = c := by
    obtain ⟨s, -, rfl⟩ := Option.map_eq_some_iff.mp hc
    exact canonicalCode_canonicalCode s
  cases hkept : canonicalJurisdiction code with
  | none => rfl
  | some c =>
    have hc := hcode c hkept
    unfold canonicalJurisdiction
    cases hempty : c.isEmpty <;> simp [Option.filter, hempty, hc]

/-- The normal form is kept, except for an empty code. -/
theorem normal_normal (d : Decision) : d.normal.normal = d.normal.settled := by
  simp only [normal, settled, Text.strip_strip, Topic.normalise_normalise,
    canonicalJurisdiction_canonicalJurisdiction]

/-- Only a decision with an empty jurisdiction is changed by another reading. -/
theorem settled_eq_self : d.settled = d ↔ d.jurisdiction ≠ some "" := by
  have hfields : d.settled = d ↔
      (d.jurisdiction.filter fun s => !s.isEmpty) = d.jurisdiction := by
    constructor
    · intro h
      exact congrArg Decision.jurisdiction h
    · intro h
      unfold settled
      rw [h]
  rw [hfields]
  cases d.jurisdiction with
  | none => simp
  | some s => simp [Option.filter]

/-- A jurisdiction is read as empty if it is written in blanks. -/
theorem exists_of_canonicalJurisdiction {code : Option String}
    (h : canonicalJurisdiction code = some "") :
    ∃ s, code = some s ∧ s ≠ "" ∧ Text.isBlankText s = true := by
  obtain ⟨s, hs, hempty⟩ := Option.map_eq_some_iff.mp h
  obtain ⟨hcode, hne⟩ := Option.filter_eq_some_iff.mp hs
  have hne : s ≠ "" := by
    rintro rfl
    cases hne
  exact ⟨s, hcode, hne, canonicalCode_eq_empty.mp hempty⟩

end Decision

namespace Feed

variable {d : Decision} {position : Nat} {record : Json}

theorem given_of_readHolding {j : Json} {h : Holding} (hread : readHolding j = .ok h) :
    h.Given := by
  obtain ⟨o, rfl, -, hread⟩ := object_eq_ok.mp hread
  obtain ⟨-, hvalue⟩ := gather_eq_ok.mp hread
  simp only [bind_eq_ok, pure, Except.pure, Except.ok.injEq] at hvalue
  obtain ⟨issue, hissue, reasoning, -, conclusion, hconclusion, rfl⟩ := hvalue
  obtain ⟨_, -, hissue⟩ := required_eq_ok.mp hissue
  obtain ⟨_, -, hconclusion⟩ := required_eq_ok.mp hconclusion
  exact ⟨(Text.given_iff.mp hissue).2, (Text.given_iff.mp hconclusion).2⟩

/-- A holding that is written is read as itself. -/
theorem readHolding_toJson {h : Holding} (hg : h.Given) : readHolding h.toJson = .ok h := by
  let o : Fields := [("issue", .text h.issue), ("reasoning", .text h.reasoning),
    ("conclusion", .text h.conclusion)]
  let names := ["issue", "reasoning", "conclusion"]
  refine object_eq_ok.mpr ⟨o, rfl, clean_of_names names rfl (by decide), ?_⟩
  have hissue : required nonEmptyText o "issue" = .ok h.issue :=
    required_of_get? rfl hg.issue.read
  have hreasoning : defaulted text "" o "reasoning" = .ok h.reasoning :=
    defaulted_of_get? rfl rfl
  have hconclusion : required nonEmptyText o "conclusion" = .ok h.conclusion :=
    required_of_get? rfl hg.conclusion.read
  have hextras : extras ["issue", "reasoning", "conclusion"] o = [] :=
    extras_eq_nil names rfl fun n hn => hn
  simp only [hissue, hreasoning, hconclusion, hextras]
  rfl

theorem given_of_readDecision (h : readDecision record = .ok d) : d.Given := by
  obtain ⟨o, rfl, -, h⟩ := object_eq_ok.mp h
  obtain ⟨-, h⟩ := gather_eq_ok.mp h
  simp only [bind_eq_ok, pure, Except.pure, Except.ok.injEq] at h
  obtain ⟨id, hid, caseNumber, hcase, -, -, -, -, topic, htopic, summary, hsummary, -, -, -, -,
    holdings, hholdings, parties, -, statutes, -, rfl⟩ := h
  obtain ⟨_, -, hid⟩ := required_eq_ok.mp hid
  obtain ⟨_, -, hcase⟩ := required_eq_ok.mp hcase
  obtain ⟨_, -, htopic⟩ := required_eq_ok.mp htopic
  obtain ⟨_, -, hsummary⟩ := required_eq_ok.mp hsummary
  constructor
  case id => exact (Text.given_iff.mp hid).2
  case caseNumber => exact (Text.given_iff.mp hcase).2
  case topic => exact (Text.given_iff.mp htopic).2
  case summary => exact (Text.given_iff.mp hsummary).2
  case holdings =>
    rcases defaulted_eq_ok.mp hholdings with ⟨_, -, hread⟩ | ⟨-, rfl⟩
    · intro hold hmem
      obtain ⟨j, hj⟩ := exists_of_mem_items hread hmem
      exact given_of_readHolding hj
    · nofun
  case parties => exact ⟨parties, rfl⟩
  case statutes => exact ⟨statutes, rfl⟩

theorem items_text (ss : List String) : items text (.list (ss.map .text)) = .ok ss :=
  items_list_map fun _ _ => rfl

theorem member_level (level : CourtLevel) :
    member CourtLevel (.text level.code) = .ok level := by
  cases level <;> exact member_code (by decide) (by decide)

theorem member_outcome (outcome : Outcome) : member Outcome (.text outcome.code) = .ok outcome := by
  cases outcome <;> exact member_code (by decide) (by decide)

/-- A decision that is written is read as itself, its texts as they are. -/
theorem readDecision_toJson (hg : d.Given) : readDecision d.toJson = .ok d := by
  obtain ⟨parties, hparties⟩ := hg.parties
  obtain ⟨statutes, hstatutes⟩ := hg.statutes
  let o : Fields := [("id", .text d.id), ("case_number", .text d.caseNumber),
    ("decided", .text d.decided.text), ("court_level", .text d.level.code),
    ("topic", .text d.topic), ("outcome", .text d.outcome.code),
    ("jurisdiction", .ofText? d.jurisdiction), ("summary", .text d.summary),
    ("holdings", .list (d.holdings.map Holding.toJson)), ("parties", .list d.parties),
    ("cited_statutes", .list d.statutes)]
  let names := ["id", "case_number", "decided", "court_level", "topic", "outcome", "jurisdiction",
    "summary", "holdings", "parties", "cited_statutes"]
  refine object_eq_ok.mpr ⟨o, rfl, clean_of_names names rfl (by decide), ?_⟩
  have hid : required nonEmptyText o "id" = .ok d.id := required_of_get? rfl hg.id.read
  have hcase : required nonEmptyText o "case_number" = .ok d.caseNumber :=
    required_of_get? rfl hg.caseNumber.read
  have hdecided : required day o "decided" = .ok d.decided :=
    required_of_get? rfl d.decided.day_text
  have hlevel : required (member CourtLevel) o "court_level" = .ok d.level :=
    required_of_get? rfl (member_level d.level)
  have htopic : required nonEmptyText o "topic" = .ok d.topic :=
    required_of_get? rfl hg.topic.read
  have hsummary : required nonEmptyText o "summary" = .ok d.summary :=
    required_of_get? rfl hg.summary.read
  have houtcome : defaulted (member Outcome) .other o "outcome" = .ok d.outcome :=
    defaulted_of_get? rfl (member_outcome d.outcome)
  have hjurisdiction : defaulted (nullable text) none o "jurisdiction" = .ok d.jurisdiction :=
    defaulted_of_get? rfl (nullable_text_ofText? d.jurisdiction)
  have hholdings : defaulted (items readHolding) [] o "holdings" = .ok d.holdings :=
    defaulted_of_get? rfl (items_list_map fun h hh => readHolding_toJson (hg.holdings h hh))
  have hpartiesRead : defaulted (items text) [] o "parties" = .ok parties :=
    defaulted_of_get? rfl (hparties ▸ items_text parties)
  have hstatutesRead : defaulted (items text) [] o "cited_statutes" = .ok statutes :=
    defaulted_of_get? rfl (hstatutes ▸ items_text statutes)
  have hextras : extras Decision.fieldNames o = [] := extras_eq_nil names rfl (by decide)
  simp only [hid, hcase, hdecided, hlevel, htopic, hsummary, houtcome, hjurisdiction, hholdings,
    hpartiesRead, hstatutesRead, hextras]
  -- All that is left to see is that parties and statutes are texts again.
  show Except.ok { d with parties := parties.map .text, statutes := statutes.map .text } = .ok d
  rw [← hparties, ← hstatutes]

/-- What comes out of a record is given and complete, and it is in normal form. -/
theorem exists_of_decisionAt (h : decisionAt position record = .ok d) :
    ∃ d₀, readDecision record = .ok d₀ ∧ d₀.Given ∧ d₀.Complete ∧ d = d₀.normal := by
  unfold decisionAt at h
  split at h
  · cases h
  · next d₀ hread =>
    obtain ⟨hcomplete, hnormal⟩ := Decision.build_eq_ok.mp (ok_of_mapError.mp h)
    exact ⟨d₀, hread, given_of_readDecision hread, hcomplete, hnormal⟩

/-- A decision of a feed is read again as what it settles to. -/
theorem decisionAt_toJson {position' : Nat} (h : decisionAt position record = .ok d) :
    decisionAt position' d.toJson = .ok d.settled := by
  obtain ⟨d₀, -, hgiven, hcomplete, rfl⟩ := exists_of_decisionAt h
  have hbuild : d₀.normal.build = .ok d₀.normal.settled :=
    Decision.build_eq_ok.mpr ⟨hcomplete.normal, d₀.normal_normal.symm⟩
  rw [decisionAt, readDecision_toJson (hgiven.normal hcomplete)]
  simp only [hbuild]
  rfl

theorem exists_of_mem_decisionsFrom {records : List Json} {ds : List Decision}
    (h : decisionsFrom position records = .ok ds) (hd : d ∈ ds) :
    ∃ position', ∃ record ∈ records, decisionAt position' record = .ok d := by
  induction records generalizing position ds with
  | nil =>
    cases h
    cases hd
  | cons r rs ih =>
    simp only [decisionsFrom, bind_eq_ok, pure, Except.pure, Except.ok.injEq] at h
    obtain ⟨d', hd', rest, hrest, rfl⟩ := h
    rcases List.mem_cons.mp hd with rfl | hd
    · exact ⟨position, r, List.mem_cons_self, hd'⟩
    · obtain ⟨position', r', hr', hdr'⟩ := ih hrest hd
      exact ⟨position', r', List.mem_cons_of_mem r hr', hdr'⟩

theorem parseDecisions_singleton {source : Option Json} :
    parseDecisions [record] source =
      ((decisionAt 0 record).map fun d => [d]).mapError (.feed source) := by
  rw [parseDecisions, decisionsFrom, decisionsFrom]
  cases decisionAt 0 record <;> rfl

/-- The jurisdiction of a decision is the one that its record writes. -/
theorem jurisdiction_of_readDecision (h : readDecision record = .ok d) {code : String}
    (hc : d.jurisdiction = some code) : record.field? "jurisdiction" = some (.text code) := by
  obtain ⟨o, rfl, -, h⟩ := object_eq_ok.mp h
  obtain ⟨-, h⟩ := gather_eq_ok.mp h
  simp only [bind_eq_ok, pure, Except.pure, Except.ok.injEq] at h
  obtain ⟨_, -, _, -, _, -, _, -, _, -, _, -, _, -, jurisdiction, hjurisdiction, _, -, _, -, _, -,
    rfl⟩ := h
  subst hc
  rcases defaulted_eq_ok.mp hjurisdiction with ⟨j, hj, hread⟩ | ⟨-, hnone⟩
  · rw [Json.field?, hj]
    cases j with
    | null => cases hread
    | text s =>
      cases hread
      rfl
    | _ => cases hread
  · -- A record without a jurisdiction gives no code.
    cases hnone

/-- Each decision of a feed makes a feed of its own, and is settled after it. -/
theorem parseDecisions_settled {records : List Json} {source : Option Json} {ds : List Decision}
    (h : parseDecisions records source = .ok ds) (hd : d ∈ ds) (source' : Option Json) :
    parseDecisions [d.toJson] source' = .ok [d.settled] := by
  obtain ⟨position, record, -, hdecision⟩ := exists_of_mem_decisionsFrom (ok_of_mapError.mp h) hd
  rw [parseDecisions_singleton, decisionAt_toJson hdecision]
  rfl

/-- Every decision of a feed is accepted again as it is written, and it comes back the same in all
parts, except that an empty code of a jurisdiction comes back as none. Such a code is kept only for
a record in which blanks stand for it. -/
theorem parseDecisions_toJson {records : List Json} {source : Option Json} {ds : List Decision}
    (h : parseDecisions records source = .ok ds) (hd : d ∈ ds) (source' : Option Json) :
    parseDecisions [d.toJson] source' = .ok [d.settled] ∧
      (parseDecisions [d.toJson] source' = .ok [d] ↔ d.jurisdiction ≠ some "") ∧
      (d.jurisdiction = some "" → ∃ record ∈ records, ∃ s, s ≠ "" ∧ Text.isBlankText s = true ∧
        record.field? "jurisdiction" = some (.text s)) := by
  have hback := parseDecisions_settled h hd source'
  refine ⟨hback, ?_, ?_⟩
  · rw [hback, ← Decision.settled_eq_self, Except.ok.injEq, List.cons.injEq,
      and_iff_left rfl]
  · intro hempty
    obtain ⟨position, record, hrecord, hdecision⟩ :=
      exists_of_mem_decisionsFrom (ok_of_mapError.mp h) hd
    obtain ⟨d₀, hread, -, -, rfl⟩ := exists_of_decisionAt hdecision
    obtain ⟨s, hs, hne, hblank⟩ := Decision.exists_of_canonicalJurisdiction hempty
    exact ⟨record, hrecord, s, hne, hblank, jurisdiction_of_readDecision hread hs⟩

/-- A record with blanks around its texts and a given text for the jurisdiction. -/
def spacedRecord (jurisdiction : String) : Json :=
  .object [("id", .text " d-1 "), ("case_number", .text "1 "), ("decided", .text "2020-02-29"),
    ("court_level", .text "supreme"), ("topic", .text " Dram-Shop Liability"),
    ("summary", .text " s "), ("jurisdiction", .text jurisdiction)]

theorem exists_of_spacedRecord (jurisdiction code : String)
    (h : (parseDecisions [spacedRecord jurisdiction] none).toOption.map (·.map (·.jurisdiction)) =
      some [some code]) :
    ∃ d, parseDecisions [spacedRecord jurisdiction] none = .ok [d] ∧
      d.jurisdiction = some code := by
  obtain ⟨ds, hparsed, hcodes⟩ := exists_of_map_toOption h
  obtain ⟨d, rfl, hd⟩ := List.map_eq_singleton_iff.mp hcodes
  exact ⟨d, hparsed, hd⟩

/-- A jurisdiction with blanks around it. -/
theorem parseDecisions_toJson_spaced :
    ∃ d, parseDecisions [spacedRecord " us-ca "] none = .ok [d] ∧
      parseDecisions [d.toJson] none = .ok [d] := by
  obtain ⟨d, hparsed, hd⟩ := exists_of_spacedRecord " us-ca " "US-CA" (by decide +kernel)
  have hne : d.jurisdiction ≠ some "" := by
    rw [hd]
    decide
  have hback := parseDecisions_toJson hparsed (List.mem_singleton_self d) none
  exact ⟨d, hparsed, hback.2.1.mpr hne⟩

/-- Blanks for a jurisdiction: the decision is not the one that it is written to. -/
theorem parseDecisions_loses_blank :
    ∃ d, parseDecisions [spacedRecord " "] none = .ok [d] ∧
      parseDecisions [d.toJson] none ≠ .ok [d] := by
  obtain ⟨d, hparsed, hd⟩ := exists_of_spacedRecord " " "" (by decide +kernel)
  refine ⟨d, hparsed, ?_⟩
  rw [parseDecisions_settled hparsed (List.mem_singleton_self d)]
  intro hsame
  have hsettled : d.settled = d := (List.cons.inj (Except.ok.inj hsame)).1
  exact Decision.settled_eq_self.mp hsettled hd

end Feed
end ComparativeLaw
