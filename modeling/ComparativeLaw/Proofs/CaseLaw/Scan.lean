import ComparativeLaw.CaseLaw.Search
import ComparativeLaw.Proofs.CaseLaw.Filing
import ComparativeLaw.Proofs.CaseLaw.Token
import ComparativeLaw.Proofs.Policy
import ComparativeLaw.Proofs.Scoring

namespace ComparativeLaw

/-- What holds of the factors of a keyword, of a court and of a topic holds of all factors. -/
theorem Query.forall_mem_factors {α : Type} [Scalar α] {p : Policy α} {P : Factor α → Prop}
    (hsummary : ∀ (name : Json) (b : Bool), P ⟨name, p.summaryPoints, if b then 1.0 else 0.0⟩)
    (hholding : ∀ (name : Json) (b : Bool), P ⟨name, p.holdingPoints, if b then 1.0 else 0.0⟩)
    (hcourt : ∀ level : CourtLevel, P ⟨"court_level", level.points p, 1.0⟩)
    (htopic : P ⟨"topic", p.topicPoints, 1.0⟩) (q : Query) (hits : List KeywordHits)
    (d : Decision) : ∀ f ∈ q.factors p hits d, P f := by
  intro f hf
  rcases List.mem_append.mp hf with hf | hf
  · obtain ⟨h, -, hf⟩ := List.mem_flatMap.mp hf
    simp only [KeywordHits.factors, List.mem_cons, List.not_mem_nil, or_false] at hf
    rcases hf with rfl | rfl
    · exact hsummary _ _
    · exact hholding _ _
  · rcases List.mem_cons.mp hf with rfl | hf
    · exact hcourt d.level
    · split at hf
      · cases List.mem_singleton.mp hf
        exact htopic
      · exact absurd hf List.not_mem_nil

/-- The tokens of the issue and of the conclusion. -/
def Holding.tokens (h : Holding) : List String := Token.ofText h.issue ++ Token.ofText h.conclusion

theorem CaseIndex.holdingTokens_eq (d : Decision) :
    holdingTokens d = d.holdings.flatMap Holding.tokens := by
  have htext : ∀ h : Holding, Token.ofText h.text = h.tokens :=
    fun h => Token.ofText_append_blank h.issue h.conclusion
  rw [holdingTokens, holdingText, Token.ofText_intercalate, List.flatMap_map]
  exact List.flatMap_congr fun h _ => htext h

/-- What a caller searches for, as it is written. -/
structure Scan where
  keywords : List String := []
  level : Option CourtLevel := none
  topic : Option String := none

namespace Scan

def terms (s : Scan) : List String := s.keywords.filter fun k => !Text.isBlankText k

/-- The topic filter in normal form; an empty topic filters nothing. -/
def topicKey (s : Scan) : Option String := (s.topic.filter fun t => !t.isEmpty).map Topic.normalise

/-- Whether all tokens of a phrase are among the given ones. -/
def within (phrase : String) (tokens : List String) : Bool :=
  (Token.ofText phrase).all tokens.contains

def inSummary (d : Decision) (phrase : String) : Bool :=
  within phrase (Token.ofText d.summary)

/-- The issues and the conclusions of all holdings as one text. -/
def joinedHoldings (d : Decision) : String :=
  " ".intercalate (d.holdings.flatMap fun h => [h.issue, h.conclusion])

def inHoldings (d : Decision) (phrase : String) : Bool :=
  within phrase (Token.ofText (joinedHoldings d))

/-- Whether a decision has every keyword in its summary or in its holdings and passes the
filters. -/
def finds (s : Scan) (d : Decision) : Bool :=
  s.terms.all (fun k => inSummary d k || inHoldings d k) && s.level.all (· = d.level) &&
    s.topicKey.all (· = d.topic)

/-- What a keyword earns a decision. -/
def termPoints (p : Policy Rat) (d : Decision) (k : String) : Rat :=
  (if inSummary d k then p.summaryPoints else 0) + (if inHoldings d k then p.holdingPoints else 0)

def points (s : Scan) (p : Policy Rat) (d : Decision) : Rat :=
  (s.terms.map (termPoints p d)).sum + d.level.points p +
    (if s.topicKey.isSome then p.topicPoints else 0)

def score (s : Scan) (p : Policy Rat) (d : Decision) : Rat :=
  max 0 (min p.maxRelevance (s.points p d))

/-- The decisions that a scan finds, each with its score. -/
def run (s : Scan) (p : Policy Rat) (ds : List Decision) : List (Decision × Rat) :=
  (ds.filter s.finds).map fun d => (d, s.score p d)

def query (s : Scan) : Query := { keywords := s.terms, level := s.level, topic := s.topicKey }

theorem query_of (s : Scan) : Query.of s.keywords s.level s.topic none = .ok s.query := rfl

/-- The index keeps the tokens of the joined text. -/
theorem ofText_joinedHoldings (d : Decision) :
    Token.ofText (joinedHoldings d) = CaseIndex.holdingTokens d := by
  rw [CaseIndex.holdingTokens_eq, joinedHoldings, Token.ofText_intercalate, List.flatMap_assoc]
  refine List.flatMap_congr fun h _ => ?_
  rw [List.flatMap_cons, List.flatMap_singleton, Holding.tokens]

/-- The postings have a decision under a keyword if its tokens have all those of the keyword. -/
theorem contains_hits {p : Postings} {tokens : Decision → List String} {ds : List Decision}
    (h : CaseIndex.Indexes p tokens ds) (hn : (ds.map (·.id)).Nodup) {d : Decision} (hd : d ∈ ds)
    {k : String} (hk : Text.isBlankText k = false) :
    (p.hits (Text.strip k)).contains d.id = within k (tokens d) := by
  rw [Bool.eq_iff_iff, List.contains_iff_mem, Postings.mem_hits, Token.ofText_strip, within,
    List.all_eq_true]
  simp only [h.mem_iff hn hd, List.contains_iff_mem]
  exact and_iff_right (Token.ofText_ne_nil hk)

section Stored

variable {ix : CaseIndex} (h : ix.Filed) {d : Decision} (hd : d ∈ ix.toList) {k : String}
  (hk : Text.isBlankText k = false)

include h hd hk

theorem contains_inSummary : (KeywordHits.of ix k).inSummary.contains d.id = inSummary d k := by
  have hc := contains_hits h.summaries h.nodup hd hk
  simp only [KeywordHits.of, inSummary]
  rw [hc]
  rfl

theorem contains_inHoldings : (KeywordHits.of ix k).inHoldings.contains d.id = inHoldings d k := by
  have hc := contains_hits h.holdings h.nodup hd hk
  simp only [KeywordHits.of, inHoldings]
  rw [hc, ofText_joinedHoldings]

/-- A keyword is found in the summary or in the holdings. -/
theorem found_eq : (KeywordHits.of ix k).found d.id = (inSummary d k || inHoldings d k) := by
  rw [KeywordHits.found, contains_inSummary h hd hk, contains_inHoldings h hd hk]

/-- A keyword is worth its points. -/
theorem sum_factors (p : Policy Rat) :
    (((KeywordHits.of ix k).factors p d.id).map Factor.contribution).sum = termPoints p d k := by
  simp only [KeywordHits.factors, contains_inSummary h hd hk, contains_inHoldings h hd hk,
    termPoints, Factor.contribution, Scalar.one_rat, Scalar.zero_rat, mul_ite, mul_one, mul_zero,
    List.map_cons, List.map_nil, List.sum_cons, List.sum_nil, add_zero]

end Stored

theorem not_blank_of_mem_terms {s : Scan} {k : String} (hk : k ∈ s.terms) :
    Text.isBlankText k = false := by
  simpa using (List.mem_filter.mp hk).2

/-- All factors of a search are sound. -/
theorem sound_factors {p : Policy Rat} (hp : p.PointsNonneg) (q : Query)
    (hits : List KeywordHits) (d : Decision) : ∀ f ∈ q.factors p hits d, f.Sound := by
  apply Query.forall_mem_factors
  · exact fun name b => ⟨hp.summary, by dsimp only; split <;> simp, by dsimp only; split <;> simp⟩
  · exact fun name b => ⟨hp.holding, by dsimp only; split <;> simp, by dsimp only; split <;> simp⟩
  · exact fun level => ⟨hp.court level, by simp, by simp⟩
  · exact ⟨hp.topic, by simp, by simp⟩

/-- The factors of a decision add up to the points that the scan counts. -/
theorem sum_query_factors {ix : CaseIndex} (h : ix.Filed) (s : Scan) (p : Policy Rat)
    {d : Decision} (hd : d ∈ ix.toList) :
    ((s.query.factors p (s.terms.map (KeywordHits.of ix)) d).map Factor.contribution).sum =
      s.points p d := by
  have hterms : (((s.terms.map (KeywordHits.of ix)).flatMap fun h => h.factors p d.id).map
      Factor.contribution).sum = (s.terms.map (termPoints p d)).sum := by
    rw [List.map_flatMap, List.flatMap_map, List.flatMap_def, List.sum_flatten, List.map_map]
    exact congrArg List.sum (List.map_congr_left fun k hk =>
      sum_factors h hd (not_blank_of_mem_terms hk) p)
  have htopic : (((if s.query.topic.isSome then [⟨"topic", p.topicPoints, 1.0⟩] else [] :
      List (Factor Rat))).map Factor.contribution).sum =
      if s.topicKey.isSome then p.topicPoints else 0 := by
    change (((if s.topicKey.isSome then _ else _ : List (Factor Rat))).map _).sum = _
    split <;> simp [Factor.contribution]
  rw [Query.factors, List.map_append, List.sum_append, hterms, List.map_cons, List.sum_cons, htopic,
    points, add_assoc]
  simp [Factor.contribution]

/-- The result of a decision that the search finds, with the score of the scan. -/
theorem result_eq_ok {ix : CaseIndex} (h : ix.Filed) (s : Scan) {p : Policy Rat}
    (hp : p.PointsNonneg) {d : Decision} (hd : d ∈ ix.toList) :
    ∃ r, s.query.result p (s.terms.map (KeywordHits.of ix)) d = .ok r ∧
      (r.decision, r.score) = (d, s.score p d) := by
  have hsum : Scoring.weightedSum (s.query.factors p (s.terms.map (KeywordHits.of ix)) d) =
      .ok (s.points p d) :=
    Scoring.weightedSum_eq_ok.mpr ⟨sound_factors hp _ _ d, (sum_query_factors h s p hd).symm⟩
  rw [Query.result, hsum]
  exact ⟨_, rfl, Prod.ext rfl (Scalar.clamp_rat _ _)⟩

/-- The decisions that the search looks up are those that the scan finds. -/
theorem filter_found {ix : CaseIndex} (h : ix.Filed) (s : Scan) :
    (ix.toList.filter fun d =>
      (s.terms.map (KeywordHits.of ix)).all (fun h => h.found d.id) && s.query.admits d) =
      ix.toList.filter s.finds := by
  apply List.filter_congr
  intro d hd
  have hk : (s.terms.map (KeywordHits.of ix)).all (fun h => h.found d.id) =
      s.terms.all fun k => inSummary d k || inHoldings d k := by
    rw [List.all_map, Bool.eq_iff_iff, List.all_eq_true, List.all_eq_true]
    refine forall₂_congr fun k hk => ?_
    rw [Function.comp_apply, found_eq h hd (not_blank_of_mem_terms hk)]
  rw [hk, finds, Query.admits, Bool.and_assoc]
  rfl

/-- A search of an index in order finds what the scan of its decisions finds. -/
theorem search_filed {ix : CaseIndex} (h : ix.Filed) (s : Scan) {p : Policy Rat}
    (hp : p.PointsNonneg) :
    ∃ results, ix.search p s.query = .ok results ∧
      (results.map fun r => (r.decision, r.score)).Perm (s.run p ix.toList) := by
  -- Every decision that is found has a result, so the search fails for none of them.
  obtain ⟨found, hf, hv⟩ := Checked.exists_mapM_eq_ok
    (s.query.result p (s.terms.map (KeywordHits.of ix))) (fun r => (r.decision, r.score))
    (fun d => (d, s.score p d)) fun d (hd : d ∈ ix.toList.filter s.finds) =>
      result_eq_ok h s hp (List.mem_filter.mp hd).1
  refine ⟨found.mergeSort SearchResult.precedes, ?_, ?_⟩
  · have hs : ix.search p s.query =
        (ix.toList.filter s.finds).mapM (s.query.result p (s.terms.map (KeywordHits.of ix))) >>=
          fun results => pure (results.mergeSort SearchResult.precedes) := by
      rw [← filter_found h s]
      rfl
    rw [hs, hf]
    rfl
  · rw [run, ← hv]
    exact (List.mergeSort_perm found SearchResult.precedes).map _

end Scan

/-- The search over any index that additions lead to, refused ones included, finds exactly what a
scan of the decisions kept finds, each decision once, with the scores of the scan. -/
theorem CaseIndex.search_perm_scan (env : Environment) (ds : List Decision) (s : Scan) :
    ∃ q results, Query.of s.keywords s.level s.topic none = .ok q ∧
      (addEach {} ds).search (Policy.ofEnvironment env : Policy Rat) q = .ok results ∧
      (results.map fun r => (r.decision, r.score)).Perm
        (s.run (Policy.ofEnvironment env) (Decision.firstOfEach ds)) ∧
      (addEach {} ds).toList = Decision.firstOfEach ds ∧
      (results.map (·.decision.id)).Nodup := by
  obtain ⟨h, hl⟩ := filed_empty.addEach ds
  have hl : (addEach {} ds).toList = Decision.firstOfEach ds := hl
  obtain ⟨results, hr, hperm⟩ :=
    Scan.search_filed h s (Policy.pointsNonneg_ofEnvironment env)
  refine ⟨s.query, results, s.query_of, hr, hl ▸ hperm, hl, ?_⟩
  -- No identifier is stored twice, so none is found twice.
  have hids : (results.map (·.decision.id)).Perm
      (((addEach {} ds).toList.filter s.finds).map (·.id)) := by
    simpa [Scan.run, Function.comp_def] using hperm.map fun e => e.1.id
  exact hids.nodup_iff.mpr (h.nodup.sublist (List.filter_sublist.map _))

/-- A decision on a breach of duty whose summary does not speak of it. -/
def affirmedBreach : Decision where
  id := "a"
  caseNumber := "22-1"
  decided := ⟨2021, 3, 4, by decide⟩
  level := .district
  topic := "negligence"
  summary := "Shared fault."
  holdings := [⟨"Was there a duty?", "", "Yes."⟩, ⟨"Was there a breach?", "", "Affirmed."⟩]

/-- One keyword has its tokens in the holdings, the other one in the summary. -/
theorem CaseIndex.search_perm_scan_inHoldings : ∃ q results,
    Query.of ["breach, affirmed", "fault"] none none none = .ok q ∧
      (addEach {} [affirmedBreach]).search (Policy.ofEnvironment [] : Policy Rat) q = .ok results ∧
      results.map (fun r => (r.decision, r.score)) = [(affirmedBreach, 60)] := by
  let s : Scan := { keywords := ["breach, affirmed", "fault"] }
  obtain ⟨q, results, hq, hsearch, hperm, -⟩ := search_perm_scan [] [affirmedBreach] s
  have hfinds : s.finds affirmedBreach = true := by decide +kernel
  have hscore : s.score (Policy.ofEnvironment []) affirmedBreach = 60 := by decide +kernel
  have hrun : s.run (Policy.ofEnvironment []) (Decision.firstOfEach [affirmedBreach]) =
      [(affirmedBreach, 60)] := by
    show (List.filter s.finds [affirmedBreach]).map _ = _
    rw [List.filter_cons_of_pos hfinds, List.filter_nil, List.map_singleton, hscore]
  rw [hrun] at hperm
  exact ⟨q, results, hq, hsearch, List.perm_singleton.mp hperm⟩

end ComparativeLaw
