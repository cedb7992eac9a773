import ComparativeLaw.Proofs.CaseLaw.Phrase
import ComparativeLaw.Proofs.Text.Recased

/-!
One keyword for another. A search looks for the tokens of a keyword only, so two keywords lead to
the same results exactly if they have the same tokens, in whatever number and order. A keyword in
upper case has those of the keyword unless it has letters that upper case does not give back.
-/
namespace ComparativeLaw

/-- Texts in the same lower case have the same tokens. -/
theorem Token.ofText_of_lower {s t : String} (h : Text.lower s = Text.lower t) :
    ofText s = ofText t := by
  have hchars : Text.lowerChars s.toList = Text.lowerChars t.toList :=
    String.ofList_injective h
  rw [ofText, ofChars, hchars, ofText, ofChars]

section Tokens

variable {k k' : String} (h : ∀ t, t ∈ Token.ofText k ↔ t ∈ Token.ofText k')

include h

theorem Token.isBlankText_congr : Text.isBlankText k = Text.isBlankText k' := by
  rw [Bool.eq_iff_iff, ← ofText_eq_nil_iff, ← ofText_eq_nil_iff, List.eq_nil_iff_forall_not_mem,
    List.eq_nil_iff_forall_not_mem]
  simp only [h]

theorem Postings.contains_hits_congr (p : Postings) (id : String) :
    (p.hits (Text.strip k)).contains id = (p.hits (Text.strip k')).contains id := by
  have hnil : Token.ofText k = [] ↔ Token.ofText k' = [] := by
    rw [Token.ofText_eq_nil_iff, Token.ofText_eq_nil_iff, Token.isBlankText_congr h]
  rw [Bool.eq_iff_iff, List.contains_iff_mem, List.contains_iff_mem, mem_hits, mem_hits,
    Token.ofText_strip, Token.ofText_strip, ne_eq, hnil]
  simp only [h]

theorem KeywordHits.found_congr (ix : CaseIndex) (id : String) :
    (of ix k).found id = (of ix k').found id := by
  simp only [found, of, Postings.contains_hits_congr h]

/-- What a keyword contributes to a decision does not depend on how it is written. -/
theorem KeywordHits.contributions_congr (p : Policy Float) (ix : CaseIndex) (id : String) :
    ((of ix k).factors p id).map Factor.contribution =
      ((of ix k').factors p id).map Factor.contribution := by
  have hsummary : (of ix k).inSummary.contains id = (of ix k').inSummary.contains id := by
    simp only [of]
    exact Postings.contains_hits_congr h ix.summaries id
  have hholdings : (of ix k).inHoldings.contains id = (of ix k').inHoldings.contains id := by
    simp only [of]
    exact Postings.contains_hits_congr h ix.holdings id
  simp only [factors, hsummary, hholdings, List.map_cons, List.map_nil, Factor.contribution]

theorem Query.found_congr (ix : CaseIndex) :
    ({ keywords := [k] } : Query).found ix = ({ keywords := [k'] } : Query).found ix := by
  simp only [found, hits, List.map_cons, List.map_nil, List.all_cons, List.all_nil,
    KeywordHits.found_congr h]
  rfl

theorem Query.contributions_congr (p : Policy Float) (ix : CaseIndex) (d : Decision) :
    let q : Query := { keywords := [k] }
    let q' : Query := { keywords := [k'] }
    (q.factors p (q.hits ix) d).map Factor.contribution =
      (q'.factors p (q'.hits ix) d).map Factor.contribution := by
  simp only [factors, hits, List.map_cons, List.map_nil, List.flatMap_singleton, List.map_append,
    KeywordHits.contributions_congr h]

end Tokens

namespace CaseIndex

def keywordQuery (k : String) : Query := { keywords := [k].filter fun k => !Text.isBlankText k }

theorem query_of (k : String) : Query.of [k] none none none = .ok (keywordQuery k) := rfl

/-- Searches for two keywords that return the same decisions, in the same order and with the same
scores. -/
def SearchesAlike (p : Policy Float) (ix : CaseIndex) (k k' : String) : Prop :=
  ∃ q q' rs rs', Query.of [k] none none none = .ok q ∧ Query.of [k'] none none none = .ok q' ∧
    ix.search p q = .ok rs ∧ ix.search p q' = .ok rs' ∧
    rs.map (fun r => (r.decision, r.score)) = rs'.map fun r => (r.decision, r.score)

variable {p : Policy Float} {ix : CaseIndex} {k k' : String}

/-- Whether two keywords search alike does not depend on their order. -/
theorem SearchesAlike.symm (h : SearchesAlike p ix k k') : SearchesAlike p ix k' k := by
  obtain ⟨q, q', rs, rs', hq, hq', hrs, hrs', hsame⟩ := h
  exact ⟨q', q, rs', rs, hq', hq, hrs', hrs, hsame.symm⟩

theorem keywordQuery_of_blank (h : Text.isBlankText k = true) : keywordQuery k = {} := by
  simp [keywordQuery, h]

theorem keywordQuery_of_not_blank (h : Text.isBlankText k = false) :
    keywordQuery k = { keywords := [k] } := by
  simp [keywordQuery, h]

/-- A result without the parts that repeat the keywords. -/
def bare (r : SearchResult Float) : SearchResult Float := { r with matched := [], rationale := "" }

/-- Keywords with the same tokens have the same answers, up to the keyword that is shown. -/
theorem answers_congr (h : ∀ t, t ∈ Token.ofText k ↔ t ∈ Token.ofText k') :
    ((keywordQuery k).answers p ix).map bare = ((keywordQuery k').answers p ix).map bare := by
  have hblank' := Token.isBlankText_congr h
  cases hblank : Text.isBlankText k with
  | true => rw [keywordQuery_of_blank hblank, keywordQuery_of_blank (hblank'.symm.trans hblank)]
  | false =>
    rw [keywordQuery_of_not_blank hblank, keywordQuery_of_not_blank (hblank'.symm.trans hblank)]
    let q : Query := { keywords := [k] }
    let q' : Query := { keywords := [k'] }
    have hanswer : ∀ d, bare (q.answer p (q.hits ix) d) = bare (q'.answer p (q'.hits ix) d) := by
      intro d
      rw [bare, bare, Query.answer, Query.answer, Query.contributions_congr h p ix d]
    calc (q.answers p ix).map bare
      _ = (q.found ix).map fun d => bare (q.answer p (q.hits ix) d) := List.map_map
      _ = (q'.found ix).map fun d => bare (q'.answer p (q'.hits ix) d) := by
        rw [Query.found_congr h ix, List.map_congr_left fun d _ => hanswer d]
      _ = (q'.answers p ix).map bare := by
        rw [Query.answers, List.map_map]
        rfl

/-- Results are sorted by what is left of them when the parts that repeat the keywords are gone. -/
theorem map_bare_mergeSort (rs : List (SearchResult Float)) :
    (rs.mergeSort SearchResult.precedes).map bare =
      (rs.map bare).mergeSort SearchResult.precedes :=
  List.map_mergeSort fun _ _ _ _ => rfl

/-- Keywords with the same tokens search alike. -/
theorem searchesAlike_of_tokens (hp : p.PointsWeigh) (ix : CaseIndex)
    (h : ∀ t, t ∈ Token.ofText k ↔ t ∈ Token.ofText k') : SearchesAlike p ix k k' := by
  refine ⟨keywordQuery k, keywordQuery k', _, _, query_of k, query_of k', Query.search_eq hp _ ix,
    Query.search_eq hp _ ix, ?_⟩
  have hsorted : (((keywordQuery k).answers p ix).mergeSort SearchResult.precedes).map bare =
      (((keywordQuery k').answers p ix).mergeSort SearchResult.precedes).map bare := by
    rw [map_bare_mergeSort, map_bare_mergeSort, answers_congr h]
  have hpairs := congrArg (List.map fun r => (r.decision, r.score)) hsorted
  rw [List.map_map, List.map_map] at hpairs
  exact hpairs

/-- A decision of which nothing can be found but the summary. -/
def summarised (summary : String) : Decision := { holdingOn [] with summary := summary }

/-- Without holdings, what is looked for has to be in the summary. -/
theorem inOnePlace_or_scatters_summarised {summary : String} :
    ((summarised summary).InOnePlace k ∨ (summarised summary).Scatters k) ↔
      Token.ofText k ⊆ Token.ofText summary := by
  constructor
  · rintro ((hsub | ⟨h, hh, -⟩) | hscatters)
    · exact hsub
    · exact absurd hh List.not_mem_nil
    · exact absurd hscatters.two_le_holdings (Nat.not_succ_le_zero 1)
  · exact fun hsub => .inl (.inl hsub)

/-- A decision is found by its summary if this has all tokens of the keyword. -/
theorem mem_found_summarised {summary : String} :
    summarised summary ∈ (keywordQuery k).found (addEach {} [summarised summary]) ↔
      Token.ofText k ⊆ Token.ofText summary := by
  obtain ⟨hfiled, -⟩ := filed_empty.addEach [summarised summary]
  rw [Query.mem_found_iff hfiled, ← inOnePlace_or_scatters_summarised]
  cases hblank : Text.isBlankText k with
  | true =>
    -- A blank keyword is dropped from the query and has no tokens.
    have hnil := Token.ofText_of_blank hblank
    rw [keywordQuery_of_blank hblank]
    refine iff_of_true ⟨List.mem_cons_self, rfl, fun _ hk => absurd hk List.not_mem_nil⟩ ?_
    exact .inl (.inl (hnil ▸ List.nil_subset _))
  | false =>
    rw [keywordQuery_of_not_blank hblank]
    constructor
    · rintro ⟨-, hmatches⟩
      exact (hmatches.keywords k List.mem_cons_self).2
    · intro hplace
      refine ⟨List.mem_cons_self, rfl, fun k' hk' => ?_⟩
      rw [List.mem_singleton.mp hk']
      exact ⟨hblank, hplace⟩

/-- A keyword finds the decision of which it is the summary. So a keyword that searches alike has
no tokens but those of the summary. -/
theorem subset_of_alike (h : SearchesAlike p (addEach {} [summarised k']) k k') :
    Token.ofText k ⊆ Token.ofText k' := by
  obtain ⟨q, q', rs, rs', hq, hq', hrs, hrs', hsame⟩ := h
  rw [query_of] at hq hq'
  cases hq
  cases hq'
  have hfound : summarised k' ∈ (keywordQuery k').found (addEach {} [summarised k']) :=
    mem_found_summarised.mpr (List.Subset.refl _)
  obtain ⟨r', hr', hd'⟩ := Query.exists_result_of_mem_found hrs' rfl hfound
  have hpair : (r'.decision, r'.score) ∈ rs.map fun r => (r.decision, r.score) := by
    rw [hsame]
    exact List.mem_map_of_mem hr'
  obtain ⟨r, hr, heq⟩ := List.mem_map.mp hpair
  have hdecision : r.decision = summarised k' := (congrArg Prod.fst heq).trans hd'
  have hmem := Query.mem_found_of_mem hrs hr
  rw [hdecision] at hmem
  exact mem_found_summarised.mp hmem

/-- A keyword in upper case leads to the same results on every index exactly if it has the same
tokens. It has them if no character of the keyword is a stray, one of those that differ in lower
case from their upper case or that depend on what is next to them. -/
theorem search_upper (env : Environment) (k : String) :
    ((∀ ds, SearchesAlike (Policy.ofEnvironment env) (addEach {} ds) k (Text.upper k)) ↔
      ∀ t, t ∈ Token.ofText k ↔ t ∈ Token.ofText (Text.upper k)) ∧
    ((∀ c ∈ k.toList, c.toNat ∉ Text.strays) →
      ∀ ix, SearchesAlike (Policy.ofEnvironment env) ix k (Text.upper k)) := by
  have hp := Policy.pointsWeigh_ofEnvironment env
  refine ⟨⟨fun halike t => ?_, fun htokens ds => ?_⟩, fun hstrays ix => ?_⟩
  · have hsub := subset_of_alike (halike [summarised (Text.upper k)])
    have hsub' := subset_of_alike (halike [summarised k]).symm
    exact ⟨fun ht => hsub ht, fun ht => hsub' ht⟩
  · exact searchesAlike_of_tokens hp (addEach {} ds) htokens
  · have htokens := Token.ofText_of_lower (Text.lower_upper hstrays)
    exact searchesAlike_of_tokens hp ix fun t => by rw [htokens]

/-- A keyword without strays. -/
theorem search_upper_fraud : (∀ c ∈ "Fraud,".toList, c.toNat ∉ Text.strays) ∧
    SearchesAlike (Policy.ofEnvironment raisedPoints) (addEach {} tiedDecisions) "Fraud,"
      "FRAUD," := by
  have hcodes : ∀ n ∈ "Fraud,".toList.map Char.toNat, n ∉ Text.strays := by decide +kernel
  have hstrays : ∀ c ∈ "Fraud,".toList, c.toNat ∉ Text.strays :=
    fun c hc => hcodes c.toNat (List.mem_map_of_mem hc)
  have hupper : Text.upper "Fraud," = "FRAUD," := by decide +kernel
  obtain ⟨-, halike⟩ := search_upper raisedPoints "Fraud,"
  exact ⟨hstrays, hupper ▸ halike hstrays (addEach {} tiedDecisions)⟩

/-- A sharp s is two letters in upper case and is not found by them. -/
theorem search_upper_misses : Text.upper "straße" = "STRASSE" ∧
    ¬SearchesAlike (Policy.ofEnvironment []) (addEach {} [summarised "straße"]) "straße"
      "STRASSE" := by
  refine ⟨by decide +kernel, fun halike => ?_⟩
  have hsub := subset_of_alike halike.symm
  have htokens : ¬Token.ofText "STRASSE" ⊆ Token.ofText "straße" := by decide +kernel
  exact htokens hsub

end CaseIndex
end ComparativeLaw
