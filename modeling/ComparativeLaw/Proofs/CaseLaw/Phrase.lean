import ComparativeLaw.Proofs.CaseLaw.Bounds

/-!
Phrases. The index keeps the tokens of all holdings of a decision together. So a phrase is found in
the summary, in one holding, or scattered over several holdings that each have some of its tokens.
-/
namespace ComparativeLaw

namespace Decision

variable {d : Decision} {phrase : String}

/-- All tokens of a phrase are in the summary, or all are in one and the same holding. -/
def InOnePlace (d : Decision) (phrase : String) : Prop :=
  Token.ofText phrase ⊆ Token.ofText d.summary ∨
    ∃ h ∈ d.holdings, Token.ofText phrase ⊆ h.tokens

instance : Decidable (d.InOnePlace phrase) := inferInstanceAs (Decidable (_ ∨ _))

/-- Each token of a phrase is in some holding, but no place has them all. -/
structure Scatters (d : Decision) (phrase : String) : Prop where
  spread : ∀ t ∈ Token.ofText phrase, ∃ h ∈ d.holdings, t ∈ h.tokens
  apart : ¬d.InOnePlace phrase

/-- A summary has a phrase if it has all its tokens. -/
theorem inSummary_iff :
    Scan.inSummary d phrase = true ↔ Token.ofText phrase ⊆ Token.ofText d.summary := by
  simp only [Scan.inSummary, Scan.within, List.all_eq_true, List.contains_iff_mem]
  rfl

/-- The holdings have a phrase if each of its tokens is in some holding. -/
theorem inHoldings_iff : Scan.inHoldings d phrase = true ↔
    ∀ t ∈ Token.ofText phrase, ∃ h ∈ d.holdings, t ∈ h.tokens := by
  have htokens : Token.ofText (Scan.joinedHoldings d) = d.holdings.flatMap Holding.tokens :=
    (Scan.ofText_joinedHoldings d).trans (CaseIndex.holdingTokens_eq d)
  simp only [Scan.inHoldings, Scan.within, List.all_eq_true, List.contains_iff_mem, htokens,
    List.mem_flatMap]

/-- What is looked up in the summary and in the holdings is in one place or scattered. -/
theorem inSummary_or_inHoldings_iff : (Scan.inSummary d phrase || Scan.inHoldings d phrase) = true ↔
    d.InOnePlace phrase ∨ d.Scatters phrase := by
  rw [Bool.or_eq_true, inSummary_iff, inHoldings_iff]
  constructor
  · rintro (hsummary | hspread)
    · exact .inl (.inl hsummary)
    · -- What is spread over the holdings may be in one place all the same.
      by_cases hone : d.InOnePlace phrase
      · exact .inl hone
      · exact .inr ⟨hspread, hone⟩
  · rintro ((hsummary | ⟨h, hh, hsub⟩) | hscatters)
    · exact .inl hsummary
    · exact .inr fun t ht => ⟨h, hh, hsub ht⟩
    · exact .inr hscatters.spread

/-- A phrase cannot scatter over a single holding. -/
theorem Scatters.two_le_holdings (h : d.Scatters phrase) : 2 ≤ d.holdings.length := by
  by_contra hlength
  apply h.apart
  match hholdings : d.holdings with
  | [] =>
    refine .inl fun t ht => ?_
    obtain ⟨g, hg, -⟩ := h.spread t ht
    rw [hholdings] at hg
    exact absurd hg List.not_mem_nil
  | [g] =>
    refine .inr ⟨g, hholdings ▸ List.mem_cons_self, fun t ht => ?_⟩
    obtain ⟨g', hg', htoken⟩ := h.spread t ht
    rw [hholdings, List.mem_singleton] at hg'
    exact hg' ▸ htoken
  | _ :: _ :: _ =>
    rw [hholdings, List.length_cons, List.length_cons] at hlength
    omega

/-- A phrase of one token, also a repeated one, cannot scatter. -/
theorem Scatters.exists_ne (h : d.Scatters phrase) :
    ∃ t ∈ Token.ofText phrase, ∃ u ∈ Token.ofText phrase, t ≠ u := by
  by_contra hsame
  push Not at hsame
  apply h.apart
  cases htokens : Token.ofText phrase with
  | nil => exact .inl (htokens ▸ List.nil_subset _)
  | cons t ts =>
    have ht : t ∈ Token.ofText phrase := htokens ▸ List.mem_cons_self
    obtain ⟨g, hg, htoken⟩ := h.spread t ht
    exact .inr ⟨g, hg, fun u hu => hsame t ht u hu ▸ htoken⟩

end Decision

namespace Query

variable {α : Type} [Scalar α] {p : Policy α} {ix : CaseIndex} {q : Query}
  {rs : List (SearchResult α)} {d : Decision}

/-- A decision passes the filters and has every keyword, in one place or scattered. -/
structure Matches (q : Query) (d : Decision) : Prop where
  admits : q.admits d = true
  keywords : ∀ k ∈ q.keywords,
    Text.isBlankText k = false ∧ (d.InOnePlace k ∨ d.Scatters k)

/-- A blank keyword is found nowhere. -/
theorem found_of_blank {k : String} (hk : Text.isBlankText k = true) (id : String) :
    (KeywordHits.of ix k).found id = false := by
  have hits_eq : ∀ postings : Postings, postings.hits (Text.strip k) = [] := by
    intro postings
    rw [Postings.hits, Token.ofText_strip, Token.ofText_of_blank hk]
  simp only [KeywordHits.found, KeywordHits.of, hits_eq]
  rfl

/-- A query finds the decisions that match it. -/
theorem mem_found_iff (h : ix.Filed) : d ∈ q.found ix ↔ d ∈ ix.toList ∧ q.Matches d := by
  rw [found, List.mem_filter, Bool.and_eq_true, hits, List.all_map, List.all_eq_true]
  refine and_congr_right fun hd => ?_
  have hkeyword : ∀ k, (KeywordHits.of ix k).found d.id = true ↔
      Text.isBlankText k = false ∧ (d.InOnePlace k ∨ d.Scatters k) := by
    intro k
    cases hk : Text.isBlankText k with
    | true => simp [found_of_blank hk]
    | false => rw [Scan.found_eq h hd hk, Decision.inSummary_or_inHoldings_iff, and_iff_right rfl]
  simp only [Function.comp_apply, hkeyword]
  constructor
  · intro hboth
    exact ⟨hboth.2, hboth.1⟩
  · intro hq
    exact ⟨hq.keywords, hq.admits⟩

/-- A search that does not fail has one result for each decision found, up to its limit. -/
theorem exists_results (h : ix.search p q = .ok rs) :
    ∃ results : List (SearchResult α), results.map (·.decision) = q.found ix ∧
      rs = q.cut (results.mergeSort SearchResult.precedes) := by
  obtain ⟨results, hresults, hcut⟩ := Checked.bind_eq_ok.mp h
  cases hcut
  refine ⟨results, ?_, rfl⟩
  have hdecision : ∀ d, ∀ r, q.result p (q.hits ix) d = .ok r → r.decision = d := by
    intro d r hr
    obtain ⟨points, -, rfl⟩ := Checked.map_eq_ok.mp hr
    rfl
  rw [Checked.map_of_mapM_eq_ok (g := id) hresults fun d _ r hr => hdecision d r hr]
  exact List.map_id _

theorem mem_found_of_mem (h : ix.search p q = .ok rs) {r : SearchResult α} (hr : r ∈ rs) :
    r.decision ∈ q.found ix := by
  obtain ⟨results, hfound, rfl⟩ := exists_results h
  rw [← hfound]
  exact List.mem_map_of_mem (List.mem_mergeSort.mp (mem_of_mem_cut hr))

/-- Without a limit all that is found is listed. -/
theorem exists_result_of_mem_found (h : ix.search p q = .ok rs) (hlimit : q.limit = none)
    (hd : d ∈ q.found ix) : ∃ r ∈ rs, r.decision = d := by
  obtain ⟨results, hfound, rfl⟩ := exists_results h
  rw [← hfound] at hd
  obtain ⟨r, hr, hrd⟩ := List.mem_map.mp hd
  refine ⟨r, ?_, hrd⟩
  rw [cut, hlimit]
  exact List.mem_mergeSort.mpr hr

end Query

namespace CaseIndex

/-- Whatever decisions were added, the results of a search are stored decisions that match the
query, and without a limit all of them. A keyword that a result has is in one place, unless it has
different tokens that several holdings share among them. -/
theorem search_places {α : Type} [Scalar α] {p : Policy α} {ds : List Decision} {q : Query}
    {rs : List (SearchResult α)} (h : (addEach {} ds).search p q = .ok rs) :
    (∀ r ∈ rs, r.decision ∈ Decision.firstOfEach ds ∧ q.Matches r.decision) ∧
    (q.limit = none → ∀ d ∈ Decision.firstOfEach ds, q.Matches d → ∃ r ∈ rs, r.decision = d) ∧
    ∀ r ∈ rs, ∀ k ∈ q.keywords, r.decision.InOnePlace k ∨
      r.decision.Scatters k ∧ 2 ≤ r.decision.holdings.length ∧
        ∃ t ∈ Token.ofText k, ∃ u ∈ Token.ofText k, t ≠ u := by
  obtain ⟨hfiled, hlist⟩ := filed_empty.addEach ds
  have hlist : (addEach {} ds).toList = Decision.firstOfEach ds := hlist
  have hmatch : ∀ r ∈ rs, r.decision ∈ Decision.firstOfEach ds ∧ q.Matches r.decision := by
    intro r hr
    rw [← hlist]
    exact (Query.mem_found_iff hfiled).mp (Query.mem_found_of_mem h hr)
  refine ⟨hmatch, fun hlimit d hd hq => ?_, fun r hr k hk => ?_⟩
  · rw [← hlist] at hd
    exact Query.exists_result_of_mem_found h hlimit ((Query.mem_found_iff hfiled).mpr ⟨hd, hq⟩)
  · obtain ⟨-, hplace⟩ := (hmatch r hr).2.keywords k hk
    exact hplace.imp_right fun hs => ⟨hs, hs.two_le_holdings, hs.exists_ne⟩

/-- A decision with holdings on these issues. -/
def holdingOn (issues : List String) : Decision where
  id := "a"
  caseNumber := "22-1"
  decided := ⟨2020, 9, 8, by decide⟩
  level := .district
  topic := "negligence"
  summary := "Shared fault."
  holdings := issues.map fun issue => ⟨issue, "", "Affirmed"⟩

def breachQuery : Query := { keywords := ["Duty, breach"] }

/-- A phrase that one of two holdings has is found. -/
theorem search_places_breach : ∃ rs,
    (addEach {} [holdingOn ["duty", "breach of duty"]]).search
      (Policy.ofEnvironment [] : Policy Float) breachQuery = .ok rs ∧
    ∃ r ∈ rs, r.decision = holdingOn ["duty", "breach of duty"] ∧
      r.decision.InOnePlace "Duty, breach" := by
  have hp := Policy.pointsWeigh_ofEnvironment []
  have hsearch := Query.search_eq hp breachQuery (addEach {} [holdingOn ["duty", "breach of duty"]])
  obtain ⟨-, hall, -⟩ := search_places hsearch
  have hplace : (holdingOn ["duty", "breach of duty"]).InOnePlace "Duty, breach" := by
    decide +kernel
  have hkeyword : Text.isBlankText "Duty, breach" = false := by decide +kernel
  obtain ⟨r, hr, hdecision⟩ := hall rfl _ List.mem_cons_self
    ⟨rfl, by simp [breachQuery, hkeyword, hplace]⟩
  exact ⟨_, hsearch, r, hr, hdecision, hdecision ▸ hplace⟩

/-- The same phrase is found where one holding has one of its tokens and another one the other. -/
theorem search_scatters : ∃ rs,
    (addEach {} [holdingOn ["duty", "breach"]]).search
      (Policy.ofEnvironment [] : Policy Float) breachQuery = .ok rs ∧
    ∃ r ∈ rs, ¬r.decision.InOnePlace "Duty, breach" := by
  have hp := Policy.pointsWeigh_ofEnvironment []
  have hsearch := Query.search_eq hp breachQuery (addEach {} [holdingOn ["duty", "breach"]])
  have hfound : holdingOn ["duty", "breach"] ∈
      breachQuery.found (addEach {} [holdingOn ["duty", "breach"]]) :=
    List.mem_filter.mpr ⟨List.mem_cons_self, by decide +kernel⟩
  obtain ⟨r, hr, hdecision⟩ := Query.exists_result_of_mem_found hsearch rfl hfound
  refine ⟨_, hsearch, r, hr, ?_⟩
  rw [hdecision]
  decide +kernel

end CaseIndex
end ComparativeLaw
