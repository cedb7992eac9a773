import ComparativeLaw.Proofs.CaseLaw.Ranking

namespace ComparativeLaw

namespace Query

variable {p : Policy Float} {ix : CaseIndex} {rs : List (SearchResult Float)}

/-- Points that can weigh have a sum. -/
theorem exists_weightedSum (hp : p.PointsWeigh) (q : Query) (hits : List KeywordHits)
    (d : Decision) : ∃ points, Scoring.weightedSum (q.factors p hits d) = .ok points := by
  have hchecks := Checked.forM_eq_ok.mpr (check_factors hp q hits d)
  rw [Scoring.weightedSum, hchecks]
  exact ⟨_, rfl⟩

theorem mem_of_mem_cut {α : Type} [Scalar α] {q : Query} {rs : List (SearchResult α)}
    {r : SearchResult α} (h : r ∈ q.cut rs) : r ∈ rs := by
  unfold cut at h
  split at h
  · exact h
  · exact List.mem_of_mem_take h

/-- Whatever the limit leaves is the answer for some decision. -/
theorem exists_answer (hp : p.PointsWeigh) {q : Query} (h : ix.search p q = .ok rs)
    {r : SearchResult Float} (hr : r ∈ rs) : ∃ d, r = q.answer p (q.hits ix) d := by
  rw [search_eq hp] at h
  cases h
  have hanswer : r ∈ q.answers p ix := List.mem_mergeSort.mp (mem_of_mem_cut hr)
  obtain ⟨d, -, hd⟩ := List.mem_map.mp hanswer
  exact ⟨d, hd.symm⟩

end Query

/-- Whatever the environment holds, the amounts of the policy are finite and not below zero and its
confidences are fractions. So the scorer refuses no decision, every search of every index has
results, and their scores lie between zero and the largest relevance. -/
theorem CaseIndex.search_within (env : Environment) (ix : CaseIndex) (q : Query) :
    let p : Policy Float := .ofEnvironment env
    (∀ x ∈ p.amounts, Scalar.isFinite x = true ∧ 0.0 ≤ x) ∧
    (∀ x ∈ p.confidences, 0.0 ≤ x ∧ x ≤ 1.0) ∧
    (∀ hits d, ∃ points, Scoring.weightedSum (q.factors p hits d) = .ok points) ∧
    ∃ results, ix.search p q = .ok results ∧
      ∀ r ∈ results, 0.0 ≤ r.score ∧ r.score ≤ p.maxRelevance := by
  intro p
  have hp : p.PointsWeigh := Policy.pointsWeigh_ofEnvironment env
  have hamounts : ∀ x ∈ p.amounts, Scalar.isFinite x = true ∧ 0.0 ≤ x := by
    intro x hx
    have hweigh := Policy.canWeigh_amounts env x hx
    exact ⟨hweigh.1, hweigh.nonneg⟩
  refine ⟨hamounts, Policy.fraction_confidences env, Query.exists_weightedSum hp q, _,
    Query.search_eq hp q ix, ?_⟩
  intro r hr
  obtain ⟨d, rfl⟩ := Query.exists_answer hp (Query.search_eq hp q ix) hr
  exact Double.clamp_mem (Policy.canWeigh_maxRelevance env) _

end ComparativeLaw
