import ComparativeLaw.Proofs.Checked
import ComparativeLaw.Proofs.Number.Exact
import ComparativeLaw.Scoring
import Mathlib.Algebra.Order.BigOperators.Group.List
import Mathlib.Algebra.Order.Field.Basic

namespace ComparativeLaw

open Checked Scalar

section Kinds

variable {α : Type} [Scalar α] {g : Failure}

/-- A factor is refused by its weight or by its indicator. -/
theorem Factor.eq_of_check {f : Factor α} (h : f.check = .error g) :
    g = .weight f.name (shortest f.weight) ∨ g = .indicator f.name (shortest f.indicator) := by
  unfold check at h
  split at h
  · cases h
    exact .inl rfl
  · split at h
    · cases h
      exact .inr rfl
    · cases h

theorem Factor.kind_of_check {f : Factor α} (h : f.check = .error g) :
    g.kind = "invalid_weighting" := by
  rcases eq_of_check h with rfl | rfl
  · rfl
  · rfl

theorem Scoring.kind_of_weightedSum {fs : List (Factor α)} (h : weightedSum fs = .error g) :
    g.kind = "invalid_weighting" := by
  rcases bind_eq_error.mp h with hcheck | ⟨_, -, h⟩
  · obtain ⟨f, -, hf⟩ := exists_of_forM_eq_error hcheck
    exact f.kind_of_check hf
  · cases h

/-- Whatever numbers are scored, there is one kind of failure. -/
theorem Scoring.kind_of_score {fs : List (Factor α)} (h : score fs = .error g) :
    g.kind = "invalid_weighting" := by
  rcases bind_eq_error.mp (map_eq_error.mp h) with hsum | ⟨total, -, h⟩
  · exact kind_of_weightedSum hsum
  · simp only at h
    split at h
    · cases h
      rfl
    · cases h

/-- Factors are scored exactly if each passes the checks and together they weigh something. -/
theorem Scoring.exists_score_iff {fs : List (Factor α)} :
    (∃ s, score fs = .ok s) ↔ (∀ f ∈ fs, f.check = .ok ()) ∧ ¬ totalWeight fs ≤ 0.0 := by
  simp only [score, map_eq_ok, explain, weightedSum, bind_eq_ok]
  constructor
  · rintro ⟨s, b, ⟨_, ⟨_, hchecks, -⟩, hb⟩, -⟩
    split at hb
    · cases hb
    · next htotal => exact ⟨forM_eq_ok.mp hchecks, htotal⟩
  · rintro ⟨hchecks, htotal⟩
    exact ⟨_, _, ⟨_, ⟨(), forM_eq_ok.mpr hchecks, rfl⟩, if_neg htotal⟩, rfl⟩

end Kinds

namespace Factor

/-- A factor that passes the checks. -/
structure Sound (f : Factor Rat) : Prop where
  weight_nonneg : 0 ≤ f.weight
  indicator_nonneg : 0 ≤ f.indicator
  indicator_le_one : f.indicator ≤ 1

theorem weightOk_iff (f : Factor Rat) : f.weightOk = true ↔ 0 ≤ f.weight := by
  simp [weightOk, isFinite]

theorem indicatorOk_iff (f : Factor Rat) :
    f.indicatorOk = true ↔ 0 ≤ f.indicator ∧ f.indicator ≤ 1 := by
  simp [indicatorOk, isFinite]

theorem check_eq_ok (f : Factor Rat) : f.check = .ok () ↔ f.Sound := by
  have hw := f.weightOk_iff
  have hi := f.indicatorOk_iff
  unfold check
  constructor
  · intro h
    split at h
    · cases h
    · split at h
      · cases h
      · next hnw hni =>
        have hw : 0 ≤ f.weight := hw.mp (by simpa using hnw)
        have hi : 0 ≤ f.indicator ∧ f.indicator ≤ 1 := hi.mp (by simpa using hni)
        exact ⟨hw, hi.1, hi.2⟩
  · intro h
    simp [hw.mpr h.weight_nonneg, hi.mpr ⟨h.indicator_nonneg, h.indicator_le_one⟩]

theorem Sound.contribution_nonneg {f : Factor Rat} (h : f.Sound) : 0 ≤ f.contribution :=
  mul_nonneg h.weight_nonneg h.indicator_nonneg

theorem Sound.contribution_le_weight {f : Factor Rat} (h : f.Sound) : f.contribution ≤ f.weight :=
  mul_le_of_le_one_right h.weight_nonneg h.indicator_le_one

end Factor

namespace Scoring

variable {fs : List (Factor Rat)}

/-- Sound factors have a sum, the sum of what they contribute. -/
theorem weightedSum_eq_ok {s : Rat} :
    weightedSum fs = .ok s ↔ (∀ f ∈ fs, f.Sound) ∧ s = (fs.map Factor.contribution).sum := by
  have hc : fs.forM Factor.check = .ok () ↔ ∀ f ∈ fs, f.Sound :=
    forM_eq_ok.trans (forall₂_congr fun f _ => f.check_eq_ok)
  unfold weightedSum
  simp only [bind_eq_ok, pure, Except.pure, Except.ok.injEq, sum_rat]
  constructor
  · rintro ⟨_, hf, rfl⟩
    exact ⟨hc.mp hf, rfl⟩
  · rintro ⟨hf, rfl⟩
    exact ⟨(), hc.mpr hf, rfl⟩

theorem sum_contribution_nonneg (h : ∀ f ∈ fs, f.Sound) :
    0 ≤ (fs.map Factor.contribution).sum := by
  apply List.sum_nonneg
  intro x hx
  obtain ⟨f, hf, rfl⟩ := List.mem_map.mp hx
  exact (h f hf).contribution_nonneg

theorem sum_contribution_le (h : ∀ f ∈ fs, f.Sound) :
    (fs.map Factor.contribution).sum ≤ (fs.map (·.weight)).sum :=
  List.sum_le_sum fun f hf => (h f hf).contribution_le_weight

/-- The weighted mean is a fraction, so that the bounds of the score do nothing. -/
theorem clamp_mean (h : ∀ f ∈ fs, f.Sound) (ht : 0 < (fs.map (·.weight)).sum) :
    clamp 1.0 ((fs.map Factor.contribution).sum / (fs.map (·.weight)).sum) =
      (fs.map Factor.contribution).sum / (fs.map (·.weight)).sum := by
  apply clamp_of_mem
  · exact div_nonneg (sum_contribution_nonneg h) ht.le
  · rw [one_rat]
    exact (div_le_one ht).mpr (sum_contribution_le h)

/-- Sound factors of which some weigh something have a mean. -/
theorem explain_eq_ok {b : Breakdown Rat} :
    explain fs = .ok b ↔ (∀ f ∈ fs, f.Sound) ∧ 0 < (fs.map (·.weight)).sum ∧
      b = { score := (fs.map Factor.contribution).sum / (fs.map (·.weight)).sum
            totalWeight := (fs.map (·.weight)).sum
            contributions := fs.map fun f => (f.name, f.weight, f.contribution) } := by
  simp only [explain, bind_eq_ok, weightedSum_eq_ok, totalWeight, sum_rat, zero_rat]
  constructor
  · rintro ⟨s, ⟨hf, rfl⟩, hb⟩
    split at hb
    · cases hb
    · next ht =>
      have ht : 0 < (fs.map (·.weight)).sum := not_le.mp ht
      rw [clamp_mean hf ht] at hb
      exact ⟨hf, ht, (Except.ok.inj hb).symm⟩
  · rintro ⟨hf, ht, rfl⟩
    refine ⟨_, ⟨hf, rfl⟩, ?_⟩
    rw [if_neg (not_le.mpr ht), clamp_mean hf ht]
    rfl

theorem score_eq_ok {s : Rat} :
    score fs = .ok s ↔ (∀ f ∈ fs, f.Sound) ∧ 0 < (fs.map (·.weight)).sum ∧
      s = (fs.map Factor.contribution).sum / (fs.map (·.weight)).sum := by
  simp only [score, map_eq_ok, explain_eq_ok]
  constructor
  · rintro ⟨b, ⟨hf, ht, rfl⟩, rfl⟩
    exact ⟨hf, ht, rfl⟩
  · rintro ⟨hf, ht, rfl⟩
    exact ⟨_, ⟨hf, ht, rfl⟩, rfl⟩

/-- A mean of indicators is a fraction. -/
theorem score_mem {s : Rat} (h : score fs = .ok s) : 0 ≤ s ∧ s ≤ 1 := by
  obtain ⟨hf, ht, rfl⟩ := score_eq_ok.mp h
  have hnonneg := sum_contribution_nonneg hf
  have hle := sum_contribution_le hf
  exact ⟨div_nonneg hnonneg ht.le, (div_le_one ht).mpr hle⟩

end Scoring
end ComparativeLaw
