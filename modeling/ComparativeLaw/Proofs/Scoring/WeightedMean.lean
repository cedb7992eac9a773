import ComparativeLaw.Proofs.Scoring
import Mathlib.Algebra.BigOperators.Ring.List
import Mathlib.Data.List.MinMax

namespace ComparativeLaw

open Checked Scalar

namespace Factor

def Unsound (f : Factor Rat) : Prop := f.weight < 0 ∨ ¬ (0 ≤ f.indicator ∧ f.indicator ≤ 1)

instance (f : Factor Rat) : Decidable f.Unsound := inferInstanceAs (Decidable (_ ∨ _))

/-- The factor with its weight in another unit. -/
def rescale (c : Rat) (f : Factor Rat) : Factor Rat := { f with weight := c * f.weight }

variable {f : Factor Rat}

/-- A factor is sound or unsound. -/
theorem unsound_iff : f.Unsound ↔ ¬ f.Sound := by
  constructor
  · intro h hs
    rcases h with hw | hi
    · exact absurd hs.weight_nonneg (not_le.mpr hw)
    · exact hi ⟨hs.indicator_nonneg, hs.indicator_le_one⟩
  · intro h
    by_cases hw : f.weight < 0
    · exact .inl hw
    · right
      intro hi
      exact h ⟨not_lt.mp hw, hi.1, hi.2⟩

theorem unsound_of_check {g : Failure} (h : f.check = .error g) : f.Unsound := by
  apply unsound_iff.mpr
  intro hs
  rw [(check_eq_ok f).mpr hs] at h
  cases h

/-- A failed check names its factor, whichever number it is about. -/
theorem causes_of_check {g : Failure} (h : f.check = .error g) :
    g.causes = Failure.cause "factor" f.name ∧ Scoring.faultOf g = .failure g := by
  rcases eq_of_check h with rfl | rfl
  · exact ⟨rfl, rfl⟩
  · exact ⟨rfl, rfl⟩

theorem Sound.rescale (h : f.Sound) {c : Rat} (hc : 0 < c) : (f.rescale c).Sound where
  weight_nonneg := mul_nonneg hc.le h.weight_nonneg
  indicator_nonneg := h.indicator_nonneg
  indicator_le_one := h.indicator_le_one

end Factor

namespace Scoring

variable {fs fs' : List (Factor Rat)}

/-- The first unsound factor is the one that is reported. -/
theorem weightedSum_eq_error {g : Failure} (h : weightedSum fs = .error g) :
    ∃ f, fs.find? (·.Unsound) = some f ∧ f.check = .error g := by
  rcases bind_eq_error.mp h with hforM | ⟨_, -, h⟩
  · obtain ⟨before, f, after, rfl, hbefore, hf⟩ := exists_append_of_forM_eq_error hforM
    refine ⟨f, List.find?_eq_some_iff_append.mpr ⟨?_, before, after, rfl, ?_⟩, hf⟩
    · exact decide_eq_true (Factor.unsound_of_check hf)
    · intro f' hf'
      have hsound : f'.Sound := (Factor.check_eq_ok f').mp (hbefore f' hf')
      have hnot : ¬ f'.Unsound := fun hu => Factor.unsound_iff.mp hu hsound
      rw [decide_eq_false hnot]
      rfl
  · cases h

/-- Factors fail at the first unsound one or, if there is none, together. -/
theorem explain_eq_error {g : Failure} (h : explain fs = .error g) :
    (∃ f, fs.find? (·.Unsound) = some f ∧ f.check = .error g) ∨
      fs.find? (·.Unsound) = none ∧ g = .totalWeight (fs.map (·.name)) := by
  rcases bind_eq_error.mp h with hsum | ⟨s, hsum, h⟩
  · exact .inl (weightedSum_eq_error hsum)
  · right
    have hsound : ∀ f ∈ fs, f.Sound := (weightedSum_eq_ok.mp hsum).1
    simp only at h
    split at h
    · cases h
      refine ⟨List.find?_eq_none.mpr fun f hf => ?_, rfl⟩
      rw [decide_eq_true_iff, Factor.unsound_iff]
      exact fun hn => hn (hsound f hf)
    · cases h

theorem exists_explain_eq_ok :
    (∃ b, explain fs = .ok b) ↔ (∀ f ∈ fs, f.Sound) ∧ 0 < (fs.map (·.weight)).sum := by
  constructor
  · rintro ⟨b, hb⟩
    obtain ⟨hs, ht, -⟩ := explain_eq_ok.mp hb
    exact ⟨hs, ht⟩
  · rintro ⟨hs, ht⟩
    exact ⟨_, explain_eq_ok.mpr ⟨hs, ht, rfl⟩⟩

/-- The three ways in which a mean can be refused. -/
theorem exists_explain_eq_error : (∃ g, explain fs = .error g) ↔
    (∃ f ∈ fs, f.weight < 0) ∨ (∃ f ∈ fs, ¬ (0 ≤ f.indicator ∧ f.indicator ≤ 1)) ∨
      (fs.map (·.weight)).sum ≤ 0 := by
  have hok : (∃ g, explain fs = .error g) ↔ ¬ ∃ b, explain fs = .ok b := by
    cases explain fs <;> simp
  have hunsound : (¬ ∀ f ∈ fs, f.Sound) ↔ ∃ f ∈ fs, f.Unsound := by
    simp only [Factor.unsound_iff, not_forall, exists_prop]
  rw [hok, exists_explain_eq_ok, not_and_or, not_lt, hunsound, ← or_assoc]
  apply or_congr_left
  constructor
  · rintro ⟨f, hf, hw | hi⟩
    · exact .inl ⟨f, hf, hw⟩
    · exact .inr ⟨f, hf, hi⟩
  · rintro (⟨f, hf, hw⟩ | ⟨f, hf, hi⟩)
    · exact ⟨f, hf, .inl hw⟩
    · exact ⟨f, hf, .inr hi⟩

/-- Bounds of the indicators that count bound their weighted sum. -/
theorem sum_contribution_mem {lo hi : Rat} (hs : ∀ f ∈ fs, f.Sound)
    (h : ∀ f ∈ fs, 0 < f.weight → lo ≤ f.indicator ∧ f.indicator ≤ hi) :
    lo * (fs.map (·.weight)).sum ≤ (fs.map Factor.contribution).sum ∧
      (fs.map Factor.contribution).sum ≤ hi * (fs.map (·.weight)).sum := by
  rw [← List.sum_map_mul_left, ← List.sum_map_mul_left]
  -- a factor without weight adds nothing on either side, wherever its indicator lies
  have hstep : ∀ f ∈ fs, lo * f.weight ≤ f.contribution ∧ f.contribution ≤ hi * f.weight := by
    intro f hf
    unfold Factor.contribution
    rcases (hs f hf).weight_nonneg.eq_or_lt with hw | hw
    · rw [← hw]
      simp
    · obtain ⟨hlo, hhi⟩ := h f hf hw
      rw [mul_comm lo, mul_comm hi]
      exact ⟨mul_le_mul_of_nonneg_left hlo hw.le, mul_le_mul_of_nonneg_left hhi hw.le⟩
  exact ⟨List.sum_le_sum fun f hf => (hstep f hf).1, List.sum_le_sum fun f hf => (hstep f hf).2⟩

/-- Of factors with a positive total, one has a positive weight. -/
theorem exists_weight_pos (ht : 0 < (fs.map (·.weight)).sum) : ∃ f ∈ fs, 0 < f.weight := by
  by_contra h
  push Not at h
  have hle : (fs.map (·.weight)).sum ≤ 0 := by
    calc (fs.map (·.weight)).sum ≤ (fs.map fun _ => (0 : Rat)).sum := List.sum_le_sum h
      _ = 0 := by simp
  exact absurd ht (not_lt.mpr hle)

/-- Of the factors that count, one has the least and one the greatest value of a measure. -/
theorem exists_least (r : Factor Rat → Rat) (ht : 0 < (fs.map (·.weight)).sum) :
    ∃ f ∈ fs, 0 < f.weight ∧ ∀ f' ∈ fs, 0 < f'.weight → r f ≤ r f' := by
  obtain ⟨f₀, hf₀, hw₀⟩ := exists_weight_pos ht
  have hne : fs.filter (0 < ·.weight) ≠ [] :=
    List.ne_nil_of_mem (List.mem_filter.mpr ⟨hf₀, decide_eq_true hw₀⟩)
  have hsome : (fs.filter (0 < ·.weight)).argmin r ≠ none := mt List.argmin_eq_none.mp hne
  obtain ⟨f, hf⟩ := Option.ne_none_iff_exists'.mp hsome
  obtain ⟨hmem, hw⟩ := List.mem_filter.mp (List.argmin_mem hf)
  refine ⟨f, hmem, of_decide_eq_true hw, ?_⟩
  intro f' hf' hw'
  exact List.le_of_mem_argmin (List.mem_filter.mpr ⟨hf', decide_eq_true hw'⟩) hf

/-- The order of the factors does not matter to the mean. -/
theorem score_perm (hp : fs.Perm fs') {s : Rat} (h : score fs = .ok s) : score fs' = .ok s := by
  obtain ⟨hs, ht, rfl⟩ := score_eq_ok.mp h
  have hweight : (fs.map (·.weight)).sum = (fs'.map (·.weight)).sum := (hp.map _).sum_eq
  have hcontribution : (fs.map Factor.contribution).sum = (fs'.map Factor.contribution).sum :=
    (hp.map _).sum_eq
  apply score_eq_ok.mpr
  rw [← hweight, ← hcontribution]
  exact ⟨fun f hf => hs f (hp.mem_iff.mpr hf), ht, rfl⟩

theorem sum_weight_rescale (c : Rat) :
    ((fs.map (Factor.rescale c)).map (·.weight)).sum = c * (fs.map (·.weight)).sum := by
  rw [List.map_map, ← List.sum_map_mul_left]
  rfl

theorem sum_contribution_rescale (c : Rat) :
    ((fs.map (Factor.rescale c)).map Factor.contribution).sum =
      c * (fs.map Factor.contribution).sum := by
  rw [List.map_map, ← List.sum_map_mul_left]
  congr 1
  apply List.map_congr_left
  intro f _
  exact mul_assoc c f.weight f.indicator

/-- Nor does the unit of their weights. -/
theorem score_rescale {c : Rat} (hc : 0 < c) {s : Rat} (h : score fs = .ok s) :
    score (fs.map (Factor.rescale c)) = .ok s := by
  obtain ⟨hs, ht, rfl⟩ := score_eq_ok.mp h
  apply score_eq_ok.mpr
  rw [sum_weight_rescale, sum_contribution_rescale]
  refine ⟨?_, mul_pos hc ht, (mul_div_mul_left _ _ hc.ne').symm⟩
  intro f' hf'
  obtain ⟨f, hf, rfl⟩ := List.mem_map.mp hf'
  exact (hs f hf).rescale hc

/-- What a breakdown promises about the factors that it explains. -/
structure WeightedMean (fs : List (Factor Rat)) (b : Breakdown Rat) : Prop where
  totalWeight_eq : b.totalWeight = (fs.map (·.weight)).sum
  score_eq : b.score = (fs.map fun f => f.weight * f.indicator).sum / (fs.map (·.weight)).sum
  /-- The quotient is a fraction before it is cut to one. -/
  unclamped : clamp 1.0 ((fs.map fun f => f.weight * f.indicator).sum / (fs.map (·.weight)).sum) =
    (fs.map fun f => f.weight * f.indicator).sum / (fs.map (·.weight)).sum
  least_le : ∃ f ∈ fs, 0 < f.weight ∧ (∀ f' ∈ fs, 0 < f'.weight → f.indicator ≤ f'.indicator) ∧
    f.indicator ≤ b.score
  le_greatest : ∃ f ∈ fs, 0 < f.weight ∧ (∀ f' ∈ fs, 0 < f'.weight → f'.indicator ≤ f.indicator) ∧
    b.score ≤ f.indicator
  score_perm : ∀ fs' : List (Factor Rat), fs.Perm fs' → score fs' = .ok b.score
  score_rescale : ∀ c : Rat, 0 < c → score (fs.map (Factor.rescale c)) = .ok b.score
  contributions_eq : b.contributions = fs.map fun f => (f.name, f.weight, f.weight * f.indicator)
  sum_contributions : (b.contributions.map (·.2.2)).sum = b.score * b.totalWeight

theorem weightedMean_of_explain {b : Breakdown Rat} (h : explain fs = .ok b) :
    WeightedMean fs b := by
  have hscore : score fs = .ok b.score := map_eq_ok.mpr ⟨b, h, rfl⟩
  obtain ⟨hs, ht, rfl⟩ := explain_eq_ok.mp h
  obtain ⟨least, hleast, hleastPos, hleastLe⟩ := exists_least (·.indicator) ht
  obtain ⟨greatest, hgreatest, hgreatestPos, hleNeg⟩ := exists_least (fun f => -f.indicator) ht
  have hleGreatest : ∀ f ∈ fs, 0 < f.weight → f.indicator ≤ greatest.indicator :=
    fun f hf hw => neg_le_neg_iff.mp (hleNeg f hf hw)
  obtain ⟨hlower, hupper⟩ := sum_contribution_mem hs fun f hf hw =>
    ⟨hleastLe f hf hw, hleGreatest f hf hw⟩
  refine ⟨rfl, rfl, clamp_mean hs ht, ?_, ?_, ?_, ?_, rfl, ?_⟩
  · exact ⟨least, hleast, hleastPos, hleastLe, (le_div_iff₀ ht).mpr hlower⟩
  · exact ⟨greatest, hgreatest, hgreatestPos, hleGreatest, (div_le_iff₀ ht).mpr hupper⟩
  · exact fun fs' hp => score_perm hp hscore
  · exact fun c hc => score_rescale hc hscore
  · simp only [List.map_map]
    calc (fs.map Factor.contribution).sum
        = (fs.map Factor.contribution).sum / (fs.map (·.weight)).sum * (fs.map (·.weight)).sum :=
          (div_mul_cancel₀ _ ht.ne').symm

/-- The scorer is a weighted mean. It refuses factors exactly if a weight is negative, an indicator
is no fraction, or the total weight is not positive; the failure names the first unsound factor, if
there is one. -/
theorem explain_isWeightedMean (fs : List (Factor Rat)) :
    ((∃ g, explain fs = .error g) ↔
      (∃ f ∈ fs, f.weight < 0) ∨ (∃ f ∈ fs, ¬ (0 ≤ f.indicator ∧ f.indicator ≤ 1)) ∨
        (fs.map (·.weight)).sum ≤ 0) ∧
    (∀ g, explain fs = .error g → g.kind = "invalid_weighting" ∧
      (∀ f, fs.find? (·.Unsound) = some f →
        g.causes = Failure.cause "factor" f.name ∧ faultOf g = .failure g) ∧
      (fs.find? (·.Unsound) = none →
        g.causes = [] ∧ ((∀ f ∈ fs, f.name.toText.isOk) → faultOf g = .failure g))) ∧
    ∀ b, explain fs = .ok b → WeightedMean fs b := by
  refine ⟨exists_explain_eq_error, ?_, fun b => weightedMean_of_explain⟩
  intro g hg
  refine ⟨kind_of_score (map_eq_error.mpr hg), ?_⟩
  rcases explain_eq_error hg with ⟨f, hfind, hcheck⟩ | ⟨hfind, rfl⟩
  · rw [hfind]
    constructor
    · intro f' hf'
      cases hf'
      exact Factor.causes_of_check hcheck
    · exact fun h => nomatch h
  · rw [hfind]
    refine ⟨fun _ h => absurd h nofun, fun _ => ⟨rfl, ?_⟩⟩
    intro hnames
    have hall : (fs.map (·.name)).all (fun name => name.toText.isOk) = true := by
      rw [List.all_map, List.all_eq_true]
      exact hnames
    exact if_pos hall

end Scoring
end ComparativeLaw
