import ComparativeLaw.CaseLaw.Vocabulary
import ComparativeLaw.Policy
import ComparativeLaw.Proofs.Number.Double
import ComparativeLaw.Proofs.Number.Exact

namespace ComparativeLaw

open Scalar

namespace Setting

/-- What is taken is the finite number of some numeral. -/
theorem taken_of_override {α : Type} [Scalar α] {s : Setting α} {env : Environment} {x : α}
    (h : s.override env = .taken x) :
    (∃ n : Numeral, Scalar.ofNumeral? n = some x) ∧ s.admits x = true := by
  unfold override at h
  split at h
  · cases h
  · split at h
    · cases h
    · split at h
      · cases h
      · next n _ =>
        split at h
        · cases h
        · next y hy =>
          split at h
          · next ha =>
            cases h
            exact ⟨⟨n, hy⟩, ha⟩
          · cases h

theorem admits_of_override {α : Type} [Scalar α] {s : Setting α} {env : Environment} {x : α}
    (h : s.override env = .taken x) : s.admits x = true :=
  (taken_of_override h).2

/-- Whatever the environment says, a setting has a value that it admits. -/
theorem admits_value {α : Type} [Scalar α] {s : Setting α} (h : s.admits s.standard = true)
    (env : Environment) : s.admits (s.value env) = true := by
  unfold value
  split
  · next x hx => exact admits_of_override hx
  · exact h

theorem admits_rat {s : Setting Rat} {x : Rat} :
    s.admits x = true ↔ 0 ≤ x ∧ ∀ top ∈ s.ceiling, x ≤ top := by
  simp [admits, Option.all_eq_true]

end Setting

namespace Policy

/-- Every default passes the check of its own setting. -/
theorem admits_standard : ∀ s ∈ (settings : List (Setting Rat)), s.admits s.standard = true := by
  decide +kernel

theorem value_nonneg {s : Setting Rat} (hs : s ∈ settings) (env : Environment) :
    0 ≤ s.value env :=
  (Setting.admits_rat.mp (Setting.admits_value (admits_standard s hs) env)).1

theorem value_le_ceiling {s : Setting Rat} (hs : s ∈ settings) {top : Rat}
    (htop : s.ceiling = some top) (env : Environment) : s.value env ≤ top :=
  (Setting.admits_rat.mp (Setting.admits_value (admits_standard s hs) env)).2 top htop

/-- The points that a search gives are not negative. -/
structure PointsNonneg (p : Policy Rat) : Prop where
  summary : 0 ≤ p.summaryPoints
  holding : 0 ≤ p.holdingPoints
  topic : 0 ≤ p.topicPoints
  court : ∀ level : CourtLevel, 0 ≤ level.points p

theorem pointsNonneg_ofEnvironment (env : Environment) :
    (ofEnvironment env : Policy Rat).PointsNonneg where
  summary := value_nonneg (by simp [settings]) env
  holding := value_nonneg (by simp [settings]) env
  topic := value_nonneg (by simp [settings]) env
  court level := by
    cases level <;> exact value_nonneg (by simp [settings]) env

/-- The confidences of the doctrines, and the cap on one of them, are fractions. -/
structure ConfidencesMem (p : Policy Rat) : Prop where
  territorial : 0 ≤ p.territorialConfidence ∧ p.territorialConfidence ≤ 1
  fallback : 0 ≤ p.fallbackConfidence ∧ p.fallbackConfidence ≤ 1
  falseConflict : 0 ≤ p.falseConflictConfidence ∧ p.falseConflictConfidence ≤ 1
  trueConflict : 0 ≤ p.trueConflictConfidence ∧ p.trueConflictConfidence ≤ 1
  cap : 0 ≤ p.betterLawCap ∧ p.betterLawCap ≤ 1

theorem confidencesMem_ofEnvironment (env : Environment) :
    (ofEnvironment env : Policy Rat).ConfidencesMem := by
  -- Every setting with a ceiling has one as its ceiling.
  have hmem {s : Setting Rat} (hs : s ∈ settings) (hone : s.ceiling = some 1.0) :
      0 ≤ s.value env ∧ s.value env ≤ 1 := by
    have hle := value_le_ceiling hs hone env
    rw [one_rat] at hle
    exact ⟨value_nonneg hs env, hle⟩
  constructor
  case territorial =>
    show (0 : Rat) ≤ 1.0 ∧ (1.0 : Rat) ≤ 1
    simp
  case fallback => exact hmem (by simp [settings]) rfl
  case falseConflict => exact hmem (by simp [settings]) rfl
  case trueConflict => exact hmem (by simp [settings]) rfl
  case cap => exact hmem (by simp [settings]) rfl

theorem admits_standard_double : ∀ s ∈ (settings : List (Setting Float)),
    Scalar.isFinite s.standard = true ∧ s.admits s.standard = true := by
  decide +kernel

theorem not_lt_zero_of_admits {s : Setting Float} {x : Float} (h : s.admits x = true) :
    ¬x < 0.0 := by
  have hx := (Bool.and_eq_true_iff.mp h).1
  simpa using hx

/-- An infinity is never taken, so every setting of doubles can weigh. -/
theorem canWeigh_value {s : Setting Float} (hs : s ∈ settings) (env : Environment) :
    Double.CanWeigh (s.value env) := by
  obtain ⟨hfinite, hadmits⟩ := admits_standard_double s hs
  refine ⟨?_, not_lt_zero_of_admits (Setting.admits_value hadmits env)⟩
  unfold Setting.value
  split
  · next x hx =>
    obtain ⟨⟨n, hn⟩, -⟩ := Setting.taken_of_override hx
    exact Double.isFinite_of_ofNumeral? hn
  · exact hfinite

/-- The points that a search gives can be weights. -/
structure PointsWeigh (p : Policy Float) : Prop where
  summary : Double.CanWeigh p.summaryPoints
  holding : Double.CanWeigh p.holdingPoints
  topic : Double.CanWeigh p.topicPoints
  court : ∀ level : CourtLevel, Double.CanWeigh (level.points p)

theorem pointsWeigh_ofEnvironment (env : Environment) :
    (ofEnvironment env : Policy Float).PointsWeigh where
  summary := canWeigh_value (by simp [settings]) env
  holding := canWeigh_value (by simp [settings]) env
  topic := canWeigh_value (by simp [settings]) env
  court level := by
    cases level <;> exact canWeigh_value (by simp [settings]) env

/-- The values of a policy that are points or weights. -/
def amounts {α : Type} (p : Policy α) : List α :=
  [p.summaryPoints, p.holdingPoints, p.topicPoints, p.supremePoints, p.appellatePoints,
    p.regionalPoints, p.districtPoints, p.maxRelevance, p.betterLawWeight]

/-- The values of a policy that are confidences or bounds of them. -/
def confidences {α : Type} (p : Policy α) : List α :=
  [p.territorialConfidence, p.fallbackConfidence, p.falseConflictConfidence,
    p.trueConflictConfidence, p.betterLawCap]

theorem canWeigh_maxRelevance (env : Environment) :
    Double.CanWeigh (ofEnvironment env : Policy Float).maxRelevance := by
  show Scalar.isFinite (100.0 : Float) = true ∧ ¬(100.0 : Float) < 0.0
  decide +kernel

theorem canWeigh_amounts (env : Environment) :
    ∀ x ∈ (ofEnvironment env : Policy Float).amounts, Double.CanWeigh x := by
  have hvalue {s : Setting Float} (hs : s ∈ settings) : Double.CanWeigh (s.value env) :=
    canWeigh_value hs env
  simp only [amounts, List.forall_mem_cons, List.not_mem_nil, false_imp_iff, implies_true,
    canWeigh_maxRelevance, true_and, and_true]
  refine ⟨?_, ?_, ?_, ?_, ?_, ?_, ?_, ?_⟩ <;> exact hvalue (by simp [settings])

/-- A setting with one as its ceiling has a fraction for its value. -/
theorem fraction_value {s : Setting Float} (hs : s ∈ settings) (hone : s.ceiling = some 1.0)
    (env : Environment) : 0.0 ≤ s.value env ∧ s.value env ≤ 1.0 := by
  have hweigh := canWeigh_value hs env
  have hadmits := Setting.admits_value (admits_standard_double s hs).2 env
  have hle : ¬(1.0 : Float) < s.value env := by
    have hceiling := (Bool.and_eq_true_iff.mp hadmits).2
    rw [hone] at hceiling
    simpa using hceiling
  have hnumber : Double.IsNumber 1.0 := Double.isNumber_of_isFinite (by decide +kernel)
  exact ⟨hweigh.nonneg, Double.le_of_not_lt hweigh.isNumber hnumber hle⟩

theorem fraction_confidences (env : Environment) :
    ∀ x ∈ (ofEnvironment env : Policy Float).confidences, 0.0 ≤ x ∧ x ≤ 1.0 := by
  have hterritorial : (0.0 : Float) ≤ 1.0 ∧ (1.0 : Float) ≤ 1.0 := by decide +kernel
  have hvalue {s : Setting Float} (hs : s ∈ settings) (hone : s.ceiling = some 1.0) :
      0.0 ≤ s.value env ∧ s.value env ≤ 1.0 := fraction_value hs hone env
  simp only [confidences, List.forall_mem_cons, List.not_mem_nil, false_imp_iff, implies_true,
    and_true]
  refine ⟨hterritorial, ?_, ?_, ?_, ?_⟩ <;> exact hvalue (by simp [settings]) rfl

end Policy
end ComparativeLaw
