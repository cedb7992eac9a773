import ComparativeLaw.ChoiceOfLaw.Analysis
import ComparativeLaw.Proofs.ChoiceOfLaw.Contest
import ComparativeLaw.Proofs.Policy
import Mathlib.Tactic.Linarith

/-!
Fractions. Whatever the environment says, a resolution has a confidence and scores between zero and
one: a confidence is one of the policy, a gap, a gap under the cap, or the mean of two of them, and a
score is a share, a weighted mean of fractions, or zero or one.
-/
namespace ComparativeLaw

open Checked Scalar

variable {m : Materials Rat} {f : Facts} {forum : Reference} {r : Resolution Rat}

/-- A resolution without a confidence or a score outside of zero to one. -/
structure Resolution.Fractional (r : Resolution Rat) : Prop where
  confidence_mem : 0 ≤ r.confidence ∧ r.confidence ≤ 1
  score_mem : ∀ e ∈ r.scores, 0 ≤ e.2 ∧ e.2 ≤ 1

namespace Resolution

/-- Scores that were compared are fractions. -/
theorem WonBy.score_mem {registry : Option Registry} {scores : Scores Rat} {standing : Standing Rat}
    (h : r.WonBy registry f scores standing) : ∀ e ∈ r.scores, 0 ≤ e.2 ∧ e.2 ≤ 1 := by
  intro e he
  rw [h.ranked, Scores.mem_ranked] at he
  exact h.sound.score_mem e he

/-- A full score for one candidate and no others. -/
theorem score_mem_singleton (code : String) :
    ∀ e ∈ ([(code, 1.0)] : Scores Rat), 0 ≤ e.2 ∧ e.2 ≤ 1 := by
  intro e he
  rw [List.mem_singleton.mp he]
  simp

theorem Fractional.reportForum {registry : Option Registry} (h : r.Fractional) :
    (r.reportForum registry forum).Fractional :=
  ⟨h.confidence_mem, h.score_mem⟩

end Resolution

theorem Territorial.fractional_of_resolve (hp : m.policy.ConfidencesMem)
    (h : resolve m f = .ok r) : r.Fractional := by
  simp only [resolve] at h
  split at h
  · cases h
  · next chosen fallback hchosen =>
    cases h
    refine ⟨?_, Resolution.score_mem_singleton _⟩
    cases fallback with
    | true => exact hp.fallback
    | false => exact hp.territorial

/-- Shares are fractions, and so is the gap between them. -/
theorem Relationship.fractional_of_resolve (h : resolve m f forum = .ok r) : r.Fractional := by
  obtain ⟨scores, standing, hwon, hconfidence⟩ := wonBy_of_resolve h
  refine ⟨?_, hwon.score_mem⟩
  rw [hconfidence]
  exact standing.confidence_mem

/-- Blends of fractions are fractions. -/
theorem BetterLaw.fractional_of_resolve (hp : m.policy.ConfidencesMem)
    (h : resolve m f forum = .ok r) : r.Fractional := by
  obtain ⟨scores, standing, hwon, hconfidence⟩ := wonBy_of_resolve h
  obtain ⟨hgap0, hgap1⟩ := standing.confidence_mem
  refine ⟨?_, hwon.score_mem⟩
  rcases hconfidence with hconfidence | hconfidence
  · rw [hconfidence]
    exact ⟨hgap0, hgap1⟩
  · rw [hconfidence]
    exact ⟨le_min hgap0 hp.cap.1, (min_le_left _ _).trans hgap1⟩

namespace InterestAnalysis

theorem confidence_mem {p : Policy Rat} (hp : p.ConfidencesMem) (conflict : Conflict) :
    0 ≤ confidence p conflict ∧ confidence p conflict ≤ 1 := by
  cases conflict with
  | falseConflict => exact hp.falseConflict
  | trueConflict => exact hp.trueConflict
  | unprovidedFor => exact hp.trueConflict

theorem chosenValue_mem (chosen : Bool) :
    0 ≤ (chosenValue chosen : Rat) ∧ (chosenValue chosen : Rat) ≤ 1 := by
  cases chosen <;> simp [chosenValue]

/-- An interest analysis scores with zero and one. -/
theorem fractional_resolve (hp : m.policy.ConfidencesMem) (f : Facts) (forum : Reference) :
    (resolve m f forum).Fractional := by
  simp only [resolve]
  refine ⟨confidence_mem hp _, ?_⟩
  -- Without an interest that counts, the forum alone is scored.
  split
  · exact Resolution.score_mem_singleton _
  · intro e he
    obtain ⟨code, -, rfl⟩ := List.mem_map.mp he
    exact chosenValue_mem _

end InterestAnalysis

namespace CombinedModern

/-- The mean of two fractions is one. -/
theorem fractional_bothStages {first second : Resolution Rat} (h1 : first.Fractional)
    (h2 : second.Fractional) : (bothStages first second).Fractional := by
  obtain ⟨hfirst0, hfirst1⟩ := h1.confidence_mem
  obtain ⟨hsecond0, hsecond1⟩ := h2.confidence_mem
  refine ⟨?_, h2.score_mem⟩
  show 0 ≤ (first.confidence + second.confidence) / 2.0 ∧
    (first.confidence + second.confidence) / 2.0 ≤ 1
  have htwo : (2.0 : Rat) = 2 := by norm_num
  rw [htwo]
  constructor <;> linarith

theorem fractional_of_resolve (hp : m.policy.ConfidencesMem) (h : resolve m f forum = .ok r) :
    r.Fractional := by
  have hfirst := InterestAnalysis.fractional_resolve hp f forum
  rcases cases_of_resolve h with ⟨-, rfl⟩ | ⟨second, hsecond, rfl⟩
  · exact ⟨hfirst.confidence_mem, hfirst.score_mem⟩
  · exact fractional_bothStages hfirst (Relationship.fractional_of_resolve hsecond)

end CombinedModern

/-- All that an approach measures is a fraction. -/
theorem Approach.fractional_of_resolve {a : Approach} (hp : m.policy.ConfidencesMem)
    (h : a.resolve m f forum = .ok r) : r.Fractional := by
  cases a with
  | territorial => exact Territorial.fractional_of_resolve hp h
  | mostSignificantRelationship => exact Relationship.fractional_of_resolve h
  | interestAnalysis =>
    obtain ⟨_, -, rfl⟩ := map_eq_ok.mp h
    exact InterestAnalysis.fractional_resolve hp f forum
  | betterLaw => exact BetterLaw.fractional_of_resolve hp h
  | combinedModern =>
    obtain ⟨_, -, h⟩ := bind_eq_ok.mp h
    exact CombinedModern.fractional_of_resolve hp h

/-- In every environment, whichever doctrine runs, confidence and scores are fractions. -/
theorem analyze_fractional {env : Environment} (hm : m.policy = .ofEnvironment env) {a : Approach}
    (h : analyze m a f forum = .ok r) :
    (0 ≤ r.confidence ∧ r.confidence ≤ 1) ∧ ∀ e ∈ r.scores, 0 ≤ e.2 ∧ e.2 ≤ 1 := by
  have hp : m.policy.ConfidencesMem := by
    rw [hm]
    exact Policy.confidencesMem_ofEnvironment env
  obtain ⟨r', hr', rfl⟩ := map_eq_ok.mp h
  have hr : r'.Fractional := by
    apply Approach.fractional_of_resolve ?_ hr'
    exact hp
  exact ⟨hr.reportForum.confidence_mem, hr.reportForum.score_mem⟩

/-- An environment that replaces one confidence and tries to replace another by too large a one. -/
def overconfident : Environment :=
  [("LEXC_TRUE_CONFLICT_CONFIDENCE", " 0.25 "), ("LEXC_BETTER_LAW_CAP", "1.5")]

/-- Two states under that environment. -/
def overconfidentStates : Materials Rat where
  registry := some .twoStates
  catalog := none
  policy := .ofEnvironment overconfident
  lawQuality := .ok []
  weights := .ok []

/-- A setting beyond one does not make a confidence beyond one. -/
theorem analyze_fractional_overconfident :
    ∃ r, analyze overconfidentStates .combinedModern Relationship.dispute (.text "us-ca") = .ok r ∧
      (0 ≤ r.confidence ∧ r.confidence ≤ 1) ∧ ∀ e ∈ r.scores, 0 ≤ e.2 ∧ e.2 ≤ 1 := by
  obtain ⟨r, h⟩ := exists_of_isOk
    (x := analyze overconfidentStates .combinedModern Relationship.dispute (.text "us-ca"))
    (by decide +kernel)
  exact ⟨r, h, analyze_fractional rfl h⟩

end ComparativeLaw
