import ComparativeLaw.ChoiceOfLaw.Analysis
import ComparativeLaw.Proofs.Number.Exact

/-!
Division. The doctrines divide by two, and by the total weight of factors, the total of the contacts
and a top score once these are known to be positive. So the analysis is the same with any division
that agrees with the usual one where the divisor is not zero.
-/
namespace ComparativeLaw

open Scalar

/-- The rationals with another division. -/
@[reducible] def Scalar.dividing (div : Rat → Rat → Rat) : Scalar Rat :=
  { (inferInstance : Scalar Rat) with div := div }

section Division

variable {div : Rat → Rat → Rat} (hdiv : ∀ a b, b ≠ 0 → div a b = a / b)
include hdiv

/-- A mean is taken only over a positive weight. -/
theorem Scoring.explain_dividing (fs : List (Factor Rat)) :
    @explain Rat (dividing div) fs = explain fs := by
  show (weightedSum fs >>= fun numerator =>
    if totalWeight fs ≤ 0.0 then .error (.totalWeight (fs.map (·.name)))
    else .ok ({ score := clamp 1.0 (div numerator (totalWeight fs))
                totalWeight := totalWeight fs
                contributions := fs.map fun f => (f.name, f.weight, f.contribution) } :
      Breakdown Rat)) = _
  refine congrArg (weightedSum fs >>= ·) (funext fun numerator => ?_)
  by_cases ht : totalWeight fs ≤ 0.0
  · rw [if_pos ht, if_pos ht]
  · have hne : totalWeight fs ≠ 0 := by
      rintro h0
      exact ht (by rw [h0, zero_rat])
    rw [if_neg ht, if_neg ht, hdiv _ _ hne]
    rfl

theorem Scoring.score_dividing (fs : List (Factor Rat)) :
    @score Rat (dividing div) fs = score fs :=
  congrArg (Except.map Breakdown.score) (explain_dividing hdiv fs)

/-- A gap is divided only by a positive score. -/
theorem Standing.gap_dividing (top second : Rat) :
    @gap Rat (dividing div) top second = gap top second := by
  show (if top ≤ 0.0 then 0.0 else clamp 1.0 (div (top - second) top)) = _
  unfold gap
  by_cases ht : top ≤ 0.0
  · rw [if_pos ht, if_pos ht]
  · have hne : top ≠ 0 := by
      rintro rfl
      exact ht (by rw [zero_rat])
    rw [if_neg ht, if_neg ht, hdiv _ _ hne]

theorem Relationship.usableLine_dividing (weight : ContactKind → Rat) (total : Rat) :
    @usableLine Rat (dividing div) weight total = usableLine weight total := by
  funext c
  show ({ factor := c.kind.code, code := c.code, weight := weight c.kind,
          contribution := if 0.0 < total then div (weight c.kind) total else 0.0 } :
    TraceLine Rat) = _
  unfold usableLine
  by_cases ht : 0.0 < total
  · rw [if_pos ht, if_pos ht, hdiv _ _ (by rw [zero_rat] at ht; exact ht.ne')]
  · rw [if_neg ht, if_neg ht]

/-- Shares are divided only by a positive weight. -/
theorem Relationship.score_dividing (m : Materials Rat) (f : Facts) :
    @score Rat (dividing div) m f = score m f := by
  unfold score scoresOf
  simp only [Scoring.score_dividing hdiv, usableLine_dividing hdiv]
  rfl

theorem Relationship.resolve_dividing (m : Materials Rat) (f : Facts) (forum : Reference) :
    @resolve Rat (dividing div) m f forum = resolve m f forum := by
  unfold resolve reasoning Standing.confidence
  simp only [score_dividing hdiv, Standing.gap_dividing hdiv]
  rfl

theorem BetterLaw.resolve_dividing (m : Materials Rat) (f : Facts) (forum : Reference) :
    @resolve Rat (dividing div) m f forum = resolve m f forum := by
  unfold resolve capped weighed rescored combine Standing.confidence
  simp only [Relationship.resolve_dividing hdiv, Relationship.score_dividing hdiv,
    Scoring.score_dividing hdiv, Standing.gap_dividing hdiv]
  rfl

theorem CombinedModern.resolve_dividing (m : Materials Rat) (f : Facts) (forum : Reference) :
    @resolve Rat (dividing div) m f forum = resolve m f forum := by
  have hboth : @bothStages Rat (dividing div) = bothStages := by
    funext first second
    have hmean : div (first.confidence + second.confidence) 2.0 =
        (first.confidence + second.confidence) / 2.0 := hdiv _ _ (by norm_num)
    exact congrArg (fun c => { bothStages first second with confidence := c }) hmean
  unfold resolve
  simp only [Relationship.resolve_dividing hdiv, hboth]
  rfl

/-- No approach sees how a division by zero would end. -/
theorem Approach.resolve_dividing (a : Approach) (m : Materials Rat) (f : Facts)
    (forum : Reference) :
    @Approach.resolve Rat (dividing div) a m f forum = a.resolve m f forum := by
  cases a with
  | territorial => rfl
  | mostSignificantRelationship => exact Relationship.resolve_dividing hdiv m f forum
  | interestAnalysis => rfl
  | betterLaw => exact BetterLaw.resolve_dividing hdiv m f forum
  | combinedModern =>
    exact congrArg (forum.checkKey >>= fun _ => ·) (CombinedModern.resolve_dividing hdiv m f forum)

/-- What a division by zero would give has no part in a resolution. -/
theorem analyze_dividing (m : Materials Rat) (a : Approach) (f : Facts) (forum : Reference) :
    @analyze Rat (dividing div) m a f forum = analyze m a f forum :=
  congrArg (Except.map _) (a.resolve_dividing hdiv _ f forum)

end Division
end ComparativeLaw
