import ComparativeLaw.ChoiceOfLaw.Relationship
import ComparativeLaw.Proofs.Scoring

namespace ComparativeLaw.Relationship

open Checked

variable {α : Type} [Scalar α]

def scoreSorted (topic : Topic) (weight : ContactKind → α) (sorted : SortedContacts α) :
    Except Fault (Scored α) :=
  if sorted.usable.isEmpty then .error (.failure (.noUsableContact topic))
  else if sorted.usable.all (irrelevant weight (ContactKind.baseWeight topic.category)) then
    .error (.failure (.noRelevantContact topic))
  else ((scoresOf weight sorted).mapError Fault.failure).map fun scores =>
    { sorted, scores, trace := sorted.excluded ++ sorted.usable.map
        (usableLine weight (Scalar.sum (sorted.usable.map fun c => weight c.kind))) }

theorem score_eq (m : Materials α) (facts : Facts) :
    score m facts = m.weights >>= fun overrides =>
      scoreSorted facts.topic (ContactKind.weight facts.category overrides)
        (.ofFacts facts m.registry (ContactKind.weight facts.category overrides)) := by
  unfold score scoreSorted Facts.category
  refine congrArg (m.weights >>= ·) (funext fun overrides => ?_)
  simp only
  split
  · rfl
  · split
    · rfl
    · cases scoresOf (ContactKind.weight facts.topic.category overrides) (.ofFacts facts _ _) with
      | error e => rfl
      | ok scores => rfl

theorem scoresOf_congr (weight : ContactKind → α) {s s' : SortedContacts α}
    (h : s.usable = s'.usable) : scoresOf weight s = scoresOf weight s' := by
  rw [scoresOf, SortedContacts.candidates, h, scoresOf, SortedContacts.candidates]

theorem kind_of_scoresOf {weight : ContactKind → α} {sorted : SortedContacts α} {g : Failure}
    (h : scoresOf weight sorted = .error g) : g.kind = "invalid_weighting" := by
  obtain ⟨code, -, hcode⟩ := exists_of_mapM_eq_error h
  exact Scoring.kind_of_score (map_eq_error.mp hcode)

/-- Sorted contacts are scored if some usable contact counts and every candidate has a score. -/
theorem scoreSorted_eq_ok {topic : Topic} {weight : ContactKind → α} {sorted : SortedContacts α}
    {scored : Scored α} :
    scoreSorted topic weight sorted = .ok scored ↔
      (∃ c ∈ sorted.usable, irrelevant weight (ContactKind.baseWeight topic.category) c = false) ∧
      ∃ scores, scoresOf weight sorted = .ok scores ∧
        scored = ⟨sorted, scores, sorted.excluded ++ sorted.usable.map
          (usableLine weight (Scalar.sum (sorted.usable.map fun c => weight c.kind)))⟩ := by
  unfold scoreSorted
  constructor
  · intro h
    split at h
    · cases h
    · split at h
      · cases h
      · next hall =>
        obtain ⟨scores, hs, rfl⟩ := map_eq_ok.mp h
        obtain ⟨c, hc, hrel⟩ := List.all_eq_false.mp (Bool.eq_false_iff.mpr hall)
        exact ⟨⟨c, hc, Bool.eq_false_iff.mpr hrel⟩, scores, ok_of_mapError.mp hs, rfl⟩
  · rintro ⟨⟨c, hc, hrel⟩, scores, hs, rfl⟩
    rw [if_neg, if_neg]
    · exact map_eq_ok.mpr ⟨scores, ok_of_mapError.mpr hs, rfl⟩
    · intro hall
      exact absurd (List.all_eq_true.mp hall c hc) (by simp [hrel])
    · intro hnil
      exact List.ne_nil_of_mem hc (List.isEmpty_iff.mp hnil)

end ComparativeLaw.Relationship
