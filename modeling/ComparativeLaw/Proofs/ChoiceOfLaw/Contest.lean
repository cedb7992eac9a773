import ComparativeLaw.ChoiceOfLaw.BetterLaw
import ComparativeLaw.ChoiceOfLaw.CombinedModern
import ComparativeLaw.Proofs.ChoiceOfLaw.Shares
import ComparativeLaw.Proofs.ChoiceOfLaw.Standing

namespace ComparativeLaw

open Checked Scalar

variable {m : Materials Rat} {f : Facts} {forum : Reference} {r : Resolution Rat}

/-- Scores of jurisdictions that contacts name, one for each, none outside of zero to one. -/
structure Scores.Sound (f : Facts) (scores : Scores Rat) : Prop where
  nodup : (scores.map (·.1)).Nodup
  named : ∀ e ∈ scores, ∃ c ∈ f.contacts, c.code = e.1
  score_mem : ∀ e ∈ scores, 0 ≤ e.2 ∧ e.2 ≤ 1

/-- A resolution in favour of the winner among scored candidates. -/
structure Resolution.WonBy (registry : Option Registry) (f : Facts) (scores : Scores Rat)
    (standing : Standing Rat) (r : Resolution Rat) : Prop where
  sound : scores.Sound f
  tops : standing.Tops scores
  selected : r.selected = Registry.select registry standing.winner
  ranked : r.scores = scores.ranked

theorem Scores.mem_ranked {scores : Scores Rat} {e : String × Rat} :
    e ∈ scores.ranked ↔ e ∈ scores :=
  (List.mergeSort_perm scores _).mem_iff

namespace Relationship

/-- Whatever weights are used, the candidates of a scored dispute have their shares as scores. -/
theorem scores_of_score {scored : Scored Rat} (h : score m f = .ok scored) :
    ∃ weight, (∀ c ∈ (f.recognised m.registry).contacts, 0 ≤ weight c.kind) ∧
      0 < load weight (f.recognised m.registry).contacts ∧
      scored.scores = (firstSeen ((f.recognised m.registry).contacts.map (·.code))).map
        fun code => (code, share weight (f.recognised m.registry).contacts code) := by
  rw [score_eq] at h
  obtain ⟨overrides, -, h⟩ := bind_eq_ok.mp h
  obtain ⟨⟨c, hc, -⟩, scores, hscores, rfl⟩ := scoreSorted_eq_ok.mp h
  obtain ⟨hnonneg, hpos, hshares⟩ := (scoresOf_eq_ok (List.ne_nil_of_mem hc)).mp hscores
  exact ⟨_, hnonneg, hpos, hshares⟩

theorem sound_of_score {scored : Scored Rat} (h : score m f = .ok scored) :
    scored.scores.Sound f := by
  obtain ⟨weight, hnonneg, hpos, hscores⟩ := scores_of_score h
  rw [hscores]
  constructor
  case nodup =>
    rw [List.map_map]
    show ((firstSeen _).map id).Nodup
    rw [List.map_id]
    exact nodup_firstSeen _
  case named =>
    intro e he
    obtain ⟨code, hcode, rfl⟩ := List.mem_map.mp he
    obtain ⟨c, hc, rfl⟩ := List.mem_map.mp (mem_firstSeen.mp hcode)
    exact ⟨c, List.mem_of_mem_filter hc, rfl⟩
  case score_mem =>
    intro e he
    obtain ⟨code, -, rfl⟩ := List.mem_map.mp he
    exact share_mem weight hnonneg hpos code

/-- The candidate with the highest share is chosen. -/
theorem wonBy_of_resolve (h : resolve m f forum = .ok r) :
    ∃ scores standing, r.WonBy m.registry f scores standing ∧
      r.confidence = standing.confidence := by
  obtain ⟨scored, hscored, h⟩ := bind_eq_ok.mp h
  obtain ⟨standing, hstanding, h⟩ := bind_eq_ok.mp h
  cases h
  have hsound := sound_of_score hscored
  have htops := Standing.tops_of hstanding
  exact ⟨scored.scores, standing, ⟨hsound, htops, rfl, rfl⟩, rfl⟩

end Relationship

namespace BetterLaw

/-- The candidates stay the same, in their order. -/
theorem codes_of_rescored {α : Type} [Scalar α] {weight : α} {quality scores combined : Scores α}
    (h : rescored weight quality scores = .ok combined) :
    combined.map (·.1) = scores.map (·.1) := by
  apply map_of_mapM_eq_ok h
  intro e _ e' he'
  obtain ⟨s, -, rfl⟩ := map_eq_ok.mp he'
  rfl

/-- Blending with qualities keeps the candidates. -/
theorem sound_rescored {weight : Rat} {quality scores combined : Scores Rat}
    (hs : scores.Sound f) (h : rescored weight quality scores = .ok combined) :
    combined.Sound f := by
  have hcodes := codes_of_rescored h
  constructor
  case nodup =>
    rw [hcodes]
    exact hs.nodup
  case named =>
    intro e he
    have hin : e.1 ∈ scores.map (·.1) := hcodes ▸ List.mem_map_of_mem he
    obtain ⟨e', he', hcode⟩ := List.mem_map.mp hin
    rw [← hcode]
    exact hs.named e' he'
  case score_mem =>
    intro e he
    obtain ⟨e', -, he'⟩ := exists_of_mem_mapM h he
    obtain ⟨s, hscore, rfl⟩ := map_eq_ok.mp he'
    exact Scoring.score_mem hscore

/-- The best relationship wins, with a capped confidence. -/
theorem wonBy_of_capped (h : capped m f forum = .ok r) :
    ∃ scores standing, r.WonBy m.registry f scores standing ∧
      r.confidence = min standing.confidence m.policy.betterLawCap := by
  obtain ⟨base, hbase, h⟩ := bind_eq_ok.mp h
  cases h
  obtain ⟨scores, standing, hwon, hconfidence⟩ := Relationship.wonBy_of_resolve hbase
  refine ⟨scores, standing, ⟨hwon.sound, hwon.tops, hwon.selected, hwon.ranked⟩, ?_⟩
  rw [← hconfidence]
  exact smaller_rat _ _

/-- The best blend wins. -/
theorem wonBy_of_weighed {quality : Scores Rat} (h : weighed m quality f forum = .ok r) :
    ∃ scores standing, r.WonBy m.registry f scores standing ∧
      r.confidence = standing.confidence := by
  obtain ⟨_, -, h⟩ := bind_eq_ok.mp h
  obtain ⟨scored, hscored, h⟩ := bind_eq_ok.mp h
  obtain ⟨combined, hcombined, h⟩ := bind_eq_ok.mp h
  obtain ⟨standing, hstanding, h⟩ := bind_eq_ok.mp h
  cases h
  have hsound := sound_rescored (Relationship.sound_of_score hscored) (ok_of_mapError.mp hcombined)
  have htops := Standing.tops_of hstanding
  exact ⟨combined, standing, ⟨hsound, htops, rfl, rfl⟩, rfl⟩

/-- The better law is won by the scores that were compared, with or without the cap. -/
theorem wonBy_of_resolve (h : resolve m f forum = .ok r) :
    ∃ scores standing, r.WonBy m.registry f scores standing ∧
      (r.confidence = standing.confidence ∨
        r.confidence = min standing.confidence m.policy.betterLawCap) := by
  obtain ⟨quality, -, h⟩ := bind_eq_ok.mp h
  split at h
  · obtain ⟨scores, standing, hwon, hconfidence⟩ := wonBy_of_capped h
    exact ⟨scores, standing, hwon, .inr hconfidence⟩
  · obtain ⟨scores, standing, hwon, hconfidence⟩ := wonBy_of_weighed h
    exact ⟨scores, standing, hwon, .inl hconfidence⟩

end BetterLaw

/-- The combined doctrine stops at a false conflict and otherwise hands the dispute to the
relationship of the contacts. -/
theorem CombinedModern.cases_of_resolve {α : Type} [Scalar α] {m : Materials α} {r : Resolution α}
    (h : resolve m f forum = .ok r) :
    ((InterestAnalysis.resolve m f forum).conflict = some .falseConflict ∧
      r = interestOnly (InterestAnalysis.resolve m f forum)) ∨
    ∃ second, Relationship.resolve m f forum = .ok second ∧
      r = bothStages (InterestAnalysis.resolve m f forum) second := by
  simp only [resolve] at h
  split at h
  · next hconflict =>
    cases h
    exact .inl ⟨hconflict, rfl⟩
  · obtain ⟨second, hsecond, rfl⟩ := map_eq_ok.mp h
    exact .inr ⟨second, hsecond, rfl⟩

end ComparativeLaw
