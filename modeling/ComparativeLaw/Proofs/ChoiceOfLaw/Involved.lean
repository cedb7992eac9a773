import ComparativeLaw.Proofs.ChoiceOfLaw.Judged

/-!
Judgements on laws that are not involved. Next to a judgement on a candidate's law they change
nothing. Alone they still count as an assessment: they lift the cap on the confidence and divide the
scores by one plus the weight of such judgements, while the same law is selected.
-/
namespace ComparativeLaw

open Checked Scalar

/-- The jurisdictions that the usable contacts of a dispute name. -/
def Facts.candidates (f : Facts) (registry : Option Registry) : List String :=
  firstSeen ((f.recognised registry).contacts.map (·.code))

/-- The entries under some codes. -/
def Scores.restrict {α : Type} (codes : List String) (scores : Scores α) : Scores α :=
  scores.filter fun e => codes.contains e.1

section Restriction

variable {α : Type} {codes : List String} {code : String}

/-- Restricting to some codes keeps what is under them. -/
theorem Scores.get?_restrict (h : code ∈ codes) (scores : Scores α) :
    Table.get? (scores.restrict codes) code = Table.get? scores code := by
  rw [Table.get?, restrict, List.find?_filter, Table.get?]
  refine congrArg (Option.map _) (congrArg (List.find? · scores) (funext fun e => ?_))
  by_cases hcode : e.1 = code
  · simp [hcode, h]
  · simp [hcode]

theorem Scores.contains_restrict (h : code ∈ codes) (scores : Scores α) :
    Table.contains (scores.restrict codes) code = Table.contains scores code := by
  rw [Table.contains, restrict, List.any_filter, Table.contains]
  refine congrArg (List.any scores) (funext fun e => ?_)
  by_cases hcode : e.1 = code
  · simp [hcode, h]
  · simp [hcode]

theorem Scores.isEmpty_restrict (scores : Scores α) :
    (scores.restrict codes).isEmpty = true ↔ ∀ e ∈ scores, e.1 ∉ codes := by
  rw [List.isEmpty_iff, restrict, List.filter_eq_nil_iff]
  simp

end Restriction

section Candidates

variable {α : Type} [Scalar α] {m : Materials α} {f : Facts}

theorem Relationship.codes_of_score {scored : Scored α} (h : score m f = .ok scored) :
    scored.scores.map (·.1) = f.candidates m.registry := by
  rw [score_eq] at h
  obtain ⟨overrides, -, h⟩ := bind_eq_ok.mp h
  obtain ⟨-, scores, hscores, rfl⟩ := scoreSorted_eq_ok.mp h
  have hcodes : scores.map (·.1) = (f.candidates m.registry).map id := by
    refine map_of_mapM_eq_ok hscores fun code _ e he => ?_
    obtain ⟨s, -, rfl⟩ := map_eq_ok.mp he
    rfl
  rw [hcodes, List.map_id]

namespace BetterLaw

theorem qualityOf_restrict {codes : List String} {code : String} (h : code ∈ codes)
    (quality : Scores α) : qualityOf (quality.restrict codes) code = qualityOf quality code := by
  rw [qualityOf, Scores.get?_restrict h, qualityOf]

theorem qualityLine_restrict {codes : List String} {code : String} (h : code ∈ codes) (weight : α)
    (quality : Scores α) :
    qualityLine weight (quality.restrict codes) code = qualityLine weight quality code := by
  rw [qualityLine, qualityOf_restrict h, Scores.contains_restrict h, qualityLine]

/-- Blending sees the qualities of the candidates only. -/
theorem rescored_restrict {codes : List String} {scores : Scores α}
    (h : ∀ e ∈ scores, e.1 ∈ codes) (weight : α) (quality : Scores α) :
    rescored weight (quality.restrict codes) scores = rescored weight quality scores := by
  unfold rescored
  induction scores with
  | nil => rfl
  | cons e scores ih =>
    obtain ⟨he, hrest⟩ := List.forall_mem_cons.mp h
    rw [List.mapM_cons, List.mapM_cons, qualityOf_restrict he, ih hrest]

theorem checkQuality_of_forall {quality : Scores α} (h : ∀ e ∈ quality, qualityOk e.2 = true) :
    checkQuality quality = .ok () := by
  have hnone : (quality.find? fun e => !qualityOk e.2) = none :=
    List.find?_eq_none.mpr fun e he => by simp [h e he]
  rw [checkQuality, hnone]

/-- So does the weighing, if all qualities are in range. -/
theorem weighed_restrict (forum : Reference) {quality : Scores α}
    (h : ∀ e ∈ quality, qualityOk e.2 = true) :
    weighed m (quality.restrict (f.candidates m.registry)) f forum = weighed m quality f forum := by
  have hkept : ∀ e ∈ quality.restrict (f.candidates m.registry), qualityOk e.2 = true :=
    fun e he => h e (List.mem_of_mem_filter he)
  unfold weighed
  rw [checkQuality_of_forall h, checkQuality_of_forall hkept]
  cases hscore : Relationship.score m f with
  | error e => rfl
  | ok scored =>
    have hcandidate : ∀ e ∈ scored.scores, e.1 ∈ f.candidates m.registry := fun e he =>
      Relationship.codes_of_score hscore ▸ List.mem_map_of_mem he
    have hlines : scored.scores.map (fun e => qualityLine m.policy.betterLawWeight
        (quality.restrict (f.candidates m.registry)) e.1) =
        scored.scores.map fun e => qualityLine m.policy.betterLawWeight quality e.1 :=
      List.map_congr_left fun e he => qualityLine_restrict (hcandidate e he) _ _
    simp only [bind, Except.bind, mapError_ok, rescored_restrict hcandidate, hlines]

end BetterLaw
end Candidates

namespace Scores

variable {g : Rat → Rat}

/-- An increasing change of all scores keeps their ranks. -/
theorem ranked_map (hg : StrictMono g) (scores : Scores Rat) :
    Scores.ranked (scores.map fun e => (e.1, g e.2)) =
      scores.ranked.map fun e => (e.1, g e.2) := by
  refine (List.map_mergeSort fun a _ b _ => ?_).symm
  exact decide_eq_decide.mpr hg.le_iff_le.symm

end Scores

/-- Resolutions for the same law, of which only the second has its confidence capped and its scores
on the scale of the shares. -/
structure Resolution.Uncapped (policy : Policy Rat) (r r' : Resolution Rat) : Prop where
  selected : r.selected = r'.selected
  confidence : r'.confidence = min r.confidence policy.betterLawCap
  scores : r.scores = r'.scores.map fun e => (e.1, e.2 / (1 + policy.betterLawWeight))

namespace BetterLaw

/-- Qualities of other laws alone lift the cap and change nothing else. -/
theorem uncapped_of_uninvolved {m : Materials Rat} {f : Facts} {forum : Reference}
    {quality : Scores Rat} {r : Resolution Rat} (hne : quality ≠ [])
    (hnone : ∀ e ∈ quality, e.1 ∉ f.candidates m.registry)
    (h : resolve (m.judging quality) f forum = .ok r) :
    ∃ r', resolve (m.judging []) f forum = .ok r' ∧ r.Uncapped m.policy r' := by
  rw [resolve_judging, if_neg fun hempty => hne (List.isEmpty_iff.mp hempty)] at h
  obtain ⟨hw, -, scored, standing, hscored, hled, hconfidence⟩ := led_of_weighed h
  have hsilent : ∀ e ∈ ([] : Scores Rat), 0 ≤ e.2 ∧ e.2 ≤ 1 := nofun
  obtain ⟨r', hr'⟩ := exists_resolve_judging hw hscored hsilent forum
  obtain ⟨_, s, hscored', hled', hconfidence'⟩ := led_of_capped (m := m) hr'
  cases hscored.symm.trans hscored'
  -- A candidate without a judgement counts as one of quality zero, and so do all of them here.
  have hzero : ∀ e ∈ scored.scores, qualityOf quality e.1 = 0 := by
    intro e he
    have hcandidate : e.1 ∈ f.candidates m.registry :=
      Relationship.codes_of_score hscored ▸ List.mem_map_of_mem he
    have hget : Table.get? quality e.1 = none := by
      rw [← Option.not_isSome_iff_eq_none, Table.isSome_get?]
      intro hkey
      obtain ⟨e', he', hcode⟩ := List.mem_map.mp hkey
      exact hnone e' he' (hcode ▸ hcandidate)
    rw [qualityOf, hget, Option.getD_none, zero_rat]
  obtain ⟨_, hstands, hwinner, -, hsame⟩ :=
    standing_of_same hw hscored le_rfl hzero hled'.stands
  cases hled.stands.symm.trans hstands
  refine ⟨r', hr', ?_, ?_, ?_⟩
  · rw [hled.selected, hwinner, hled'.selected]
  · rw [hconfidence', hconfidence, hsame rfl]
  · rw [hled.ranked, hled'.ranked, judged_of_same hzero, Scores.ranked_map (strictMono_blend hw 0)]
    simp only [blend_zero]

/-- What judgements that do not concern a candidate do, exactly. If there is none or another one
does concern a candidate, a dispute is resolved as without them, or fails as without them, with any
numbers. Otherwise, in exact numbers, the cap on the confidence is lifted. -/
theorem resolve_involved (f : Facts) (forum : Reference) :
    (∀ (α : Type) [Scalar α] (m : Materials α) (quality : Scores α),
      (∀ e ∈ quality, qualityOk e.2 = true) →
      quality = [] ∨ (∃ e ∈ quality, e.1 ∈ f.candidates m.registry) →
      resolve (m.judging quality) f forum =
        resolve (m.judging (quality.restrict (f.candidates m.registry))) f forum) ∧
    (∀ (m : Materials Rat) (quality : Scores Rat) (r : Resolution Rat),
      quality ≠ [] → (∀ e ∈ quality, e.1 ∉ f.candidates m.registry) →
      resolve (m.judging quality) f forum = .ok r →
      ∃ r', resolve (m.judging (quality.restrict (f.candidates m.registry))) f forum = .ok r' ∧
        r.Uncapped m.policy r') := by
  constructor
  · intro α _ m quality hrange hinvolved
    rcases hinvolved with rfl | ⟨e, he, hcandidate⟩
    · rfl
    · have hkept : ¬ (quality.restrict (f.candidates m.registry)).isEmpty = true := fun hempty =>
        (Scores.isEmpty_restrict quality).mp hempty e he hcandidate
      have hne : ¬ quality.isEmpty = true := fun hempty =>
        List.ne_nil_of_mem he (List.isEmpty_iff.mp hempty)
      rw [resolve_judging, resolve_judging, if_neg hne, if_neg hkept, weighed_restrict forum hrange]
  · intro m quality r hne hnone h
    rw [List.isEmpty_iff.mp ((Scores.isEmpty_restrict quality).mpr hnone)]
    exact uncapped_of_uninvolved hne hnone h

section Injury

open Relationship (reweighted)

/-- An injury, and nothing else, in one of the two states. -/
def injuredOnly : Facts where
  topic := .comparativeNegligence
  contacts := [⟨.placeOfInjury, "US-NY"⟩]

/-- A judgement on a law without contacts, next to one on the law of the injury and alone. -/
theorem resolve_involved_injury :
    (∃ r, resolve (reweighted.judging [("JP", 9 / 10), ("US-NY", 1 / 2)]) injuredOnly
        (.text "US-NY") = .ok r ∧
      resolve (reweighted.judging [("US-NY", 1 / 2)]) injuredOnly (.text "US-NY") = .ok r) ∧
    ∃ r r', resolve (reweighted.judging [("JP", 9 / 10)]) injuredOnly (.text "US-NY") = .ok r ∧
      resolve (reweighted.judging []) injuredOnly (.text "US-NY") = .ok r' ∧
      r.Uncapped reweighted.policy r' := by
  obtain ⟨hsame, hlifted⟩ := resolve_involved injuredOnly (.text "US-NY")
  constructor
  · have hkept : Scores.restrict (injuredOnly.candidates reweighted.registry)
        [("JP", 9 / 10), ("US-NY", 1 / 2)] = [("US-NY", (1 / 2 : Rat))] := by decide +kernel
    obtain ⟨r, hr⟩ := exists_of_isOk (x := resolve (reweighted.judging
      [("JP", 9 / 10), ("US-NY", 1 / 2)]) injuredOnly (.text "US-NY")) (by decide +kernel)
    refine ⟨r, hr, ?_⟩
    rw [← hkept, ← hsame Rat reweighted _ (by decide +kernel) (.inr (by decide +kernel)), hr]
  · obtain ⟨r, hr⟩ := exists_of_isOk (x := resolve (reweighted.judging [("JP", 9 / 10)])
      injuredOnly (.text "US-NY")) (by decide +kernel)
    obtain ⟨r', hr', huncapped⟩ :=
      hlifted reweighted _ r (by decide) (by decide +kernel) hr
    exact ⟨r, r', hr, hr', huncapped⟩

/-- The judgement on the law without contacts lifts the confidence above the cap and halves the
score. -/
theorem resolve_lifts_cap : ∃ r r',
    resolve (reweighted.judging [("JP", 9 / 10)]) injuredOnly (.text "US-NY") = .ok r ∧
    resolve (reweighted.judging (Scores.restrict (injuredOnly.candidates reweighted.registry)
      [("JP", 9 / 10)])) injuredOnly (.text "US-NY") = .ok r' ∧
    r.confidence = 1 ∧ r'.confidence = reweighted.policy.betterLawCap ∧
    reweighted.policy.betterLawCap = 7 / 10 ∧
    r.scores = [("US-NY", 1 / 2)] ∧ r'.scores = [("US-NY", 1)] := by
  have hjudged : (resolve (reweighted.judging [("JP", 9 / 10)]) injuredOnly
      (.text "US-NY")).toOption.map (fun r => (r.confidence, r.scores)) =
        some (1, [("US-NY", 1 / 2)]) := by decide +kernel
  have hunjudged : (resolve (reweighted.judging (Scores.restrict
      (injuredOnly.candidates reweighted.registry) [("JP", 9 / 10)])) injuredOnly
      (.text "US-NY")).toOption.map (fun r => (r.confidence, r.scores)) =
        some (7 / 10, [("US-NY", 1)]) := by decide +kernel
  have hcap : reweighted.policy.betterLawCap = 7 / 10 := by decide +kernel
  obtain ⟨r, hr, hview⟩ := exists_of_map_toOption hjudged
  obtain ⟨r', hr', hview'⟩ := exists_of_map_toOption hunjudged
  obtain ⟨hconfidence, hscores⟩ := Prod.mk.inj hview
  obtain ⟨hconfidence', hscores'⟩ := Prod.mk.inj hview'
  exact ⟨r, r', hr, hr', hconfidence, hconfidence'.trans hcap.symm, hcap, hscores, hscores'⟩

end Injury
end BetterLaw
end ComparativeLaw
