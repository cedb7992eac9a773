import ComparativeLaw.Proofs.ChoiceOfLaw.Failing
import ComparativeLaw.Proofs.ChoiceOfLaw.Recognised
import ComparativeLaw.Proofs.ChoiceOfLaw.Weights
import ComparativeLaw.Proofs.Number.Extended

namespace ComparativeLaw

open Checked Scalar

namespace Factor

variable {f : Factor Extended}

/-- A weight passes if it is a finite number that is not negative. -/
theorem weightOk_extended : f.weightOk = true ↔ ∃ q, 0 ≤ q ∧ f.weight = .finite q := by
  unfold weightOk
  rw [Bool.and_eq_true, Extended.isFinite_iff, Extended.zero_eq]
  constructor
  · rintro ⟨⟨q, hq⟩, hnot⟩
    rw [hq, Bool.not_eq_true', decide_eq_false_iff_not, Extended.lt_finite, not_lt] at hnot
    exact ⟨q, hnot, hq⟩
  · rintro ⟨q, hnonneg, hq⟩
    rw [hq, Bool.not_eq_true', decide_eq_false_iff_not, Extended.lt_finite, not_lt]
    exact ⟨⟨q, rfl⟩, hnonneg⟩

theorem check_extended (hi : f.indicatorOk = true) :
    f.check = .ok () ↔ ∃ q, 0 ≤ q ∧ f.weight = .finite q := by
  rw [← weightOk_extended, check, hi]
  cases f.weightOk with
  | false => exact iff_of_false nofun nofun
  | true => exact iff_of_true rfl rfl

end Factor

def Materials.overriding {α : Type} (m : Materials α) (overrides : List (ContactKind × α)) :
    Materials α :=
  { m with weights := .ok overrides }

namespace Relationship

section Outcomes

variable {α : Type} [Scalar α] {topic : Topic} {weight : ContactKind → α}
  {sorted : SortedContacts α}

/-- The candidates have scores if each of them has, on a condition that is the same for all. -/
theorem exists_scoresOf_iff {P : Prop} (hne : sorted.usable ≠ []) (hone : ∀ code,
    (∃ s, Scoring.score (factorsFor weight sorted.usable code) = .ok s) ↔ P) :
    (∃ scores, scoresOf weight sorted = .ok scores) ↔ P := by
  constructor
  · rintro ⟨scores, hscores⟩
    obtain ⟨c, hc⟩ := List.exists_mem_of_ne_nil _ hne
    have hcandidate : c.code ∈ sorted.candidates := mem_firstSeen.mpr (List.mem_map_of_mem hc)
    obtain ⟨e, he⟩ := exists_ok_of_mem hscores hcandidate
    obtain ⟨s, hs, -⟩ := map_eq_ok.mp he
    exact (hone c.code).mp ⟨s, hs⟩
  · intro hP
    have heach : ∀ code ∈ sorted.candidates, ∃ e,
        (Scoring.score (factorsFor weight sorted.usable code)).map (fun s => (code, s)) = .ok e ∧
          e.1 = code := by
      intro code _
      obtain ⟨s, hs⟩ := (hone code).mpr hP
      exact ⟨(code, s), map_eq_ok.mpr ⟨s, hs, rfl⟩, rfl⟩
    obtain ⟨scores, hscores, -⟩ := exists_mapM_eq_ok _ Prod.fst id heach
    exact ⟨scores, hscores⟩

/-- Facts are wanting exactly if no usable contact counts, be it that there is none. -/
theorem insufficient_scoreSorted : (∃ g, scoreSorted topic weight sorted = .error (.failure g) ∧
    g.kind = "insufficient_facts") ↔
      ∀ c ∈ sorted.usable, irrelevant weight (ContactKind.baseWeight topic.category) c = true := by
  unfold scoreSorted
  constructor
  · rintro ⟨g, hg, hkind⟩
    split at hg
    · next hnil =>
      intro c hc
      rw [List.isEmpty_iff.mp hnil] at hc
      cases hc
    · split at hg
      · next hall => exact List.all_eq_true.mp hall
      · obtain ⟨g', hg', heq⟩ := mapError_eq_error.mp (map_eq_error.mp hg)
        cases heq
        rw [kind_of_scoresOf hg'] at hkind
        exact absurd hkind (by decide)
  · intro hall
    split
    · exact ⟨_, rfl, rfl⟩
    · rw [if_pos (List.all_eq_true.mpr hall)]
      exact ⟨_, rfl, rfl⟩

/-- Sorted contacts are scored by the weights of their own kinds. -/
theorem scoreSorted_congr {weight' : ContactKind → α}
    (h : ∀ c ∈ sorted.usable, weight c.kind = weight' c.kind) :
    scoreSorted topic weight sorted = scoreSorted topic weight' sorted := by
  have hirrelevant : sorted.usable.all (irrelevant weight (ContactKind.baseWeight topic.category)) =
      sorted.usable.all (irrelevant weight' (ContactKind.baseWeight topic.category)) := by
    rw [Bool.eq_iff_iff, List.all_eq_true, List.all_eq_true]
    refine forall₂_congr fun c hc => ?_
    rw [irrelevant, h c hc, irrelevant]
  have hscores : scoresOf weight sorted = scoresOf weight' sorted := by
    unfold scoresOf
    congr 1
    funext code
    have hfactors :
        factorsFor weight sorted.usable code = factorsFor weight' sorted.usable code := by
      apply List.map_congr_left
      intro c hc
      rw [h c hc]
    rw [hfactors]
  have htotal : (sorted.usable.map fun c => weight c.kind) =
      sorted.usable.map fun c => weight' c.kind := List.map_congr_left h
  have hlines (total : α) :
      sorted.usable.map (usableLine weight total) =
        sorted.usable.map (usableLine weight' total) := by
    apply List.map_congr_left
    intro c hc
    rw [usableLine, h c hc, usableLine]
  simp only [scoreSorted, hirrelevant, hscores, htotal, hlines]

end Outcomes

section Weights

variable {weight : ContactKind → Extended} {cs : List Contact}

/-- Contacts that can be scored by what their kinds weigh: no weight is below zero or not finite,
and some weight is above zero. -/
structure Weighable (weighs : ContactKind → Extended → Prop) (cs : List Contact) : Prop where
  sound : ∀ c ∈ cs, ∃ q, 0 ≤ q ∧ weighs c.kind (.finite q)
  positive : ∃ c ∈ cs, ∃ q, 0 < q ∧ weighs c.kind (.finite q)

theorem check_factorsFor (code : String) :
    (∀ f ∈ factorsFor weight cs code, f.check = .ok ()) ↔
      ∀ c ∈ cs, ∃ q, 0 ≤ q ∧ weight c.kind = .finite q := by
  simp only [factorsFor, List.forall_mem_map]
  refine forall₂_congr fun c _ => Factor.check_extended ?_
  -- An indicator is one or zero.
  unfold Factor.indicatorOk
  by_cases h : c.code = code
  · simp only [if_pos h]
    decide +kernel
  · simp only [if_neg h]
    decide +kernel

theorem totalWeight_factorsFor (h : ∀ c ∈ cs, ∃ q, 0 ≤ q ∧ weight c.kind = .finite q)
    (code : String) : Scoring.totalWeight (factorsFor weight cs code) =
      .finite (load (fun kind => (weight kind).toRat) cs) := by
  have hweights : (factorsFor weight cs code).map (·.weight) =
      (cs.map fun c => (weight c.kind).toRat).map Extended.finite := by
    rw [factorsFor, List.map_map, List.map_map]
    apply List.map_congr_left
    intro c hc
    obtain ⟨q, -, hq⟩ := h c hc
    show weight c.kind = .finite (weight c.kind).toRat
    rw [hq, Extended.toRat_finite]
  rw [Scoring.totalWeight, hweights, Extended.sum_finite, load]

/-- Weights that pass add up to something if one of them is something. -/
theorem totalWeight_pos_iff (h : ∀ c ∈ cs, ∃ q, 0 ≤ q ∧ weight c.kind = .finite q)
    (code : String) : ¬ Scoring.totalWeight (factorsFor weight cs code) ≤ 0.0 ↔
      ∃ c ∈ cs, ∃ q, 0 < q ∧ weight c.kind = .finite q := by
  have hnonneg : ∀ c ∈ cs, 0 ≤ (weight c.kind).toRat := by
    intro c hc
    obtain ⟨q, h0, hq⟩ := h c hc
    rw [hq]
    exact h0
  rw [totalWeight_factorsFor h, Extended.zero_eq, Extended.le_finite, not_le,
    load_pos_iff _ hnonneg]
  refine exists_congr fun c => and_congr_right fun hc => ?_
  obtain ⟨q, -, hq⟩ := h c hc
  simp [hq]

/-- A candidate is scored if its contacts are weighable. -/
theorem exists_score_factorsFor (code : String) :
    (∃ s, Scoring.score (factorsFor weight cs code) = .ok s) ↔ Weighable (weight · = ·) cs := by
  rw [Scoring.exists_score_iff, check_factorsFor]
  constructor
  · rintro ⟨hsound, htotal⟩
    exact ⟨hsound, (totalWeight_pos_iff hsound code).mp htotal⟩
  · rintro ⟨hsound, hpositive⟩
    exact ⟨hsound, (totalWeight_pos_iff hsound code).mpr hpositive⟩

/-- A contact with a weight above zero counts. -/
theorem Weighable.exists_relevant (h : Weighable (weight · = ·) cs) (base : ContactKind → Extended) :
    ∃ c ∈ cs, irrelevant weight base c = false := by
  obtain ⟨c, hc, q, hpos, hq⟩ := h.positive
  refine ⟨c, hc, ?_⟩
  rw [irrelevant, hq, Bool.and_eq_false_iff, decide_eq_false_iff_not, Extended.zero_eq,
    Extended.le_finite, not_le]
  exact .inl hpos

/-- So are all candidates together. -/
theorem exists_scoreSorted {topic : Topic} {sorted : SortedContacts Extended} :
    (∃ scored, scoreSorted topic weight sorted = .ok scored) ↔
      Weighable (weight · = ·) sorted.usable := by
  constructor
  · rintro ⟨scored, h⟩
    obtain ⟨⟨c, hc, -⟩, scores, hscores, -⟩ := scoreSorted_eq_ok.mp h
    exact (exists_scoresOf_iff (List.ne_nil_of_mem hc) exists_score_factorsFor).mp ⟨scores, hscores⟩
  · intro h
    obtain ⟨c, hc, hrelevant⟩ := h.exists_relevant (ContactKind.baseWeight topic.category)
    obtain ⟨scores, hscores⟩ :=
      (exists_scoresOf_iff (List.ne_nil_of_mem hc) exists_score_factorsFor).mpr h
    exact ⟨_, scoreSorted_eq_ok.mpr ⟨⟨c, hc, hrelevant⟩, scores, hscores, rfl⟩⟩

end Weights

section Endings

def usable (registry : Option Registry) (f : Facts) : List Contact :=
  (f.recognised registry).contacts

/-- The facts are wanting: there is no usable contact, or none that counts with overrides or
without. -/
def Wanting (registry : Option Registry) (overrides : List (ContactKind × Extended)) (f : Facts) :
    Prop :=
  usable registry f = [] ∨ ∀ c ∈ usable registry f,
    (∃ w, ContactKind.Weighs f.category overrides c.kind w ∧ w ≤ 0.0) ∧
      (ContactKind.baseWeight f.category c.kind : Extended) ≤ 0.0

/-- How scoring with overrides ends, by what the kinds of the usable contacts weigh. -/
structure EndsAsWeighed (m : Materials Extended) (overrides : List (ContactKind × Extended))
    (f : Facts) : Prop where
  scored : (∃ scored, score (m.overriding overrides) f = .ok scored) ↔
    usable m.registry f ≠ [] ∧
      Weighable (ContactKind.Weighs f.category overrides) (usable m.registry f)
  insufficient : (∃ g, score (m.overriding overrides) f = .error (.failure g) ∧
      g.kind = "insufficient_facts") ↔
    Wanting m.registry overrides f
  invalid : (∃ g, score (m.overriding overrides) f = .error (.failure g) ∧
      g.kind = "invalid_weighting") ↔
    ¬ Wanting m.registry overrides f ∧
      ¬ Weighable (ContactKind.Weighs f.category overrides) (usable m.registry f)
  /-- No fault of another sort is raised. -/
  documented : ∀ e, score (m.overriding overrides) f = .error e → e.Documented
  /-- Overrides for kinds that no usable contact has are of no effect, but for the weights that the
  lines of excluded contacts show. -/
  overridden : ∀ overrides',
    overrides.filter (fun e => (usable m.registry f).any fun c => c.kind = e.1) =
      overrides'.filter (fun e => (usable m.registry f).any fun c => c.kind = e.1) →
    score (m.overriding overrides) (f.recognised m.registry) =
        score (m.overriding overrides') (f.recognised m.registry) ∧
      Alike (fun s s' => ∃ t, Scored.Agrees (f.unknown m.registry) s t ∧
          Scored.Agrees (f.unknown m.registry) s' t)
        (score (m.overriding overrides) f) (score (m.overriding overrides') f)

variable {m : Materials Extended} {overrides overrides' : List (ContactKind × Extended)} {f : Facts}

theorem score_overriding : score (m.overriding overrides) f =
    scoreSorted f.topic (ContactKind.weight f.category overrides)
      (.ofFacts f m.registry (ContactKind.weight f.category overrides)) := by
  rw [score_eq]
  rfl

theorem weighs_eq : ContactKind.Weighs f.category overrides =
    (ContactKind.weight f.category overrides · = ·) := by
  funext k w
  exact propext ContactKind.weighs_iff

/-- Facts are wanting if no usable contact is relevant by the table. -/
theorem wanting_iff : Wanting m.registry overrides f ↔ ∀ c ∈ usable m.registry f,
    irrelevant (ContactKind.weight f.category overrides)
      (ContactKind.baseWeight f.topic.category) c = true := by
  have hirrelevant (c : Contact) : irrelevant (ContactKind.weight f.category overrides)
      (ContactKind.baseWeight f.topic.category) c = true ↔
        (∃ w, ContactKind.Weighs f.category overrides c.kind w ∧ w ≤ 0.0) ∧
          (ContactKind.baseWeight f.category c.kind : Extended) ≤ 0.0 := by
    simp only [ContactKind.weighs_iff, exists_eq_left']
    rw [irrelevant, Bool.and_eq_true, decide_eq_true_iff, decide_eq_true_iff, Facts.category]
  simp only [hirrelevant]
  constructor
  · rintro (hnil | hall)
    · rw [hnil]
      exact List.forall_mem_nil _
    · exact hall
  · exact .inr

/-- Overrides of kinds that no usable contact has do not matter. -/
theorem score_recognised_overriding
    (h : overrides.filter (fun e => (usable m.registry f).any fun c => c.kind = e.1) =
      overrides'.filter (fun e => (usable m.registry f).any fun c => c.kind = e.1)) :
    score (m.overriding overrides) (f.recognised m.registry) =
      score (m.overriding overrides') (f.recognised m.registry) := by
  have hweight : ∀ c ∈ usable m.registry f, ContactKind.weight f.category overrides c.kind =
      ContactKind.weight f.category overrides' c.kind := by
    intro c hc
    refine ContactKind.weight_congr h (fun w => ?_) f.category
    exact List.any_eq_true.mpr ⟨c, hc, decide_eq_true rfl⟩
  -- Nothing is excluded, so that the weights are read for the usable contacts only.
  have hsorted (given : List (ContactKind × Extended)) :
      SortedContacts.ofFacts (f.recognised m.registry) m.registry
        (ContactKind.weight f.category given) = ⟨usable m.registry f, [], []⟩ := by
    rw [SortedContacts.ofFacts_eq, Facts.unknown_recognised, Facts.recognised_recognised]
    rfl
  rw [score_overriding, score_overriding]
  show scoreSorted f.topic (ContactKind.weight f.category overrides) (.ofFacts _ _
      (ContactKind.weight f.category overrides)) = scoreSorted f.topic
    (ContactKind.weight f.category overrides') (.ofFacts _ _
      (ContactKind.weight f.category overrides'))
  rw [hsorted, hsorted]
  exact scoreSorted_congr hweight

/-- What may fail in two ways fails in the second one if it neither succeeds nor fails in the
first. -/
theorem invalid_iff_of_documented {β : Type} {x : Except Fault β}
    (hdocumented : ∀ e, x = .error e → e.Documented) :
    (∃ g, x = .error (.failure g) ∧ g.kind = "invalid_weighting") ↔
      (¬ ∃ g, x = .error (.failure g) ∧ g.kind = "insufficient_facts") ∧
        ¬ ∃ b, x = .ok b := by
  constructor
  · rintro ⟨g, rfl, hkind⟩
    refine ⟨?_, nofun⟩
    rintro ⟨g', hg', hkind'⟩
    cases hg'
    rw [hkind] at hkind'
    exact absurd hkind' (by decide)
  · rintro ⟨hwanting, hfails⟩
    cases x with
    | ok b => exact absurd ⟨b, rfl⟩ hfails
    | error e =>
      obtain ⟨g, rfl, hkind | hkind⟩ := hdocumented e rfl
      · exact absurd ⟨g, rfl, hkind⟩ hwanting
      · exact ⟨g, rfl, hkind⟩

/-- For all registries, facts and overrides, numbers or not, scoring succeeds, lacks facts or
refuses the weights just as the weights of the usable contacts say. -/
theorem score_ends_as_weighed (m : Materials Extended)
    (overrides : List (ContactKind × Extended)) (f : Facts) : EndsAsWeighed m overrides f := by
  -- Success and the want of facts are read off the sorted contacts; what is left is a bad weight.
  have hscored : (∃ scored, score (m.overriding overrides) f = .ok scored) ↔
      Weighable (ContactKind.Weighs f.category overrides) (usable m.registry f) := by
    rw [score_overriding, weighs_eq]
    exact exists_scoreSorted
  have hinsufficient : (∃ g, score (m.overriding overrides) f = .error (.failure g) ∧
      g.kind = "insufficient_facts") ↔ Wanting m.registry overrides f := by
    rw [wanting_iff, score_overriding]
    exact insufficient_scoreSorted
  have hdocumented : ∀ e, score (m.overriding overrides) f = .error e → e.Documented :=
    fun e he => documented_of_score rfl he
  constructor
  case scored =>
    rw [hscored]
    constructor
    · intro h
      obtain ⟨c, hc, -⟩ := h.positive
      exact ⟨List.ne_nil_of_mem hc, h⟩
    · exact And.right
  case insufficient => exact hinsufficient
  case invalid =>
    rw [← hscored, ← hinsufficient]
    exact invalid_iff_of_documented hdocumented
  case documented => exact hdocumented
  case overridden =>
    -- Both runs go like the ones without excluded contacts, and these are the same run.
    intro overrides' h
    have hsame := score_recognised_overriding h
    refine ⟨hsame, (score_recognised (m.overriding overrides) f).join ?_⟩
    show Alike _ _ (score (m.overriding overrides) (f.recognised m.registry))
    rw [hsame]
    exact score_recognised (m.overriding overrides') f

def twoStates : Materials Extended := .adjusted (some .twoStates) none [] [] []

theorem usable_dispute : usable (some .twoStates) dispute = [⟨.placeOfInjury, "US-NY"⟩,
    ⟨.placeOfConduct, "US-CA"⟩, ⟨.domicileOfPlaintiff, "US-NY"⟩] := by
  decide +kernel

/-- The built-in weight of an injury keeps the facts from being wanting, whatever is overridden. -/
theorem not_wanting_dispute (overrides : List (ContactKind × Extended)) :
    ¬ Wanting (some .twoStates) overrides dispute := by
  have hbase : ¬ (ContactKind.baseWeight dispute.category .placeOfInjury : Extended) ≤ 0.0 := by
    decide +kernel
  rw [Wanting, usable_dispute]
  rintro (hnil | hall)
  · cases hnil
  · exact hbase (hall _ List.mem_cons_self).2

/-- What is no number does no harm as the weight of a kind that no usable contact has. As that of a
kind that some contact has it is refused, also where a sound one stands before it, and so is a number
below zero; zeros are refused if they are the weights of all these kinds. -/
theorem score_ends_as_weighed_dispute :
    (∃ scored, score (twoStates.overriding [(.placeOfPerformance, .nan)]) dispute = .ok scored) ∧
    (∀ w ∈ [Extended.nan, .finite (-1)], ∃ g, score (twoStates.overriding
        [(.placeOfInjury, .finite 1), (.placeOfInjury, w)]) dispute = .error (.failure g) ∧
      g.kind = "invalid_weighting") ∧
    ∃ g, score (twoStates.overriding [(.placeOfInjury, .finite 0), (.placeOfConduct, .finite 0),
        (.domicileOfPlaintiff, .finite 0)]) dispute = .error (.failure g) ∧
      g.kind = "invalid_weighting" := by
  refine ⟨?_, fun w hw => ?_, ?_⟩
  · -- No usable contact is a place of performance, so the three kinds keep their weights.
    have hne : usable (some .twoStates) dispute ≠ [] := by
      rw [usable_dispute]
      exact List.cons_ne_nil _ _
    refine (score_ends_as_weighed _ _ dispute).scored.mpr ⟨hne, ?_⟩
    have hinjury : ContactKind.weight dispute.category [(.placeOfPerformance, Extended.nan)]
        .placeOfInjury = .finite 3 := by decide +kernel
    have hconduct : ContactKind.weight dispute.category [(.placeOfPerformance, Extended.nan)]
        .placeOfConduct = .finite 2 := by decide +kernel
    have hdomicile : ContactKind.weight dispute.category [(.placeOfPerformance, Extended.nan)]
        .domicileOfPlaintiff = .finite (3 / 2) := by decide +kernel
    show Weighable _ (usable (some .twoStates) dispute)
    rw [weighs_eq, usable_dispute]
    refine ⟨?_, ⟨_, List.mem_cons_self, 3, by norm_num, hinjury⟩⟩
    simp only [List.forall_mem_cons]
    exact ⟨⟨3, by norm_num, hinjury⟩, ⟨2, by norm_num, hconduct⟩,
      ⟨3 / 2, by norm_num, hdomicile⟩, List.forall_mem_nil _⟩
  · -- The later override of the injury is what it weighs, and no number from zero on.
    refine (score_ends_as_weighed _ _ dispute).invalid.mpr ⟨not_wanting_dispute _, ?_⟩
    rintro ⟨hsound, -⟩
    have hinjury : ⟨.placeOfInjury, "US-NY"⟩ ∈ usable (some .twoStates) dispute := by
      rw [usable_dispute]
      exact List.mem_cons_self
    obtain ⟨q, hnonneg, hq⟩ := hsound _ hinjury
    have hlast : ContactKind.Weighs dispute.category [(.placeOfInjury, .finite 1),
        (.placeOfInjury, w)] .placeOfInjury w :=
      .overridden [(.placeOfInjury, .finite 1)] [] rfl (List.forall_mem_nil _)
    obtain rfl : w = .finite q := hlast.weight_eq.symm.trans hq.weight_eq
    rcases List.mem_pair.mp hw with hnan | hneg
    · cases hnan
    · have hneg : q = -1 := Extended.finite.inj hneg
      rw [hneg] at hnonneg
      exact absurd hnonneg (by norm_num)
  · refine (score_ends_as_weighed _ _ dispute).invalid.mpr ⟨not_wanting_dispute _, ?_⟩
    rintro ⟨-, c, hc, q, hpos, hq⟩
    -- Each kind weighs nothing by itself, so that none is positive.
    have hzero : ∀ c ∈ usable (some .twoStates) dispute, ContactKind.weight dispute.category
        [(.placeOfInjury, .finite 0), (.placeOfConduct, .finite 0),
          (.domicileOfPlaintiff, .finite 0)] c.kind = Extended.finite 0 := by
      rw [usable_dispute]
      decide +kernel
    have hq := (hzero c hc).symm.trans (ContactKind.weighs_iff.mp hq)
    cases hq
    exact lt_irrefl _ hpos

end Endings
end Relationship
end ComparativeLaw
