import ComparativeLaw.Proofs.ChoiceOfLaw.Contest
import ComparativeLaw.Proofs.ChoiceOfLaw.Division
import ComparativeLaw.Proofs.Number.Double
import ComparativeLaw.Proofs.Policy
import ComparativeLaw.Proofs.Table

/-!
How the doctrines fail. Once the adjustments are read, an analysis fails only for want of facts or
because of a weighting: the scores of scored candidates are cut to a range in which every number is
equal to itself, so that there always is a winner.
-/
namespace ComparativeLaw

open Checked Scalar

/-- A fault that reports insufficient facts or an invalid weighting. -/
def Fault.Documented (e : Fault) : Prop :=
  ∃ g, e = .failure g ∧ (g.kind = "insufficient_facts" ∨ g.kind = "invalid_weighting")

/-- Numbers of which each is equal to itself once it is cut off at one. -/
def Scalar.Regular (α : Type) [Scalar α] : Prop := ∀ x : α, (clamp 1.0 x == clamp 1.0 x) = true

theorem Scalar.regular_rat : Regular Rat := fun _ => beq_self_eq_true _

theorem Scalar.regular_float : Regular Float := by
  intro x
  have hnumber : Double.IsNumber (clamp 1.0 x) := Double.isNumber_clamp 1.0 x
  exact (Double.beq_iff hnumber hnumber).mpr rfl

section Kinds

variable {α : Type} [Scalar α] {m : Materials α} {f : Facts} {forum : Reference} {e : Fault}

theorem Scoring.exists_clamp_of_score {fs : List (Factor α)} {s : α} (h : score fs = .ok s) :
    ∃ x, s = clamp 1.0 x := by
  obtain ⟨b, hb, rfl⟩ := map_eq_ok.mp h
  obtain ⟨total, -, hb⟩ := bind_eq_ok.mp hb
  simp only at hb
  split at hb
  · cases hb
  · cases hb
    exact ⟨_, rfl⟩

/-- Scores of some candidates, all of them cut off. -/
structure Scores.Clamped (scores : Scores α) : Prop where
  ne_nil : scores ≠ []
  clamped : ∀ e ∈ scores, ∃ x, e.2 = clamp 1.0 x

/-- Scores that were clamped have a best one. -/
theorem Scores.Clamped.exists_standing (hα : Regular α) {scores : Scores α} (h : scores.Clamped)
    (forum : Option String) : ∃ s, Standing.of scores forum = .ok s := by
  refine Standing.exists_of h.ne_nil ?_ forum
  intro e he
  obtain ⟨x, hx⟩ := h.clamped e he
  rw [hx]
  exact hα x

namespace Relationship

/-- Each score was clamped. -/
theorem clamped_of_scoresOf {weight : ContactKind → α} {sorted : SortedContacts α}
    {scores : Scores α} {c : Contact} (hc : c ∈ sorted.usable)
    (h : scoresOf weight sorted = .ok scores) : scores.Clamped := by
  have hcandidate : c.code ∈ sorted.candidates := mem_firstSeen.mpr (List.mem_map_of_mem hc)
  constructor
  case ne_nil =>
    rintro rfl
    have hcodes : ([] : Scores α).map (·.1) = sorted.candidates.map id := by
      apply map_of_mapM_eq_ok h
      intro code _ e he
      obtain ⟨s, -, rfl⟩ := map_eq_ok.mp he
      rfl
    rw [List.map_id, List.map_nil] at hcodes
    rw [← hcodes] at hcandidate
    cases hcandidate
  case clamped =>
    intro e he
    obtain ⟨code, -, hcode⟩ := exists_of_mem_mapM h he
    obtain ⟨s, hs, rfl⟩ := map_eq_ok.mp hcode
    exact Scoring.exists_clamp_of_score hs

theorem clamped_of_score {scored : Scored α} (h : score m f = .ok scored) :
    scored.scores.Clamped := by
  rw [score_eq] at h
  obtain ⟨overrides, -, h⟩ := bind_eq_ok.mp h
  obtain ⟨⟨c, hc, -⟩, scores, hscores, rfl⟩ := scoreSorted_eq_ok.mp h
  exact clamped_of_scoresOf hc hscores

theorem documented_of_score {overrides : List (ContactKind × α)} (hw : m.weights = .ok overrides)
    (h : score m f = .error e) : e.Documented := by
  rw [score_eq, hw] at h
  have h : scoreSorted f.topic _ _ = .error e := h
  unfold scoreSorted at h
  split at h
  · cases h
    exact ⟨_, rfl, .inl rfl⟩
  · split at h
    · cases h
      exact ⟨_, rfl, .inl rfl⟩
    · obtain ⟨g, hg, rfl⟩ := mapError_eq_error.mp (map_eq_error.mp h)
      exact ⟨g, rfl, .inr (kind_of_scoresOf hg)⟩

/-- The strongest relationship fails if the scores do. -/
theorem resolve_eq_error (hα : Regular α) :
    resolve m f forum = .error e ↔ score m f = .error e := by
  cases h : score m f with
  | error e' => simp only [resolve, h, bind, Except.bind, Except.error.injEq]
  | ok scored =>
    -- Nothing can fail after the scoring: there is a winner.
    obtain ⟨standing, hstanding⟩ :=
      (clamped_of_score h).exists_standing hα forum.code.text?
    have hok : ∃ r, resolve m f forum = .ok r :=
      ⟨_, bind_eq_ok.mpr ⟨scored, h, bind_eq_ok.mpr ⟨standing, hstanding, rfl⟩⟩⟩
    obtain ⟨r, hr⟩ := hok
    rw [hr]
    exact ⟨nofun, nofun⟩

end Relationship

namespace BetterLaw

theorem kind_of_checkQuality {quality : Scores α} {g : Failure}
    (h : checkQuality quality = .error g) : g.kind = "invalid_weighting" := by
  unfold checkQuality at h
  split at h
  · cases h
    rfl
  · cases h

theorem kind_of_rescored {weight : α} {quality scores : Scores α} {g : Failure}
    (h : rescored weight quality scores = .error g) : g.kind = "invalid_weighting" := by
  obtain ⟨e, -, he⟩ := exists_of_mapM_eq_error h
  exact Scoring.kind_of_score (map_eq_error.mp he)

theorem clamped_of_rescored {weight : α} {quality scores combined : Scores α}
    (hs : scores.Clamped) (h : rescored weight quality scores = .ok combined) :
    combined.Clamped := by
  constructor
  case ne_nil =>
    rintro rfl
    exact hs.ne_nil (List.map_eq_nil_iff.mp (codes_of_rescored h).symm)
  case clamped =>
    intro e he
    obtain ⟨e', -, he'⟩ := exists_of_mem_mapM h he
    obtain ⟨s, hs, rfl⟩ := map_eq_ok.mp he'
    exact Scoring.exists_clamp_of_score hs

theorem capped_eq_error :
    capped m f forum = .error e ↔ Relationship.resolve m f forum = .error e := by
  cases h : Relationship.resolve m f forum <;>
    simp [capped, h, bind, Except.bind, pure, Except.pure]

/-- Weighing fails for the qualities, then for the scores, then for a blend. -/
theorem weighed_eq_error (hα : Regular α) {quality : Scores α} :
    weighed m quality f forum = .error e ↔
      (∃ g, checkQuality quality = .error g ∧ e = .failure g) ∨
      checkQuality quality = .ok () ∧ (Relationship.score m f = .error e ∨
        ∃ scored g, Relationship.score m f = .ok scored ∧
          rescored m.policy.betterLawWeight quality scored.scores = .error g ∧ e = .failure g) := by
  cases hq : checkQuality quality with
  | error g => simp [weighed, hq, bind, Except.bind, eq_comm]
  | ok _ =>
    cases hs : Relationship.score m f with
    | error e' => simp [weighed, hq, hs, bind, Except.bind]
    | ok scored =>
      cases hr : rescored m.policy.betterLawWeight quality scored.scores with
      | error g => simp [weighed, hq, hs, hr, bind, Except.bind, eq_comm]
      | ok combined =>
        -- What is scored twice is cut off again, and somebody wins.
        have hclamped := clamped_of_rescored (Relationship.clamped_of_score hs) hr
        obtain ⟨standing, hstanding⟩ := hclamped.exists_standing hα forum.code.text?
        simp [weighed, hq, hs, hr, hstanding, bind, Except.bind, pure, Except.pure]

/-- The better law fails for documented reasons only. -/
theorem documented_of_resolve (hα : Regular α) {quality : Scores α}
    {overrides : List (ContactKind × α)} (hq : m.lawQuality = .ok quality)
    (hw : m.weights = .ok overrides) (h : resolve m f forum = .error e) : e.Documented := by
  unfold resolve at h
  rw [hq] at h
  have h : (if quality.isEmpty then capped m f forum else weighed m quality f forum) = .error e := h
  split at h
  · have hscore := (Relationship.resolve_eq_error hα).mp (capped_eq_error.mp h)
    exact Relationship.documented_of_score hw hscore
  · rcases (weighed_eq_error hα).mp h with ⟨g, hg, rfl⟩ | ⟨-, hscore | ⟨scored, g, -, hg, rfl⟩⟩
    · exact ⟨g, rfl, .inr (kind_of_checkQuality hg)⟩
    · exact Relationship.documented_of_score hw hscore
    · exact ⟨g, rfl, .inr (kind_of_rescored hg)⟩

end BetterLaw

/-- The territorial rule fails for want of facts only. -/
theorem Territorial.kind_of_resolve (h : resolve m f = .error e) :
    ∃ g, e = .failure g ∧ g.kind = "insufficient_facts" := by
  simp only [resolve] at h
  split at h
  · cases h
    exact ⟨_, rfl, rfl⟩
  · cases h

/-- The combined approach fails with its second stage, if it comes to that. -/
theorem CombinedModern.resolve_eq_error : resolve m f forum = .error e ↔
    (InterestAnalysis.resolve m f forum).conflict ≠ some .falseConflict ∧
      Relationship.resolve m f forum = .error e := by
  simp only [resolve]
  split
  · next hfalse => simp [hfalse]
  · next hnot => simp [hnot, map_eq_error]

/-- Whatever doctrine is run with readable adjustments, there is a resolution or a documented
failure. -/
theorem Approach.documented_of_resolve (hα : Regular α) {quality : Scores α}
    {overrides : List (ContactKind × α)} (hq : m.lawQuality = .ok quality)
    (hw : m.weights = .ok overrides) (hf : forum.checkKey = .ok ()) {a : Approach}
    (h : a.resolve m f forum = .error e) : e.Documented := by
  cases a with
  | territorial =>
    obtain ⟨g, rfl, hg⟩ := Territorial.kind_of_resolve h
    exact ⟨g, rfl, .inl hg⟩
  | mostSignificantRelationship =>
    exact Relationship.documented_of_score hw ((Relationship.resolve_eq_error hα).mp h)
  | interestAnalysis =>
    rw [resolve, hf] at h
    cases h
  | betterLaw => exact BetterLaw.documented_of_resolve hα hq hw h
  | combinedModern =>
    rw [resolve, hf] at h
    have hsecond := (CombinedModern.resolve_eq_error.mp h).2
    exact Relationship.documented_of_score hw ((Relationship.resolve_eq_error hα).mp hsecond)

end Kinds

namespace Materials

/-- The quality that counts under a code: the last one supplied for a code of that canonical
form. -/
def lastQuality {α : Type} (pairs : List (String × α)) (code : String) : Option α :=
  (pairs.reverse.find? fun e => canonicalCode e.1 = code).map (·.2)

/-- A table of qualities has the last one of each code. -/
theorem mem_quality {α : Type} {pairs : List (String × α)} {code : String} {q : α} :
    (code, q) ∈ quality pairs ↔ lastQuality pairs code = some q := by
  unfold quality lastQuality
  rw [Table.mem_ofList, ← List.map_reverse, List.find?_map, Option.map_map]
  simp only [Function.comp_def]

/-- Materials with the adjustments of a caller, under the policy of an environment. -/
def adjusted {α : Type} [Scalar α] (registry : Option Registry) (catalog : Option Catalog)
    (env : Environment) (pairs : List (String × α)) (overrides : List (ContactKind × α)) :
    Materials α where
  registry
  catalog
  policy := .ofEnvironment env
  lawQuality := .ok (quality pairs)
  weights := .ok overrides

end Materials

section Exact

variable {m : Materials Rat} {f : Facts} {forum : Reference} {e : Fault}

namespace BetterLaw

theorem qualityOk_rat {q : Rat} : qualityOk q = true ↔ 0 ≤ q ∧ q ≤ 1 := by
  simp [qualityOk]

theorem checkQuality_eq_ok {quality : Scores Rat} :
    checkQuality quality = .ok () ↔ ∀ e ∈ quality, 0 ≤ e.2 ∧ e.2 ≤ 1 := by
  unfold checkQuality
  cases hbad : quality.find? fun e => !qualityOk e.2 with
  | none =>
    have hall := List.find?_eq_none.mp hbad
    simp only [Bool.not_eq_true', Bool.not_eq_false, qualityOk_rat] at hall
    exact iff_of_true rfl hall
  | some e =>
    have hmem := List.mem_of_find?_eq_some hbad
    have hnot := List.find?_some hbad
    refine iff_of_false nofun fun hall => ?_
    rw [qualityOk_rat.mpr (hall e hmem)] at hnot
    cases hnot

/-- Fractions can be blended. -/
theorem exists_combine {weight quality relationship : Rat} (hw : 0 ≤ weight)
    (hq : 0 ≤ quality ∧ quality ≤ 1) (hr : 0 ≤ relationship ∧ relationship ≤ 1) :
    ∃ s, combine weight quality relationship = .ok s := by
  refine ⟨_, Scoring.score_eq_ok.mpr ⟨?_, ?_, rfl⟩⟩
  · intro f hf
    simp only [List.mem_cons, List.not_mem_nil, or_false] at hf
    rcases hf with rfl | rfl
    · exact ⟨by simp, hr.1, hr.2⟩
    · exact ⟨hw, hq.1, hq.2⟩
  · -- The share alone has a positive weight.
    show 0 < (1.0 : Rat) + (weight + 0)
    rw [one_rat, add_zero]
    exact add_pos_of_pos_of_nonneg one_pos hw

/-- So can scores with qualities that are fractions. -/
theorem exists_rescored {weight : Rat} {quality scores : Scores Rat} (hw : 0 ≤ weight)
    (hq : ∀ e ∈ quality, 0 ≤ e.2 ∧ e.2 ≤ 1) (hs : ∀ e ∈ scores, 0 ≤ e.2 ∧ e.2 ≤ 1) :
    ∃ combined, rescored weight quality scores = .ok combined := by
  have hof (code : String) : 0 ≤ qualityOf quality code ∧ qualityOf quality code ≤ 1 := by
    unfold qualityOf
    cases hget : Table.get? quality code with
    | none => simp
    | some q => exact hq _ (Table.mem_of_get? hget)
  have hone : ∀ e ∈ scores, ∃ y, (combine weight (qualityOf quality e.1) e.2).map
      (fun s => (e.1, s)) = .ok y ∧ y.1 = e.1 := by
    intro e he
    obtain ⟨s, hs⟩ := exists_combine hw (hof e.1) (hs e he)
    exact ⟨(e.1, s), map_eq_ok.mpr ⟨s, hs, rfl⟩, rfl⟩
  obtain ⟨combined, hcombined, -⟩ := exists_mapM_eq_ok _ _ _ hone
  exact ⟨combined, hcombined⟩

/-- With qualities in range the better law fails if the relationship does. -/
theorem resolve_eq_error {quality : Scores Rat} (hq : m.lawQuality = .ok quality)
    (hweight : 0 ≤ m.policy.betterLawWeight) (hrange : ∀ e ∈ quality, 0 ≤ e.2 ∧ e.2 ≤ 1) :
    resolve m f forum = .error e ↔ Relationship.resolve m f forum = .error e := by
  have hbranch : resolve m f forum =
      if quality.isEmpty then capped m f forum else weighed m quality f forum := by
    unfold resolve
    rw [hq]
    rfl
  rw [hbranch]
  split
  · exact capped_eq_error
  · rw [weighed_eq_error regular_rat, Relationship.resolve_eq_error regular_rat]
    have hchecked := checkQuality_eq_ok.mpr hrange
    constructor
    · rintro (⟨g, hg, -⟩ | ⟨-, hscore | ⟨scored, g, hscored, hg, -⟩⟩)
      · rw [hchecked] at hg
        cases hg
      · exact hscore
      · -- Shares and qualities all lie in range, so they can be combined.
        have hsound := Relationship.sound_of_score hscored
        obtain ⟨combined, hcombined⟩ := exists_rescored hweight hrange hsound.score_mem
        rw [hcombined] at hg
        cases hg
    · intro hscore
      exact .inr ⟨hchecked, .inl hscore⟩

/-- A quality out of range is refused. -/
theorem refuses_of_quality {quality : Scores Rat} (hq : m.lawQuality = .ok quality)
    (hrange : ∃ e ∈ quality, ¬ (0 ≤ e.2 ∧ e.2 ≤ 1)) :
    ∃ g, resolve m f forum = .error (.failure g) ∧ g.kind = "invalid_weighting" := by
  obtain ⟨e, he, hout⟩ := hrange
  have hne : quality.isEmpty = false := by
    cases quality with
    | nil => cases he
    | cons _ _ => rfl
  cases hcheck : checkQuality quality with
  | ok _ => exact absurd (checkQuality_eq_ok.mp hcheck e he) hout
  | error g =>
    refine ⟨g, ?_, kind_of_checkQuality hcheck⟩
    have hweighed : weighed m quality f forum = .error (.failure g) :=
      (weighed_eq_error regular_rat).mpr (.inl ⟨g, hcheck, rfl⟩)
    unfold resolve
    rw [hq]
    show (if quality.isEmpty then _ else _) = _
    rw [hne]
    exact hweighed

end BetterLaw

/-- How the analysis of a dispute fails before a forum, doctrine by doctrine. -/
structure FailsAsDocumented (m : Materials Rat) (quality : String → Option Rat) (f : Facts)
    (s : String) : Prop where
  interest : ∃ r, analyze m .interestAnalysis f (.text s) = .ok r
  territorial : ∀ e, analyze m .territorial f (.text s) = .error e →
    ∃ g, e = .failure g ∧ g.kind = "insufficient_facts"
  outOfRange : (∃ code q, quality code = some q ∧ ¬ (0 ≤ q ∧ q ≤ 1)) →
    ∃ g, analyze m .betterLaw f (.text s) = .error (.failure g) ∧ g.kind = "invalid_weighting"
  betterLaw : (∀ code q, quality code = some q → 0 ≤ q ∧ q ≤ 1) → ∀ e,
    analyze m .betterLaw f (.text s) = .error e ↔
      analyze m .mostSignificantRelationship f (.text s) = .error e
  combined : ∀ e, analyze m .combinedModern f (.text s) = .error e ↔
    (∃ first, analyze m .interestAnalysis f (.text s) = .ok first ∧
      first.conflict ≠ some .falseConflict) ∧
    analyze m .mostSignificantRelationship f (.text s) = .error e
  /-- No fault of another sort leaves any doctrine. -/
  documented : ∀ a e, analyze m a f (.text s) = .error e → e.Documented
  /-- Nothing is divided by zero: what that would give does not matter. -/
  division : ∀ div, (∀ a b, b ≠ 0 → div a b = a / b) → ∀ a,
    @analyze Rat (dividing div) m a f (.text s) = analyze m a f (.text s)

/-- For all registries, catalogues, environments, facts and forums, and all numbers as adjustments,
the analysis fails only in the documented ways. A quality that is replaced by a later one for the
same canonical code does not count. -/
theorem analyze_fails_as_documented (registry : Option Registry) (catalog : Option Catalog)
    (env : Environment) (pairs : List (String × Rat)) (overrides : List (ContactKind × Rat))
    (f : Facts) (s : String) :
    FailsAsDocumented (.adjusted registry catalog env pairs overrides)
      (Materials.lastQuality pairs) f s := by
  let given : Materials Rat := .adjusted registry catalog env pairs overrides
  -- What the doctrine is run with: the registry is the one that an analysis consults.
  let m : Materials Rat :=
    { given with registry := some (Registry.orKnownWith registry catalog) }
  have herror (a : Approach) (e : Fault) :
      analyze given a f (.text s) = .error e ↔ a.resolve m f (.text s) = .error e := map_eq_error
  have hq : m.lawQuality = .ok (Materials.quality pairs) := rfl
  have hweight : 0 ≤ m.policy.betterLawWeight :=
    Policy.value_nonneg (by simp [Policy.settings]) env
  -- The clauses come from one lemma for each approach.
  constructor
  case interest => exact ⟨_, rfl⟩
  case territorial =>
    intro e he
    exact Territorial.kind_of_resolve ((herror _ e).mp he)
  case outOfRange =>
    rintro ⟨code, q, hlast, hout⟩
    have hmem : (code, q) ∈ Materials.quality pairs := Materials.mem_quality.mpr hlast
    obtain ⟨g, hg, hkind⟩ := BetterLaw.refuses_of_quality hq ⟨(code, q), hmem, hout⟩
    exact ⟨g, (herror _ _).mpr hg, hkind⟩
  case betterLaw =>
    intro hrange e
    have hrange : ∀ e ∈ Materials.quality pairs, 0 ≤ e.2 ∧ e.2 ≤ 1 :=
      fun e he => hrange e.1 e.2 (Materials.mem_quality.mp he)
    have hsame : BetterLaw.resolve m f (.text s) = .error e ↔
        Relationship.resolve m f (.text s) = .error e :=
      BetterLaw.resolve_eq_error hq hweight hrange
    exact (herror .betterLaw e).trans
      (hsame.trans (herror .mostSignificantRelationship e).symm)
  case combined =>
    intro e
    have hsecond := (herror .mostSignificantRelationship e).symm
    refine (herror .combinedModern e).trans
      (CombinedModern.resolve_eq_error.trans (and_congr ?_ hsecond))
    constructor
    · intro hne
      exact ⟨_, rfl, hne⟩
    · rintro ⟨first, hfirst, hne⟩
      cases hfirst
      exact hne
  case documented =>
    intro a e he
    exact a.documented_of_resolve regular_rat hq rfl rfl ((herror a e).mp he)
  case division =>
    intro div hdiv a
    exact analyze_dividing hdiv given a f (.text s)

/-- One law judged twice, the first time out of range. -/
def judgedTwice : List (String × Rat) := [("us-ny", 5), ("US-NY", 1 / 2)]

/-- A quality out of range does no harm if a later one of the same code replaces it. -/
theorem analyze_ignores_replaced_quality : (∃ e ∈ judgedTwice, ¬ (0 ≤ e.2 ∧ e.2 ≤ 1)) ∧
    ∃ r, analyze (.adjusted (some .twoStates) none [] judgedTwice []) .betterLaw
      Relationship.dispute (.text "US-CA") = .ok r := by
  refine ⟨⟨("us-ny", 5), by simp [judgedTwice], by norm_num⟩, ?_⟩
  exact exists_of_isOk (by decide +kernel)

end Exact
end ComparativeLaw
