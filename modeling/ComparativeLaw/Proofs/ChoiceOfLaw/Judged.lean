import ComparativeLaw.Proofs.ChoiceOfLaw.Raised
import Mathlib.Order.Monotone.Basic

namespace ComparativeLaw

open Checked Scalar

namespace Standing

section Increasing

variable {g : Rat → Rat} {scores : Scores Rat}

theorem largest?_map (hg : Monotone g) (xs : List Rat) :
    largest? (xs.map g) = (largest? xs).map g := by
  cases xs with
  | nil => rfl
  | cons x xs =>
    have hlarger (a b : Rat) : larger (g a) (g b) = g (larger a b) := by
      rw [larger_rat, larger_rat, hg.map_max]
    show some ((xs.map g).foldl larger (g x)) = some (g (xs.foldl larger x))
    rw [List.foldl_map, List.foldl_hom g hlarger]

theorem tied_map (hg : Function.Injective g) (top : Rat) :
    tied (scores.map fun e => (e.1, g e.2)) (g top) = tied scores top := by
  have hsame : ((fun e : String × Rat => e.2 == g top) ∘ fun e => (e.1, g e.2)) =
      fun e : String × Rat => e.2 == top := by
    funext e
    exact Bool.eq_iff_iff.mpr (by simpa using hg.eq_iff)
  rw [tied, List.filter_map, hsame, List.map_map]
  rfl

/-- The runner-up's score is changed like the others, unless there is none. -/
theorem secondBest_map (hg : Monotone g) (winner : String) :
    secondBest scores winner = 0 ∧ secondBest (scores.map fun e => (e.1, g e.2)) winner = 0 ∨
      secondBest (scores.map fun e => (e.1, g e.2)) winner = g (secondBest scores winner) := by
  have hrest : ((scores.map fun e => (e.1, g e.2)).filter fun e => e.1 ≠ winner).map (·.2) =
      ((scores.filter fun e => e.1 ≠ winner).map (·.2)).map g := by
    rw [List.filter_map, List.map_map, List.map_map]
    rfl
  rw [secondBest, secondBest, hrest, largest?_map hg, zero_rat]
  cases largest? ((scores.filter fun e => e.1 ≠ winner).map (·.2)) with
  | none => exact .inl ⟨rfl, rfl⟩
  | some second => exact .inr rfl

/-- Under an increasing change of all scores the same candidate wins. -/
theorem of_map (hg : StrictMono g) {forum : Option String} {s : Standing Rat}
    (h : of scores forum = .ok s) : ∃ s', of (scores.map fun e => (e.1, g e.2)) forum = .ok s' ∧
      s'.winner = s.winner ∧ s'.top = g s.top ∧
      (s.second = 0 ∧ s'.second = 0 ∨ s'.second = g s.second) := by
  obtain ⟨htop, hwinner, hsecond⟩ := of_eq_ok.mp h
  have hscores : (scores.map fun e => (e.1, g e.2)).map (·.2) = (scores.map (·.2)).map g := by
    rw [List.map_map, List.map_map]
    rfl
  refine ⟨⟨s.winner, g s.top, secondBest (scores.map fun e => (e.1, g e.2)) s.winner⟩,
    of_eq_ok.mpr ⟨?_, ?_, rfl⟩, rfl, rfl, ?_⟩
  · rw [hscores, largest?_map hg.monotone, htop, Option.map_some]
  · rw [tied_map hg.injective]
    exact hwinner
  · rw [hsecond]
    exact secondBest_map hg.monotone s.winner

end Increasing

/-- The runner-up is found among the scores of the others. -/
theorem secondBest_congr {base : Scores Rat} {g g' : String × Rat → Rat} {winner : String}
    (h : ∀ e ∈ base, e.1 ≠ winner → g' e = g e) :
    secondBest (base.map fun e => (e.1, g' e)) winner =
      secondBest (base.map fun e => (e.1, g e)) winner := by
  have hothers : ((base.map fun e => (e.1, g' e)).filter fun x => x.1 ≠ winner) =
      (base.map fun e => (e.1, g e)).filter fun x => x.1 ≠ winner := by
    rw [List.filter_map, List.filter_map]
    refine List.map_congr_left fun e he => congrArg (Prod.mk e.1) ?_
    obtain ⟨hin, hne⟩ := List.mem_filter.mp he
    exact h e hin (of_decide_eq_true hne)
  rw [secondBest, hothers, secondBest]

/-- A winner that alone scores more than before wins again, and the gap is no smaller. -/
theorem of_raised {base : Scores Rat} {g g' : String × Rat → Rat}
    (hn : (base.map (·.1)).Nodup) {forum : Option String} {s : Standing Rat}
    (h : of (base.map fun e => (e.1, g e)) forum = .ok s) (hpos : 0 < s.top)
    (hnonneg : ∀ e ∈ base, 0 ≤ g e) (heq : ∀ e ∈ base, e.1 ≠ s.winner → g' e = g e)
    (hle : ∀ e ∈ base, g e ≤ g' e) :
    ∃ s', of (base.map fun e => (e.1, g' e)) forum = .ok s' ∧ s'.winner = s.winner ∧
      s.confidence ≤ s'.confidence := by
  have htops := tops_of h
  obtain ⟨e, he, hwinner⟩ := List.mem_map.mp htops.winner_mem
  obtain ⟨hcode, htop⟩ := Prod.mk.inj hwinner
  rcases (hle e he).eq_or_lt with hsame | hmore
  · -- The winner scores what it scored, so all candidates do.
    have hscores : (base.map fun e => (e.1, g' e)) = base.map fun e => (e.1, g e) := by
      refine List.map_congr_left fun e' he' => congrArg (Prod.mk e'.1) ?_
      by_cases hcode' : e'.1 = s.winner
      · rw [List.inj_on_of_nodup_map hn he' he (hcode'.trans hcode.symm), hsame]
      · exact heq e' he' hcode'
    exact ⟨s, by rw [hscores, h], rfl, le_refl _⟩
  · have hne : (base.map fun e => (e.1, g' e)) ≠ [] :=
      List.ne_nil_of_mem (List.mem_map_of_mem he)
    obtain ⟨s', h'⟩ := exists_of hne (fun _ _ => beq_self_eq_true _) forum
    have htops' := tops_of h'
    have hraised : (s.winner, g' e) ∈ base.map fun e => (e.1, g' e) :=
      List.mem_map.mpr ⟨e, he, by rw [hcode]⟩
    have hwins : s'.winner = s.winner := by
      refine htops'.winner_of_lt hraised fun x hx hne => ?_
      obtain ⟨e', he', rfl⟩ := List.mem_map.mp hx
      calc g' e'
        _ = g e' := heq e' he' hne
        _ ≤ s.top := htops.le_top _ (List.mem_map.mpr ⟨e', he', rfl⟩)
        _ = g e := htop.symm
        _ < g' e := hmore
    -- The top has risen and the second has stayed, so the gap is no smaller.
    have hless : s.top < s'.top := by
      rw [← htop]
      exact hmore.trans_le (htops'.le_top _ hraised)
    have hsecond : s'.second = s.second := by
      rw [(of_eq_ok.mp h').2.2, (of_eq_ok.mp h).2.2, hwins, secondBest_congr heq]
    have hsecond0 : 0 ≤ s.second := by
      rw [(of_eq_ok.mp h).2.2]
      refine secondBest_nonneg (fun x hx => ?_) _
      obtain ⟨e', he', rfl⟩ := List.mem_map.mp hx
      exact hnonneg e' he'
    refine ⟨s', h', hwins, gap_le_gap hpos (hpos.trans hless) ?_⟩
    rw [hsecond]
    exact mul_le_mul_of_nonneg_left hless.le hsecond0

end Standing

/-- Materials with some judgements of law. -/
def Materials.judging {α : Type} (m : Materials α) (quality : Scores α) : Materials α :=
  { m with lawQuality := .ok quality }

namespace BetterLaw

section Blends

variable {weight q x : Rat} {quality scores : Scores Rat}

/-- The mean of a share and a quality, the latter with a weight. -/
def blend (weight quality relationship : Rat) : Rat :=
  (relationship + weight * quality) / (1 + weight)

theorem combine_eq {s : Rat} (h : combine weight q x = .ok s) : s = blend weight q x := by
  obtain ⟨-, -, hs⟩ := Scoring.score_eq_ok.mp h
  rw [hs, blend]
  simp [Factor.contribution]

theorem strictMono_blend (hw : 0 ≤ weight) (q : Rat) : StrictMono (blend weight q) := by
  intro x y hxy
  exact div_lt_div_of_pos_right (add_lt_add_left hxy _) (add_pos_of_pos_of_nonneg one_pos hw)

theorem blend_le_blend (hw : 0 ≤ weight) {q' : Rat} (hq : q ≤ q') (x : Rat) :
    blend weight q x ≤ blend weight q' x := by
  have hmore : x + weight * q ≤ x + weight * q' :=
    add_le_add_right (mul_le_mul_of_nonneg_left hq hw) x
  exact div_le_div_of_nonneg_right hmore (add_nonneg zero_le_one hw)

theorem blend_nonneg (hw : 0 ≤ weight) (hq : 0 ≤ q) (hx : 0 ≤ x) : 0 ≤ blend weight q x :=
  div_nonneg (add_nonneg hx (mul_nonneg hw hq)) (add_nonneg zero_le_one hw)

theorem blend_pos (hw : 0 ≤ weight) (hq : 0 ≤ q) (hx : 0 < x) : 0 < blend weight q x :=
  div_pos (add_pos_of_pos_of_nonneg hx (mul_nonneg hw hq)) (add_pos_of_pos_of_nonneg one_pos hw)

/-- The smaller of two shares gains more, relative to what it was. -/
theorem mul_blend_le (hw : 0 ≤ weight) (hq : 0 ≤ q) {y : Rat} (hxy : x ≤ y) :
    x * blend weight q y ≤ blend weight q x * y := by
  have hmore : x * (y + weight * q) ≤ (x + weight * q) * y := by
    rw [mul_add, add_mul, mul_comm x (weight * q)]
    exact add_le_add_right (mul_le_mul_of_nonneg_left hxy (mul_nonneg hw hq)) _
  rw [blend, blend, mul_div_assoc', div_mul_eq_mul_div]
  exact div_le_div_of_nonneg_right hmore (add_nonneg zero_le_one hw)

theorem blend_zero (weight x : Rat) : blend weight 0 x = x / (1 + weight) := by
  rw [blend, mul_zero, add_zero]

/-- The candidates with their combined scores. -/
def judged (weight : Rat) (quality scores : Scores Rat) : Scores Rat :=
  scores.map fun e => (e.1, blend weight (qualityOf quality e.1) e.2)

theorem eq_judged {combined : Scores Rat} (h : rescored weight quality scores = .ok combined) :
    combined = judged weight quality scores := by
  refine eq_map_of_mapM_eq_ok h fun e _ e' he' => ?_
  obtain ⟨s, hs, rfl⟩ := map_eq_ok.mp he'
  rw [combine_eq hs]

/-- Scores are combined with no weight below zero. -/
theorem weight_nonneg_of_rescored (hne : scores ≠ []) {combined : Scores Rat}
    (h : rescored weight quality scores = .ok combined) : 0 ≤ weight := by
  obtain ⟨e, he⟩ := List.exists_mem_of_ne_nil scores hne
  obtain ⟨e', he'⟩ := exists_ok_of_mem h he
  obtain ⟨s, hs, -⟩ := map_eq_ok.mp he'
  have hsound := (Scoring.score_eq_ok.mp hs).1 ⟨"better_law", weight, qualityOf quality e.1⟩
  exact (hsound (List.mem_cons_of_mem _ List.mem_cons_self)).weight_nonneg

theorem judged_of_same (h : ∀ e ∈ scores, qualityOf quality e.1 = q) :
    judged weight quality scores = scores.map fun e => (e.1, blend weight q e.2) :=
  List.map_congr_left fun e he => by rw [h e he]

theorem qualityOf_mem (h : ∀ e ∈ quality, 0 ≤ e.2 ∧ e.2 ≤ 1) (code : String) :
    0 ≤ qualityOf quality code ∧ qualityOf quality code ≤ 1 := by
  unfold qualityOf
  cases hget : Table.get? quality code with
  | none => simp
  | some q => exact h _ (Table.mem_of_get? hget)

theorem qualityOf_insert (quality : Scores Rat) (code other : String) (q : Rat) :
    qualityOf (Table.insert code q quality) other =
      if code = other then q else qualityOf quality other := by
  rw [qualityOf, Table.get?_insert]
  split
  · rfl
  · rfl

theorem isEmpty_insert (quality : Scores Rat) (code : String) (q : Rat) :
    (Table.insert code q quality).isEmpty = false := by
  cases quality with
  | nil => rfl
  | cons e quality =>
    rw [Table.insert]
    split
    · rfl
    · rfl

end Blends

section Resolutions

variable {m : Materials Rat} {f : Facts} {forum : Reference} {r : Resolution Rat}
  {quality : Scores Rat} {scored : Relationship.Scored Rat}

theorem resolve_judging {α : Type} [Scalar α] (m : Materials α) (quality : Scores α) (f : Facts)
    (forum : Reference) : resolve (m.judging quality) f forum =
      if quality.isEmpty then capped m f forum else weighed m quality f forum := rfl

theorem exists_relationship (h : Relationship.score m f = .ok scored) (forum : Reference) :
    ∃ r, Relationship.resolve m f forum = .ok r := by
  cases hresolve : Relationship.resolve m f forum with
  | ok r => exact ⟨r, rfl⟩
  | error e =>
    rw [(Relationship.resolve_eq_error regular_rat).mp hresolve] at h
    cases h

/-- A dispute with scored candidates is resolved under any judgements in range. -/
theorem exists_resolve_judging (hw : 0 ≤ m.policy.betterLawWeight)
    (h : Relationship.score m f = .ok scored) (hrange : ∀ e ∈ quality, 0 ≤ e.2 ∧ e.2 ≤ 1)
    (forum : Reference) : ∃ r, resolve (m.judging quality) f forum = .ok r := by
  cases hresolve : resolve (m.judging quality) f forum with
  | ok r => exact ⟨r, rfl⟩
  | error e =>
    have hbase := (resolve_eq_error (m := m.judging quality) rfl hw hrange).mp hresolve
    have hscore : Relationship.score m f = .error e :=
      (Relationship.resolve_eq_error (m := m.judging quality) regular_rat).mp hbase
    rw [h] at hscore
    cases hscore

/-- Some share is above zero. -/
theorem exists_pos_of_score (h : Relationship.score m f = .ok scored) :
    ∃ e ∈ scored.scores, 0 < e.2 := by
  obtain ⟨weight, hnonneg, hpos, hscores⟩ := Relationship.scores_of_score h
  have hshares : scored.scores =
    Relationship.shares weight (f.recognised m.registry).contacts := hscores
  obtain ⟨standing, hstanding⟩ :=
    (Relationship.clamped_of_score h).exists_standing regular_rat none
  have htops := Standing.tops_of hstanding
  refine ⟨_, htops.winner_mem, ?_⟩
  rw [hshares] at htops
  exact Relationship.top_pos hpos htops hnonneg

theorem judged_nonneg (hw : 0 ≤ m.policy.betterLawWeight)
    (h : Relationship.score m f = .ok scored) (hrange : ∀ e ∈ quality, 0 ≤ e.2 ∧ e.2 ≤ 1) :
    ∀ e ∈ scored.scores,
      0 ≤ blend m.policy.betterLawWeight (qualityOf quality e.1) e.2 := fun e he =>
  blend_nonneg hw (qualityOf_mem hrange e.1).1 ((Relationship.sound_of_score h).score_mem e he).1

theorem judged_top_pos (hw : 0 ≤ m.policy.betterLawWeight)
    (h : Relationship.score m f = .ok scored) (hrange : ∀ e ∈ quality, 0 ≤ e.2 ∧ e.2 ≤ 1)
    {s : Standing Rat}
    (hs : s.Tops (judged m.policy.betterLawWeight quality scored.scores)) : 0 < s.top := by
  obtain ⟨e, he, hpos⟩ := exists_pos_of_score h
  exact (blend_pos hw (qualityOf_mem hrange e.1).1 hpos).trans_le
    (hs.le_top _ (List.mem_map_of_mem he))

/-- A judgement that all candidates share leaves the winner, and the gap is no larger; it is as
large if the judgement is zero. -/
theorem standing_of_same (hw : 0 ≤ m.policy.betterLawWeight)
    (h : Relationship.score m f = .ok scored) {q : Rat} (hq : 0 ≤ q)
    (hsame : ∀ e ∈ scored.scores, qualityOf quality e.1 = q) {forum : Option String}
    {s : Standing Rat} (hs : Standing.of scored.scores forum = .ok s) :
    ∃ s', Standing.of (judged m.policy.betterLawWeight quality scored.scores) forum = .ok s' ∧
      s'.winner = s.winner ∧ s'.confidence ≤ s.confidence ∧
      (q = 0 → s'.confidence = s.confidence) := by
  obtain ⟨s', hs', hwinner, htop, hsecond⟩ := Standing.of_map (strictMono_blend hw q) hs
  rw [← judged_of_same hsame] at hs'
  have htops := Standing.tops_of hs
  obtain ⟨e, he, hpos⟩ := exists_pos_of_score h
  have hpos : 0 < s.top := hpos.trans_le (htops.le_top e he)
  have hpos' : 0 < s'.top := by
    rw [htop]
    exact blend_pos hw hq hpos
  have hle : s.second ≤ s.top := by
    rw [(Standing.of_eq_ok.mp hs).2.2]
    exact htops.second_le hpos.le
  refine ⟨s', hs', hwinner, Standing.gap_le_gap hpos' hpos ?_, fun hzero => ?_⟩
  · rcases hsecond with ⟨hnone, hnone'⟩ | hsecond
    · rw [hnone, hnone', zero_mul, zero_mul]
    · rw [htop, hsecond]
      exact mul_blend_le hw hq hle
  · -- Where the quality is zero, both scores are scaled alike and the gap stays.
    have hratio : s'.second * s.top = s.second * s'.top := by
      rcases hsecond with ⟨hnone, hnone'⟩ | hsecond
      · rw [hnone, hnone', zero_mul, zero_mul]
      · rw [htop, hsecond, hzero, blend_zero, blend_zero, div_mul_eq_mul_div, mul_div_assoc']
    exact le_antisymm (Standing.gap_le_gap hpos' hpos hratio.ge)
      (Standing.gap_le_gap hpos hpos' hratio.le)

/-- A winner whose own law is judged better wins again, and the gap is no smaller. -/
theorem standing_of_raised (hw : 0 ≤ m.policy.betterLawWeight)
    (h : Relationship.score m f = .ok scored) (hrange : ∀ e ∈ quality, 0 ≤ e.2 ∧ e.2 ≤ 1)
    {forum : Option String} {s : Standing Rat}
    (hs : Standing.of (judged m.policy.betterLawWeight quality scored.scores) forum = .ok s)
    {q : Rat} (hle : qualityOf quality s.winner ≤ q) :
    ∃ s', Standing.of (judged m.policy.betterLawWeight (Table.insert s.winner q quality)
        scored.scores) forum = .ok s' ∧
      s'.winner = s.winner ∧ s.confidence ≤ s'.confidence := by
  have hothers : ∀ e ∈ scored.scores, e.1 ≠ s.winner →
      blend m.policy.betterLawWeight (qualityOf (Table.insert s.winner q quality) e.1) e.2 =
        blend m.policy.betterLawWeight (qualityOf quality e.1) e.2 := by
    intro e _ hne
    rw [qualityOf_insert, if_neg (Ne.symm hne)]
  have hmore : ∀ e ∈ scored.scores,
      blend m.policy.betterLawWeight (qualityOf quality e.1) e.2 ≤
        blend m.policy.betterLawWeight (qualityOf (Table.insert s.winner q quality) e.1) e.2 := by
    intro e _
    rw [qualityOf_insert]
    split
    · next hwon => exact blend_le_blend hw (hwon ▸ hle) e.2
    · exact le_rfl
  exact Standing.of_raised (Relationship.sound_of_score h).nodup hs
    (judged_top_pos hw h hrange (Standing.tops_of hs)) (judged_nonneg hw h hrange) hothers hmore

theorem led_of_relationship (h : Relationship.resolve m f forum = .ok r) :
    ∃ scored standing, Relationship.score m f = .ok scored ∧
      r.LedBy m.registry forum scored.scores standing ∧ r.confidence = standing.confidence := by
  obtain ⟨scored, hscored, h⟩ := bind_eq_ok.mp h
  obtain ⟨standing, hstanding, h⟩ := bind_eq_ok.mp h
  cases h
  exact ⟨scored, standing, hscored, ⟨hstanding, rfl, rfl⟩, rfl⟩

/-- Without a judgement the standing of the shares counts. -/
theorem led_of_capped (h : capped m f forum = .ok r) :
    ∃ scored standing, Relationship.score m f = .ok scored ∧
      r.LedBy m.registry forum scored.scores standing ∧
      r.confidence = min standing.confidence m.policy.betterLawCap := by
  obtain ⟨base, hbase, h⟩ := bind_eq_ok.mp h
  cases h
  obtain ⟨scored, standing, hscored, hled, hconfidence⟩ := led_of_relationship hbase
  refine ⟨scored, standing, hscored, ⟨hled.stands, hled.selected, hled.ranked⟩, ?_⟩
  rw [← hconfidence]
  exact smaller_rat _ _

/-- With judgements, which are in range, the standing of the combined scores counts. -/
theorem led_of_weighed (h : weighed m quality f forum = .ok r) :
    0 ≤ m.policy.betterLawWeight ∧ (∀ e ∈ quality, 0 ≤ e.2 ∧ e.2 ≤ 1) ∧
    ∃ scored standing, Relationship.score m f = .ok scored ∧
      r.LedBy m.registry forum (judged m.policy.betterLawWeight quality scored.scores) standing ∧
      r.confidence = standing.confidence := by
  obtain ⟨_, hchecked, h⟩ := bind_eq_ok.mp h
  obtain ⟨scored, hscored, h⟩ := bind_eq_ok.mp h
  obtain ⟨combined, hcombined, h⟩ := bind_eq_ok.mp h
  obtain ⟨standing, hstanding, h⟩ := bind_eq_ok.mp h
  cases h
  have hcombined := ok_of_mapError.mp hcombined
  have hweight := weight_nonneg_of_rescored (Relationship.clamped_of_score hscored).ne_nil hcombined
  obtain rfl := eq_judged hcombined
  exact ⟨hweight, checkQuality_eq_ok.mp (ok_of_mapError.mp hchecked), scored, standing, hscored,
    ⟨hstanding, rfl, rfl⟩, rfl⟩

/-- Either way the combined scores have a standing for the selected law: without a judgement they
are the shares on another scale. -/
theorem standing_of_resolve (hw : 0 ≤ m.policy.betterLawWeight)
    (h : resolve (m.judging quality) f forum = .ok r) : (∀ e ∈ quality, 0 ≤ e.2 ∧ e.2 ≤ 1) ∧
      ∃ scored standing, Relationship.score m f = .ok scored ∧
        Standing.of (judged m.policy.betterLawWeight quality scored.scores) forum.code.text? =
          .ok standing ∧
        r.Leads standing.winner ∧ r.selected = Registry.select m.registry standing.winner ∧
        r.confidence = if quality.isEmpty then min standing.confidence m.policy.betterLawCap
          else standing.confidence := by
  rw [resolve_judging] at h
  split at h
  · next hempty =>
    obtain rfl := List.isEmpty_iff.mp hempty
    obtain ⟨scored, s, hscored, hled, hconfidence⟩ := led_of_capped h
    -- Without judgements every quality is zero, which moves no candidate.
    have hsilent : ∀ e ∈ scored.scores, qualityOf ([] : Scores Rat) e.1 = 0 := fun _ _ => zero_rat
    obtain ⟨standing, hstanding, hwinner, -, hsame⟩ :=
      standing_of_same hw hscored le_rfl hsilent hled.stands
    refine ⟨nofun, scored, standing, hscored, hstanding, ?_, ?_, ?_⟩
    · rw [hwinner]
      exact hled.leads (Standing.tops_of hled.stands).winner_mem
    · rw [hwinner, hled.selected]
    · rw [hconfidence, hsame rfl]
      rfl
  · next hne =>
    obtain ⟨-, hrange, scored, standing, hscored, hled, hconfidence⟩ := led_of_weighed h
    refine ⟨hrange, scored, standing, hscored, hled.stands,
      hled.leads (Standing.tops_of hled.stands).winner_mem, hled.selected, ?_⟩
    rw [hconfidence, if_neg hne]

/-- How judgements of law bear on a dispute with scored candidates. -/
structure FollowsQuality (m : Materials Rat) (f : Facts) (forum : Reference)
    (scored : Relationship.Scored Rat) : Prop where
  /-- If all candidates are judged alike, the law is selected that their relationship selects, with
  no more confidence; there is a resolution exactly if all judgements are in range. -/
  neutral : ∀ (quality : Scores Rat) (q : Rat), quality ≠ [] →
    (∀ e ∈ scored.scores, qualityOf quality e.1 = q) →
    ∃ r, Relationship.resolve m f forum = .ok r ∧
      ((∃ r', resolve (m.judging quality) f forum = .ok r') ↔ ∀ e ∈ quality, 0 ≤ e.2 ∧ e.2 ≤ 1) ∧
      ∀ r', resolve (m.judging quality) f forum = .ok r' →
        r'.selected = r.selected ∧ r'.confidence ≤ r.confidence
  /-- A leader is selected, whose code is the selected one if the facts are canonical. If its law is
  judged better, it is selected again, with no less confidence. -/
  raised : ∀ (quality : Scores Rat) (r : Resolution Rat),
    resolve (m.judging quality) f forum = .ok r →
    ∃ code, r.Leads code ∧ r.selected = Registry.select m.registry code ∧
      (f.Canonical → r.selected.code = .text code) ∧
      ∀ q, qualityOf quality code ≤ q → q ≤ 1 →
        ∃ r', resolve (m.judging (Table.insert code q quality)) f forum = .ok r' ∧
          r'.selected = r.selected ∧ r.confidence ≤ r'.confidence

/-- In exact numbers, and with any weight that is not negative, the better law follows the quality
that the caller gives to laws. -/
theorem resolve_followsQuality (hw : 0 ≤ m.policy.betterLawWeight)
    (h : Relationship.score m f = .ok scored) : FollowsQuality m f forum scored := by
  constructor
  case neutral =>
    intro quality q hne hsame
    obtain ⟨r, hr⟩ := exists_relationship h forum
    obtain ⟨_, s, hscored, hled, hconfidence⟩ := led_of_relationship hr
    cases h.symm.trans hscored
    refine ⟨r, hr, ⟨?_, fun hrange => exists_resolve_judging hw h hrange forum⟩, ?_⟩
    · rintro ⟨r', hr'⟩
      exact (standing_of_resolve hw hr').1
    · intro r' hr'
      obtain ⟨hrange, _, t, hscored', ht, -, hselected', hconfidence'⟩ :=
        standing_of_resolve hw hr'
      cases h.symm.trans hscored'
      -- The common quality is that of a candidate, so it is not negative.
      obtain ⟨e, he, -⟩ := exists_pos_of_score h
      have hq : 0 ≤ q := by
        rw [← hsame e he]
        exact (qualityOf_mem hrange e.1).1
      obtain ⟨s', hs', hwinner, hle, -⟩ := standing_of_same hw h hq hsame hled.stands
      cases hs'.symm.trans ht
      rw [if_neg fun hempty => hne (List.isEmpty_iff.mp hempty)] at hconfidence'
      rw [hselected', hwinner, hled.selected, hconfidence', hconfidence]
      exact ⟨rfl, hle⟩
  case raised =>
    intro quality r hr
    obtain ⟨hrange, scored, s, hscored, hs, hleads, hselected, hconfidence⟩ :=
      standing_of_resolve hw hr
    have hsound := Relationship.sound_of_score hscored
    have htops := Standing.tops_of hs
    -- The winner is named by a contact, whose code is canonical if the facts are.
    obtain ⟨e, he, hwinner⟩ := List.mem_map.mp htops.winner_mem
    obtain ⟨c, hc, hcode⟩ := hsound.named e he
    have hcode : c.code = s.winner := hcode.trans (Prod.mk.inj hwinner).1
    refine ⟨s.winner, hleads, hselected, fun hf => ?_, fun q hle hq1 => ?_⟩
    · rw [hselected, Registry.code_select, ← hcode, hf.contacts c hc]
    · have hq : 0 ≤ q := (qualityOf_mem hrange s.winner).1.trans hle
      have hrange' : ∀ e ∈ Table.insert s.winner q quality, 0 ≤ e.2 ∧ e.2 ≤ 1 :=
        Table.forall_mem_insert hrange ⟨hq, hq1⟩
      obtain ⟨s', hs', hwins, hgap⟩ := standing_of_raised hw hscored hrange hs hle
      obtain ⟨r', hr'⟩ := exists_resolve_judging hw hscored hrange' forum
      obtain ⟨-, _, t, hscored', ht, -, hselected', hconfidence'⟩ := standing_of_resolve hw hr'
      cases hscored.symm.trans hscored'
      cases hs'.symm.trans ht
      rw [isEmpty_insert, if_neg Bool.false_ne_true] at hconfidence'
      refine ⟨r', hr', ?_, ?_⟩
      · rw [hselected', hwins, hselected]
      · rw [hconfidence']
        -- Without a judgement before, the confidence was capped; the raised gap exceeds it all
        -- the more.
        refine le_trans ?_ hgap
        rw [hconfidence]
        split
        · exact min_le_left _ _
        · exact le_rfl

open Relationship (dispute reweighted) in
/-- Two laws that are judged alike, and then one of them alone, first lower and then as the best. -/
theorem resolve_followsQuality_dispute :
    (∃ r r', Relationship.resolve reweighted dispute (.text "us-ca") = .ok r ∧
      resolve (reweighted.judging [("US-NY", 1 / 2), ("US-CA", 1 / 2)]) dispute (.text "us-ca") =
        .ok r' ∧
      r'.selected = r.selected ∧ r'.confidence ≤ r.confidence) ∧
    ∃ r r', resolve (reweighted.judging [("US-CA", 3 / 10)]) dispute (.text "us-ca") = .ok r ∧
      r.selected.code = .text "US-CA" ∧
      resolve (reweighted.judging [("US-CA", 1)]) dispute (.text "us-ca") = .ok r' ∧
      r'.selected = r.selected ∧ r.confidence ≤ r'.confidence := by
  have hcodes : (Relationship.score reweighted dispute).toOption.map (·.scores.map (·.1)) =
      some ["US-NY", "US-CA"] := by decide +kernel
  have hselected : (resolve (reweighted.judging [("US-CA", 3 / 10)]) dispute
      (.text "us-ca")).toOption.map (·.selected.code.text?) = some (some "US-CA") := by
    decide +kernel
  obtain ⟨scored, h, hnamed⟩ := exists_of_map_toOption hcodes
  obtain ⟨r, hr, htext⟩ := exists_of_map_toOption hselected
  have hfollows : FollowsQuality reweighted dispute (.text "us-ca") scored :=
    resolve_followsQuality (by decide +kernel) h
  constructor
  · have heach : ∀ code ∈ ["US-NY", "US-CA"],
        qualityOf [("US-NY", 1 / 2), ("US-CA", 1 / 2)] code = (1 / 2 : Rat) := by decide +kernel
    have halike : ∀ e ∈ scored.scores,
        qualityOf [("US-NY", 1 / 2), ("US-CA", 1 / 2)] e.1 = (1 / 2 : Rat) :=
      fun e he => heach e.1 (hnamed ▸ List.mem_map_of_mem he)
    obtain ⟨base, hbase, hreturns, hneutral⟩ :=
      hfollows.neutral _ _ (by decide) halike
    obtain ⟨r', hr'⟩ := hreturns.mpr (by decide +kernel)
    exact ⟨base, r', hbase, hr', hneutral r' hr'⟩
  · obtain ⟨code, -, -, hcanonical, hraised⟩ := hfollows.raised _ r hr
    have hcode := hcanonical Relationship.canonical_dispute
    rw [hcode] at htext
    obtain rfl : code = "US-CA" := Option.some.inj htext
    obtain ⟨r', hr', hsame, hle⟩ := hraised 1 (by decide +kernel) le_rfl
    exact ⟨r, r', hr, hcode, hr', hsame, hle⟩

end Resolutions
end BetterLaw
end ComparativeLaw
