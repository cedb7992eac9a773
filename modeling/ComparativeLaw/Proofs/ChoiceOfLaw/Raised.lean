import ComparativeLaw.Proofs.ChoiceOfLaw.Failing
import ComparativeLaw.Proofs.ChoiceOfLaw.Reordered
import ComparativeLaw.Proofs.ChoiceOfLaw.Weights
import Mathlib.Tactic.Ring

namespace ComparativeLaw.Relationship

open Checked Scalar

section Loads

variable {weight weight' : ContactKind → Rat} {cs : List Contact} {code : String}

/-- Weights that are raised for contacts of one jurisdiction at most. -/
structure Raises (weight weight' : ContactKind → Rat) (cs : List Contact) (code : String) :
    Prop where
  le : ∀ c ∈ cs, weight c.kind ≤ weight' c.kind
  eq : ∀ c ∈ cs, c.code ≠ code → weight' c.kind = weight c.kind

/-- More weight for a kind, all of whose contacts name the jurisdiction. -/
theorem Raises.of_update {kind : ContactKind} {w : Rat} (hle : weight kind ≤ w)
    (hk : ∀ c ∈ cs, c.kind = kind → c.code = code) :
    Raises weight (Function.update weight kind w) cs code where
  le c _ := by
    by_cases hkind : c.kind = kind
    · rw [hkind, Function.update_self]
      exact hle
    · rw [Function.update_of_ne hkind]
  eq c hc hne := Function.update_of_ne (fun hkind => hne (hk c hc hkind)) w weight

theorem load_congr (h : ∀ c ∈ cs, weight' c.kind = weight c.kind) :
    load weight' cs = load weight cs :=
  congrArg List.sum (List.map_congr_left h)

theorem load_mono (h : ∀ c ∈ cs, weight c.kind ≤ weight' c.kind) :
    load weight cs ≤ load weight' cs :=
  List.sum_le_sum h

theorem Raises.load_naming_le (h : Raises weight weight' cs code) :
    load weight (naming code cs) ≤ load weight' (naming code cs) :=
  load_mono fun c hc => h.le c (List.mem_of_mem_filter hc)

theorem Raises.load_naming_of_ne (h : Raises weight weight' cs code) {other : String}
    (hne : other ≠ code) : load weight' (naming other cs) = load weight (naming other cs) := by
  apply load_congr
  intro c hc
  obtain ⟨hmem, hcode⟩ := List.mem_filter.mp hc
  have hcode : c.code = other := of_decide_eq_true hcode
  exact h.eq c hmem (hcode ▸ hne)

/-- If the load of the jurisdiction stays as it is, so does every share. -/
theorem Raises.share_eq (h : Raises weight weight' cs code)
    (heq : load weight' (naming code cs) = load weight (naming code cs)) (other : String) :
    share weight' cs other = share weight cs other := by
  have hnaming (other : String) :
      load weight' (naming other cs) = load weight (naming other cs) := by
    by_cases hother : other = code
    · rw [hother, heq]
    · exact h.load_naming_of_ne hother
  have hcodes : ∀ c ∈ cs, c.code ∈ firstSeen (cs.map (·.code)) :=
    fun c hc => mem_firstSeen.mpr (List.mem_map_of_mem hc)
  have hwhole : load weight' cs = load weight cs := by
    rw [← sum_load_naming weight' (nodup_firstSeen _) hcodes, funext hnaming,
      sum_load_naming weight (nodup_firstSeen _) hcodes]
  rw [share, hnaming, hwhole, share]

end Loads

section Standings

variable {weight weight' : ContactKind → Rat} {cs : List Contact}

def shares (weight : ContactKind → Rat) (cs : List Contact) : Scores Rat :=
  (firstSeen (cs.map (·.code))).map fun code => (code, share weight cs code)

theorem mem_shares {code : String} {score : Rat} :
    (code, score) ∈ shares weight cs ↔
      (∃ c ∈ cs, c.code = code) ∧ score = share weight cs code := by
  simp only [shares, List.mem_map, mem_firstSeen, Prod.mk.injEq]
  constructor
  · rintro ⟨_, hcode, rfl, rfl⟩
    exact ⟨hcode, rfl⟩
  · rintro ⟨hcode, rfl⟩
    exact ⟨code, hcode, rfl, rfl⟩

theorem share_mul_load (ht : 0 < load weight cs) (code : String) :
    share weight cs code * load weight cs = load weight (naming code cs) :=
  div_mul_cancel₀ _ ht.ne'

section Top

variable {s : Standing Rat} (ht : 0 < load weight cs) (hs : s.Tops (shares weight cs))

include ht hs

theorem top_mul_load : s.top * load weight cs = load weight (naming s.winner cs) := by
  rw [(mem_shares.mp hs.winner_mem).2, share_mul_load ht]

theorem load_naming_le_winner {code : String} (hcode : ∃ c ∈ cs, c.code = code) :
    load weight (naming code cs) ≤ load weight (naming s.winner cs) := by
  have hle : share weight cs code ≤ s.top := hs.le_top (code, _) (mem_shares.mpr ⟨hcode, rfl⟩)
  rw [← share_mul_load ht, ← top_mul_load ht hs]
  exact mul_le_mul_of_nonneg_right hle ht.le

/-- Somebody carries a part of the load, and the winner carries no less. -/
theorem top_pos (hnonneg : ∀ c ∈ cs, 0 ≤ weight c.kind) : 0 < s.top := by
  obtain ⟨c, hc, hpos⟩ := (load_pos_iff weight hnonneg).mp ht
  have hpart : 0 < load weight (naming c.code cs) := by
    apply (load_pos_iff weight fun c hc => hnonneg c (List.mem_of_mem_filter hc)).mpr
    exact ⟨c, List.mem_filter.mpr ⟨hc, decide_eq_true rfl⟩, hpos⟩
  have hwinner : 0 < s.top * load weight cs := by
    rw [top_mul_load ht hs]
    exact hpart.trans_le (load_naming_le_winner ht hs ⟨c, hc, rfl⟩)
  exact (mul_pos_iff_of_pos_right ht).mp hwinner

end Top

variable {s s' : Standing Rat} {forum : Option String}

theorem shares_nonneg (hnonneg : ∀ c ∈ cs, 0 ≤ weight c.kind) (ht : 0 < load weight cs) :
    ∀ e ∈ shares weight cs, 0 ≤ e.2 := by
  rintro ⟨code, score⟩ he
  rw [(mem_shares.mp he).2]
  exact (share_mem weight hnonneg ht code).1

/-- The runner-up carries no more than before. -/
theorem Raises.second_mul_load_le {winner : String} (hr : Raises weight weight' cs winner)
    (hnonneg : ∀ c ∈ cs, 0 ≤ weight c.kind) (ht : 0 < load weight cs)
    (ht' : 0 < load weight' cs) :
    Standing.secondBest (shares weight' cs) winner * load weight' cs ≤
      Standing.secondBest (shares weight cs) winner * load weight cs := by
  rcases Standing.secondBest_cases (shares weight' cs) winner with
    ⟨-, hsecond⟩ | ⟨⟨code, score⟩, he, hne, hsecond, -⟩
  · rw [hsecond, zero_mul]
    exact mul_nonneg (Standing.secondBest_nonneg (shares_nonneg hnonneg ht) winner) ht.le
  · obtain ⟨hcode, hscore⟩ := mem_shares.mp he
    have hbefore : (code, share weight cs code) ∈ shares weight cs := mem_shares.mpr ⟨hcode, rfl⟩
    calc Standing.secondBest (shares weight' cs) winner * load weight' cs
      _ = share weight' cs code * load weight' cs := by rw [hsecond, hscore]
      _ = load weight (naming code cs) := by rw [share_mul_load ht', hr.load_naming_of_ne hne]
      _ = share weight cs code * load weight cs := (share_mul_load ht code).symm
      _ ≤ Standing.secondBest (shares weight cs) winner * load weight cs :=
        mul_le_mul_of_nonneg_right (Standing.le_secondBest hbefore hne) ht.le

/-- If the winner carries more, it wins before whatever forum: the others carry what they
carried. -/
theorem Raises.winner_eq (hr : Raises weight weight' cs s.winner) (ht : 0 < load weight cs)
    (ht' : 0 < load weight' cs) (hs : s.Tops (shares weight cs)) (hs' : s'.Tops (shares weight' cs))
    (hlt : load weight (naming s.winner cs) < load weight' (naming s.winner cs)) :
    s'.winner = s.winner := by
  have hcandidate := (mem_shares.mp hs.winner_mem).1
  apply hs'.winner_of_lt (mem_shares.mpr ⟨hcandidate, rfl⟩)
  rintro ⟨code, score⟩ he hne
  obtain ⟨hcode, hscore⟩ := mem_shares.mp he
  have hless : score * load weight' cs < share weight' cs s.winner * load weight' cs := by
    calc score * load weight' cs
      _ = load weight (naming code cs) := by
        rw [hscore, share_mul_load ht', hr.load_naming_of_ne hne]
      _ ≤ load weight (naming s.winner cs) := load_naming_le_winner ht hs hcode
      _ < load weight' (naming s.winner cs) := hlt
      _ = share weight' cs s.winner * load weight' cs := (share_mul_load ht' s.winner).symm
  exact lt_of_mul_lt_mul_right hless ht'.le

/-- The winner whose contacts weigh more wins again, with a gap that is no smaller. -/
theorem Raises.standing (hr : Raises weight weight' cs s.winner)
    (hnonneg : ∀ c ∈ cs, 0 ≤ weight c.kind) (ht : 0 < load weight cs)
    (hs : Standing.of (shares weight cs) forum = .ok s)
    (hs' : Standing.of (shares weight' cs) forum = .ok s') :
    s'.winner = s.winner ∧ s.confidence ≤ s'.confidence := by
  have htops := Standing.tops_of hs
  have htops' := Standing.tops_of hs'
  have ht' : 0 < load weight' cs := ht.trans_le (load_mono hr.le)
  rcases hr.load_naming_le.eq_or_lt with heq | hlt
  · -- Nothing has changed for the winner, so nothing has changed at all.
    have hshares : shares weight' cs = shares weight cs :=
      List.map_congr_left fun code _ => congrArg (Prod.mk code) (hr.share_eq heq.symm code)
    rw [hshares, hs] at hs'
    cases hs'
    exact ⟨rfl, le_refl _⟩
  · have hwinner := hr.winner_eq ht ht' htops htops' hlt
    have hsecond := hr.second_mul_load_le hnonneg ht ht'
    rw [← (Standing.of_eq_ok.mp hs).2.2, ← hwinner, ← (Standing.of_eq_ok.mp hs').2.2] at hsecond
    have htop : s.top * load weight cs ≤ s'.top * load weight' cs := by
      rw [top_mul_load ht htops, top_mul_load ht' htops', hwinner]
      exact hlt.le
    have hsecond0 : 0 ≤ s.second := by
      rw [(Standing.of_eq_ok.mp hs).2.2]
      exact Standing.secondBest_nonneg (shares_nonneg hnonneg ht) _
    have htop0 := top_pos ht htops hnonneg
    have htop0' := top_pos ht' htops' fun c hc => (hnonneg c hc).trans (hr.le c hc)
    refine ⟨hwinner, Standing.gap_le_gap htop0 htop0' ?_⟩
    -- Both wholes cancel out of the comparison.
    apply le_of_mul_le_mul_right _ (mul_pos ht ht')
    calc s'.second * s.top * (load weight cs * load weight' cs)
      _ = s'.second * load weight' cs * (s.top * load weight cs) := by ring
      _ ≤ s.second * load weight cs * (s'.top * load weight' cs) :=
        mul_le_mul hsecond htop (mul_pos htop0 ht).le (mul_nonneg hsecond0 ht.le)
      _ = s.second * s'.top * (load weight cs * load weight' cs) := by ring

end Standings

section Resolutions

variable {m : Materials Rat} {f : Facts} {forum : Reference} {r : Resolution Rat}
  {overrides : List (ContactKind × Rat)}

/-- What a resolution shows of the weights that it was found by: none is below zero among the usable
contacts, some is above, and the candidates are led by the standing of their shares. -/
theorem standing_of_resolve (hw : m.weights = .ok overrides) (h : resolve m f forum = .ok r) :
    (∀ c ∈ (f.recognised m.registry).contacts, 0 ≤ ContactKind.weight f.category overrides c.kind) ∧
    0 < load (ContactKind.weight f.category overrides) (f.recognised m.registry).contacts ∧
    ∃ standing, r.LedBy m.registry forum
        (shares (ContactKind.weight f.category overrides) (f.recognised m.registry).contacts)
        standing ∧
      r.confidence = standing.confidence := by
  obtain ⟨scored, hscored, h⟩ := bind_eq_ok.mp h
  obtain ⟨standing, hstanding, h⟩ := bind_eq_ok.mp h
  cases h
  rw [score_eq, hw] at hscored
  obtain ⟨⟨c, hc, -⟩, scores, hscores, rfl⟩ := scoreSorted_eq_ok.mp hscored
  obtain ⟨hnonneg, hpos, rfl⟩ := (scoresOf_eq_ok (List.ne_nil_of_mem hc)).mp hscores
  exact ⟨hnonneg, hpos, standing, ⟨hstanding, rfl, rfl⟩, rfl⟩

/-- Conversely, such weights lead to a resolution. -/
theorem exists_resolve (hw : m.weights = .ok overrides)
    (hnonneg : ∀ c ∈ (f.recognised m.registry).contacts,
      0 ≤ ContactKind.weight f.category overrides c.kind)
    (hpos : 0 < load (ContactKind.weight f.category overrides)
      (f.recognised m.registry).contacts) (forum : Reference) :
    ∃ r, resolve m f forum = .ok r := by
  obtain ⟨c, hc, hweight⟩ := (load_pos_iff _ hnonneg).mp hpos
  have hrelevant : irrelevant (ContactKind.weight f.category overrides)
      (ContactKind.baseWeight f.topic.category) c = false := by
    simp [irrelevant, hweight]
  have hscores : scoresOf (ContactKind.weight f.category overrides)
      (.ofFacts f m.registry (ContactKind.weight f.category overrides)) = .ok _ :=
    (scoresOf_eq_ok (List.ne_nil_of_mem hc)).mpr ⟨hnonneg, hpos, rfl⟩
  cases hresolve : resolve m f forum with
  | ok r => exact ⟨r, rfl⟩
  | error e =>
    -- Only the scoring could fail, and it does not.
    have hscore := (resolve_eq_error regular_rat).mp hresolve
    rw [score_eq, hw] at hscore
    cases hscore.symm.trans (scoreSorted_eq_ok.mpr ⟨⟨c, hc, hrelevant⟩, _, hscores, rfl⟩)

/-- Overrides show in a resolution by the table of weights that they lead to. -/
theorem resolve_congr_weight {raised : List (ContactKind × Rat)}
    (h : ContactKind.weight f.category raised = ContactKind.weight f.category overrides) :
    resolve { m with weights := .ok raised } f forum =
      resolve { m with weights := .ok overrides } f forum := by
  have hscore : score { m with weights := .ok raised } f =
      score { m with weights := .ok overrides } f := by
    rw [score_eq, score_eq]
    show scoreSorted _ (ContactKind.weight f.category raised) (.ofFacts f m.registry _) = _
    rw [h]
    rfl
  unfold resolve
  rw [hscore]

/-- A resolution selects a leader among the candidates, whose code is the selected one if the facts
are canonical. If the weight of a kind of contacts that all name this candidate is raised by one more
override, the dispute is resolved again, for the same law and with no less confidence; so it is with
all overrides that lead to the raised table. -/
theorem resolve_raised (hw : m.weights = .ok overrides) (h : resolve m f forum = .ok r) :
    ∃ code, r.Leads code ∧ r.selected = Registry.select m.registry code ∧
      (f.Canonical → r.selected.code = .text code) ∧
      ∀ (kind : ContactKind) (w : Rat),
        (∀ c ∈ (f.recognised m.registry).contacts, c.kind = kind → c.code = code) →
        ContactKind.weight f.category overrides kind ≤ w →
        ∃ r', resolve { m with weights := .ok (overrides ++ [(kind, w)]) } f forum = .ok r' ∧
          r'.selected = r.selected ∧ r.confidence ≤ r'.confidence ∧
          ∀ raised, ContactKind.weight f.category raised =
              Function.update (ContactKind.weight f.category overrides) kind w →
            resolve { m with weights := .ok raised } f forum = .ok r' := by
  obtain ⟨hnonneg, hpos, standing, hled, hconfidence⟩ := standing_of_resolve hw h
  have hwinner := (Standing.tops_of hled.stands).winner_mem
  refine ⟨standing.winner, hled.leads hwinner, hled.selected, fun hf => ?_, ?_⟩
  · obtain ⟨⟨c, hc, hcode⟩, -⟩ := mem_shares.mp hwinner
    rw [hled.selected, Registry.code_select, ← hcode,
      hf.contacts c (List.mem_of_mem_filter hc)]
  · intro kind w hkind hle
    -- The override at the end is the only change of the table.
    have hr := Raises.of_update hle hkind
    rw [← ContactKind.weight_append_eq_update] at hr
    have hnonneg' : ∀ c ∈ (f.recognised m.registry).contacts,
        0 ≤ ContactKind.weight f.category (overrides ++ [(kind, w)]) c.kind :=
      fun c hc => (hnonneg c hc).trans (hr.le c hc)
    have hpos' := hpos.trans_le (load_mono hr.le)
    obtain ⟨r', h'⟩ := exists_resolve (m := { m with weights := .ok (overrides ++ [(kind, w)]) })
      rfl hnonneg' hpos' forum
    obtain ⟨-, -, standing', hled', hconfidence'⟩ := standing_of_resolve rfl h'
    obtain ⟨hsame, hgap⟩ := hr.standing hnonneg hpos hled.stands hled'.stands
    refine ⟨r', h', ?_, ?_, fun raised hraised => ?_⟩
    · rw [hled'.selected, hsame, hled.selected]
    · rw [hconfidence, hconfidence']
      exact hgap
    · rw [← ContactKind.weight_append_eq_update] at hraised
      rw [resolve_congr_weight hraised, h']

/-- The place of injury, which only the winner has, weighs more, next to another override. -/
theorem resolve_raised_dispute :
    ∃ r r', resolve reweighted dispute (.text "us-ca") = .ok r ∧ r.selected.code = .text "US-NY" ∧
      resolve { reweighted with weights := .ok [(.placeOfConduct, 4.0), (.placeOfInjury, 3.5)] }
        dispute (.text "us-ca") = .ok r' ∧
      r'.selected = r.selected ∧ r.confidence ≤ r'.confidence := by
  have hok : (resolve reweighted dispute (.text "us-ca")).toOption.map (·.selected.code.text?) =
      some (some "US-NY") := by decide +kernel
  obtain ⟨r, h, htext⟩ := exists_of_map_toOption hok
  obtain ⟨code, -, -, hcode, hraised⟩ := resolve_raised rfl h
  have hcode := hcode canonical_dispute
  rw [hcode] at htext
  have hny : code = "US-NY" := Option.some.inj htext
  subst hny
  have hkind : ∀ c ∈ (dispute.recognised reweighted.registry).contacts,
      c.kind = .placeOfInjury → c.code = "US-NY" := by decide +kernel
  obtain ⟨r', h', hselected, hconfidence, -⟩ :=
    hraised .placeOfInjury 3.5 hkind (by decide +kernel)
  exact ⟨r, r', h, hcode, h', hselected, hconfidence⟩

end Resolutions
end ComparativeLaw.Relationship
