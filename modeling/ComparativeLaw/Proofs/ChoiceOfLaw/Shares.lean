import ComparativeLaw.Proofs.ChoiceOfLaw.Contacts
import ComparativeLaw.Proofs.ChoiceOfLaw.Relationship
import ComparativeLaw.Proofs.Jurisdiction.Canonical
import ComparativeLaw.Proofs.Scoring
import Mathlib.Algebra.BigOperators.Ring.List
import Mathlib.Data.List.Nodup

namespace ComparativeLaw.Relationship

open Checked Scalar

section Load

variable (weight : ContactKind → Rat)

/-- What some contacts weigh together. -/
def load (cs : List Contact) : Rat := (cs.map fun c => weight c.kind).sum

def naming (code : String) (cs : List Contact) : List Contact := cs.filter fun c => c.code = code

/-- The part of the whole load that the contacts of a jurisdiction carry. -/
def share (cs : List Contact) (code : String) : Rat :=
  load weight (naming code cs) / load weight cs

/-- The load is counted contact by contact. -/
theorem load_cons (c : Contact) (cs : List Contact) :
    load weight (c :: cs) = weight c.kind + load weight cs := by
  rw [load, load, List.map_cons, List.sum_cons]

theorem load_naming_cons (code : String) (c : Contact) (cs : List Contact) :
    load weight (naming code (c :: cs)) =
      (if c.code = code then weight c.kind else 0) + load weight (naming code cs) := by
  by_cases h : c.code = code
  · rw [if_pos h, ← load_cons]
    simp [naming, h]
  · rw [if_neg h, zero_add]
    simp [naming, h]

theorem load_nonneg {cs : List Contact} (h : ∀ c ∈ cs, 0 ≤ weight c.kind) : 0 ≤ load weight cs := by
  apply List.sum_nonneg
  intro x hx
  obtain ⟨c, hc, rfl⟩ := List.mem_map.mp hx
  exact h c hc

/-- Contacts weigh something together if one of them does. -/
theorem load_pos_iff {cs : List Contact} (h : ∀ c ∈ cs, 0 ≤ weight c.kind) :
    0 < load weight cs ↔ ∃ c ∈ cs, 0 < weight c.kind := by
  constructor
  · intro hpos
    by_contra hnone
    push Not at hnone
    have hle : load weight cs ≤ (cs.map fun _ => (0 : Rat)).sum := List.sum_le_sum hnone
    rw [List.sum_map_zero] at hle
    exact absurd hpos (not_lt.mpr hle)
  · rintro ⟨c, hc, hpos⟩
    have hweights : ∀ x ∈ cs.map fun c => weight c.kind, 0 ≤ x := List.forall_mem_map.mpr h
    exact hpos.trans_le (List.single_le_sum hweights _ (List.mem_map_of_mem hc))

theorem load_naming_nonneg {cs : List Contact} (h : ∀ c ∈ cs, 0 ≤ weight c.kind) (code : String) :
    0 ≤ load weight (naming code cs) :=
  load_nonneg weight fun c hc => h c (List.mem_of_mem_filter hc)

theorem load_naming_le {cs : List Contact} (h : ∀ c ∈ cs, 0 ≤ weight c.kind) (code : String) :
    load weight (naming code cs) ≤ load weight cs := by
  induction cs with
  | nil => exact le_refl _
  | cons c cs ih =>
    obtain ⟨hc, hcs⟩ := List.forall_mem_cons.mp h
    have hle : (if c.code = code then weight c.kind else 0) ≤ weight c.kind := by
      split
      · exact le_refl _
      · exact hc
    rw [load_naming_cons, load_cons]
    exact add_le_add hle (ih hcs)

/-- Contacts regrouped by what they name weigh what they weigh one by one. -/
theorem sum_load_naming {codes : List String} (hn : codes.Nodup) {cs : List Contact}
    (h : ∀ c ∈ cs, c.code ∈ codes) :
    (codes.map fun code => load weight (naming code cs)).sum = load weight cs := by
  -- On the contacts: each adds its weight to the one group that its code names.
  induction cs with
  | nil => simp [load, naming]
  | cons c cs ih =>
    obtain ⟨hc, hcs⟩ := List.forall_mem_cons.mp h
    have hone : (codes.map fun code => if c.code = code then weight c.kind else 0).sum =
        weight c.kind := by
      simp only [eq_comm (a := c.code)]
      rw [List.sum_map_ite_eq, List.nodup_iff_count_eq_one.mp hn _ hc, one_nsmul]
      simp
    simp only [load_naming_cons, List.sum_map_add]
    rw [hone, ih hcs, load_cons]

/-- A share is a fraction. -/
theorem share_mem {cs : List Contact} (h : ∀ c ∈ cs, 0 ≤ weight c.kind) (ht : 0 < load weight cs)
    (code : String) : 0 ≤ share weight cs code ∧ share weight cs code ≤ 1 :=
  ⟨div_nonneg (load_naming_nonneg weight h code) ht.le,
    (div_le_one ht).mpr (load_naming_le weight h code)⟩

/-- All shares together make the whole. -/
theorem sum_share {codes : List String} (hn : codes.Nodup) {cs : List Contact}
    (h : ∀ c ∈ cs, c.code ∈ codes) (ht : 0 < load weight cs) :
    (codes.map (share weight cs)).sum = 1 := by
  have hmul : codes.map (share weight cs) =
      codes.map fun code => load weight (naming code cs) * (load weight cs)⁻¹ :=
    List.map_congr_left fun _ _ => div_eq_mul_inv _ _
  rw [hmul, List.sum_map_mul_right, sum_load_naming weight hn h, mul_inv_cancel₀ ht.ne']

end Load

section Shares

variable {weight : ContactKind → Rat} {cs : List Contact}

/-- The factors of a candidate contribute the weights of the contacts that name it. -/
theorem contributions_factorsFor (code : String) :
    ((factorsFor weight cs code).map Factor.contribution).sum = load weight (naming code cs) := by
  induction cs with
  | nil => rfl
  | cons c cs ih =>
    rw [load_naming_cons, ← ih]
    simp only [factorsFor, List.map_cons, List.sum_cons, Factor.contribution]
    split <;> simp

theorem weights_factorsFor (code : String) :
    ((factorsFor weight cs code).map (·.weight)).sum = load weight cs := by
  simp only [factorsFor, List.map_map, Function.comp_def, load]

/-- The factors are sound if no contact weighs less than nothing. -/
theorem sound_factorsFor (code : String) :
    (∀ f ∈ factorsFor weight cs code, f.Sound) ↔ ∀ c ∈ cs, 0 ≤ weight c.kind := by
  simp only [factorsFor, List.forall_mem_map]
  refine forall₂_congr fun c _ => ⟨fun h => h.weight_nonneg, fun h => ⟨h, ?_, ?_⟩⟩
  · show (0 : Rat) ≤ if c.code = code then 1.0 else 0.0
    split <;> simp
  · show (if c.code = code then 1.0 else 0.0 : Rat) ≤ 1
    split <;> simp

/-- A candidate is scored exactly if no usable contact weighs less than nothing and together they
weigh something; the score is its share. -/
theorem score_factorsFor {code : String} {s : Rat} :
    Scoring.score (factorsFor weight cs code) = .ok s ↔
      (∀ c ∈ cs, 0 ≤ weight c.kind) ∧ 0 < load weight cs ∧ s = share weight cs code := by
  rw [Scoring.score_eq_ok, sound_factorsFor, weights_factorsFor, contributions_factorsFor, share]

/-- All candidates are scored, or none, and each has its share. -/
theorem scoresOf_eq_ok {sorted : SortedContacts Rat} {scores : Scores Rat}
    (hne : sorted.usable ≠ []) :
    scoresOf weight sorted = .ok scores ↔
      (∀ c ∈ sorted.usable, 0 ≤ weight c.kind) ∧ 0 < load weight sorted.usable ∧
      scores = sorted.candidates.map fun code => (code, share weight sorted.usable code) := by
  unfold scoresOf
  constructor
  · intro h
    -- Some contact is usable, so there is a candidate, and its score tells of the weights.
    obtain ⟨c, hc⟩ := List.exists_mem_of_ne_nil _ hne
    have hcand : c.code ∈ sorted.candidates := mem_firstSeen.mpr (List.mem_map_of_mem hc)
    obtain ⟨e, he⟩ := exists_ok_of_mem h hcand
    obtain ⟨s, hs, -⟩ := map_eq_ok.mp he
    obtain ⟨hnonneg, hpos, -⟩ := score_factorsFor.mp hs
    refine ⟨hnonneg, hpos, eq_map_of_mapM_eq_ok h ?_⟩
    intro code _ e he
    obtain ⟨s, hs, rfl⟩ := map_eq_ok.mp he
    rw [(score_factorsFor.mp hs).2.2]
  · rintro ⟨hnonneg, hpos, rfl⟩
    apply mapM_eq_ok_map
    intro code _
    exact map_eq_ok.mpr ⟨_, score_factorsFor.mpr ⟨hnonneg, hpos, rfl⟩, rfl⟩

/-- What a usable contact contributes to the trace. -/
theorem usableLine_eq {total : Rat} (ht : 0 < total) (c : Contact) : usableLine weight total c =
    { factor := c.kind.code, code := c.code, weight := weight c.kind,
      contribution := weight c.kind / total } := by
  rw [usableLine, zero_rat]
  exact congrArg (TraceLine.mk _ _ _ · _) (if_pos ht)

theorem excludedLine_eq (c : Contact) : SortedContacts.excludedLine weight c =
    { factor := c.kind.code, code := c.code, weight := weight c.kind, contribution := 0,
      note := "excluded: unknown jurisdiction" } := by
  rw [SortedContacts.excludedLine, zero_rat]

/-- The lines of a candidate add up to its share. -/
theorem sum_usableLine {total : Rat} (ht : 0 < total) (code : String) :
    (((cs.map (usableLine weight total)).filter fun l => l.code = code).map
      (·.contribution)).sum = load weight (naming code cs) / total := by
  have hline (c : Contact) : (usableLine weight total c).contribution =
      weight c.kind * total⁻¹ := by
    rw [usableLine_eq ht, div_eq_mul_inv]
  rw [List.filter_map, List.map_map]
  show ((naming code cs).map fun c => (usableLine weight total c).contribution).sum = _
  simp only [hline, List.sum_map_mul_right]
  rw [← div_eq_mul_inv, load]

theorem sum_excludedLine (code : String) :
    (((cs.map (SortedContacts.excludedLine weight)).filter fun l => l.code = code).map
      (·.contribution)).sum = 0 := by
  apply List.sum_eq_zero
  intro x hx
  obtain ⟨l, hl, rfl⟩ := List.mem_map.mp hx
  obtain ⟨c, -, rfl⟩ := List.mem_map.mp (List.mem_of_mem_filter hl)
  rw [excludedLine_eq]

end Shares

/-- How the scores and the trace of a dispute account for its contacts. -/
structure Accounts (facts : Facts) (registry : Option Registry) (weight : ContactKind → Rat)
    (scored : Scored Rat) : Prop where
  /-- The candidates are the jurisdictions of the usable contacts, each once. -/
  mem_candidates : ∀ code, code ∈ scored.scores.map (·.1) ↔
    ∃ c ∈ (facts.recognised registry).contacts, c.code = code
  nodup_candidates : (scored.scores.map (·.1)).Nodup
  score_eq : ∀ e ∈ scored.scores, e.2 = share weight (facts.recognised registry).contacts e.1
  score_mem : ∀ e ∈ scored.scores, 0 ≤ e.2 ∧ e.2 ≤ 1
  sum_scores : (scored.scores.map (·.2)).sum = 1
  /-- The excluded contacts come first and contribute nothing. -/
  trace_eq : scored.trace =
    (facts.unknown registry).map (fun c =>
      { factor := c.kind.code, code := c.code, weight := weight c.kind, contribution := 0,
        note := "excluded: unknown jurisdiction" }) ++
    (facts.recognised registry).contacts.map (fun c =>
      { factor := c.kind.code, code := c.code, weight := weight c.kind,
        contribution := weight c.kind / load weight (facts.recognised registry).contacts })
  /-- Every contact is traced once. -/
  trace_perm : (scored.trace.map fun l => (l.factor, l.code)).Perm
    (facts.contacts.map fun c => (c.kind.code, c.code))
  /-- The lines of a candidate add up to its score. -/
  sum_contributions : ∀ e ∈ scored.scores,
    ((scored.trace.filter fun l => l.code = e.1).map (·.contribution)).sum = e.2

theorem accounts_of {facts : Facts} {registry : Option Registry} {weight : ContactKind → Rat}
    {cs : List Contact} (hcs : cs = (facts.recognised registry).contacts)
    (hnonneg : ∀ c ∈ cs, 0 ≤ weight c.kind) (hpos : 0 < load weight cs) :
    Accounts facts registry weight
      { sorted := .ofFacts facts registry weight
        scores := (firstSeen (cs.map (·.code))).map fun code => (code, share weight cs code)
        trace := (facts.unknown registry).map (SortedContacts.excludedLine weight) ++
          cs.map (usableLine weight (load weight cs)) } := by
  -- Each candidate stands once among the scores, in the order of the contacts.
  have hfst : ((firstSeen (cs.map (·.code))).map fun code => (code, share weight cs code)).map
      (·.1) = firstSeen (cs.map (·.code)) := by
    rw [List.map_map]
    exact List.map_id _
  have hcodes : ∀ c ∈ cs, c.code ∈ firstSeen (cs.map (·.code)) := fun c hc =>
    mem_firstSeen.mpr (List.mem_map_of_mem hc)
  subst hcs
  constructor
  case mem_candidates =>
    intro code
    rw [hfst, mem_firstSeen, List.mem_map]
  case nodup_candidates =>
    rw [hfst]
    exact nodup_firstSeen _
  case score_eq =>
    intro e he
    obtain ⟨code, -, rfl⟩ := List.mem_map.mp he
    rfl
  case score_mem =>
    intro e he
    obtain ⟨code, -, rfl⟩ := List.mem_map.mp he
    exact share_mem weight hnonneg hpos code
  case sum_scores =>
    rw [List.map_map]
    exact sum_share weight (nodup_firstSeen _) hcodes hpos
  case trace_eq =>
    refine congrArg₂ (· ++ ·) ?_ ?_
    · exact List.map_congr_left fun c _ => excludedLine_eq c
    · exact List.map_congr_left fun c _ => usableLine_eq hpos c
  case trace_perm =>
    rw [List.map_append, List.map_map, List.map_map]
    have hperm := (facts.unknown_append_recognised registry).map fun c => (c.kind.code, c.code)
    rwa [List.map_append] at hperm
  case sum_contributions =>
    intro e he
    obtain ⟨code, -, rfl⟩ := List.mem_map.mp he
    -- Excluded contacts contribute nothing, and the lines of the usable ones make the share.
    rw [List.filter_append, List.map_append, List.sum_append, sum_excludedLine,
      sum_usableLine hpos, zero_add, share]

/-- Whenever candidates are scored, scores and trace account for the same shares. -/
theorem score_accounts {m : Materials Rat} {facts : Facts} {scored : Scored Rat}
    (h : score m facts = .ok scored) : ∃ overrides, m.weights = .ok overrides ∧
      Accounts facts m.registry (ContactKind.weight facts.category overrides) scored := by
  rw [score_eq] at h
  obtain ⟨overrides, hw, h⟩ := bind_eq_ok.mp h
  obtain ⟨⟨c, hc, -⟩, scores, hs, rfl⟩ := scoreSorted_eq_ok.mp h
  obtain ⟨hnonneg, hpos, rfl⟩ := (scoresOf_eq_ok (List.ne_nil_of_mem hc)).mp hs
  rw [sum_rat]
  exact ⟨overrides, hw, accounts_of rfl hnonneg hpos⟩

/-- Two contacts of one known jurisdiction, one of another, and one of an unknown one. -/
def dispute : Facts where
  topic := .comparativeNegligence
  contacts := [⟨.placeOfInjury, "US-NY"⟩, ⟨.placeOfBusiness, "ATLANTIS"⟩,
    ⟨.placeOfConduct, "US-CA"⟩, ⟨.domicileOfPlaintiff, "US-NY"⟩]

/-- The dispute may be built of codes that are spelled in other ways. -/
theorem canonical_dispute : dispute.Canonical := by
  have hbuilt : Facts.build "comparative_negligence" [("place_of_injury", .text "us-ny"),
      ("place_of_business", .text "Atlantis"), ("place_of_conduct", .text " US-CA"),
      ("domicile_of_plaintiff", .text "US-NY ")] "" (([] : List (Reference × String)).map
        fun i => .of i.1 i.2) = .ok dispute := by rfl
  exact Facts.canonical_of_build hbuilt

/-- Two states, with one weight overridden. -/
def reweighted : Materials Rat where
  registry := some .twoStates
  catalog := none
  policy := .ofEnvironment []
  lawQuality := .ok []
  weights := .ok [(.placeOfConduct, 4.0)]

/-- A dispute with an adjusted weight and a contact that is left out. -/
theorem score_accounts_dispute : ∃ scored, score reweighted dispute = .ok scored ∧
    ∃ overrides, reweighted.weights = .ok overrides ∧
      Accounts dispute reweighted.registry (ContactKind.weight dispute.category overrides)
        scored := by
  obtain ⟨scored, h⟩ := exists_of_isOk (x := score reweighted dispute) (by decide +kernel)
  exact ⟨scored, h, score_accounts h⟩

end ComparativeLaw.Relationship
