import ComparativeLaw.Proofs.Catalog.Views
import ComparativeLaw.Proofs.Comparison.Consulting
import ComparativeLaw.Proofs.Comparison.Matrix
import Mathlib.Tactic.Linarith

namespace ComparativeLaw

namespace Similarity

theorem value_mem (s : Similarity) : (0 : Rat) ≤ s.value ∧ s.value ≤ (1 : Rat) := by
  cases s <;> norm_num

theorem value_eq_one_iff {s : Similarity} : s.value = (1 : Rat) ↔ s = same := by
  cases s <;> simp

theorem value_eq_zero_iff {s : Similarity} : s.value = (0 : Rat) ↔ s = different := by
  cases s <;> simp

def total (ss : List Similarity) : Rat := (ss.map value).sum

theorem total_cons (s : Similarity) (ss : List Similarity) :
    total (s :: ss) = s.value + total ss := by
  rw [total, List.map_cons, List.sum_cons]
  rfl

theorem total_mem (ss : List Similarity) : 0 ≤ total ss ∧ total ss ≤ ss.length := by
  induction ss with
  | nil => simp [total]
  | cons s ss ih =>
    have hs := value_mem s
    rw [total_cons, List.length_cons, Nat.cast_add, Nat.cast_one]
    constructor <;> linarith

theorem total_eq_length_iff {ss : List Similarity} :
    total ss = ss.length ↔ ∀ s ∈ ss, s = same := by
  induction ss with
  | nil => simp [total]
  | cons s ss ih =>
    have hs := (value_mem s).2
    have hrest := (total_mem ss).2
    rw [total_cons, List.length_cons, Nat.cast_add, Nat.cast_one, List.forall_mem_cons, ← ih,
      ← value_eq_one_iff]
    constructor
    · intro h
      constructor <;> linarith
    · rintro ⟨h, h'⟩
      linarith

theorem total_eq_zero_iff {ss : List Similarity} : total ss = 0 ↔ ∀ s ∈ ss, s = different := by
  induction ss with
  | nil => simp [total]
  | cons s ss ih =>
    have hs := (value_mem s).1
    have hrest := (total_mem ss).1
    rw [total_cons, List.forall_mem_cons, ← ih, ← value_eq_zero_iff]
    constructor
    · intro h
      constructor <;> linarith
    · rintro ⟨h, h'⟩
      linarith

variable {ss : List Similarity}

theorem mean_nil : (mean [] : Rat) = 1 / 2 := value_unknown

theorem mean_eq (h : ss ≠ []) : (mean ss : Rat) = total ss / ss.length := by
  have hempty : ¬ ss.isEmpty = true := by
    rw [List.isEmpty_iff]
    exact h
  have hlength : (OfScientific.ofScientific ss.length false 0 : Rat) = ss.length := by
    show Rat.ofScientific ss.length false 0 = ss.length
    rw [Rat.ofScientific_false_def, pow_zero, Nat.mul_one]
  rw [mean, if_neg hempty, Scalar.sum_rat, hlength]
  rfl

theorem length_pos (h : ss ≠ []) : (0 : Rat) < ss.length :=
  Nat.cast_pos.mpr (List.length_pos_iff.mpr h)

theorem mean_mem (ss : List Similarity) : 0 ≤ (mean ss : Rat) ∧ (mean ss : Rat) ≤ 1 := by
  by_cases h : ss = []
  · rw [h, mean_nil]
    norm_num
  · have hpos := length_pos h
    obtain ⟨hnonneg, hle⟩ := total_mem ss
    rw [mean_eq h]
    exact ⟨div_nonneg hnonneg hpos.le, (div_le_one₀ hpos).mpr hle⟩

theorem mean_eq_one_iff (h : ss ≠ []) : (mean ss : Rat) = 1 ↔ ∀ s ∈ ss, s = same := by
  rw [mean_eq h, div_eq_one_iff_eq (length_pos h).ne', total_eq_length_iff]

theorem mean_eq_zero_iff (h : ss ≠ []) : (mean ss : Rat) = 0 ↔ ∀ s ∈ ss, s = different := by
  rw [mean_eq h, div_eq_zero_iff, or_iff_left (length_pos h).ne', total_eq_zero_iff]

end Similarity

theorem Topic.mem_all (topic : Topic) : topic ∈ Topic.all := by
  cases topic <;> decide

theorem Topic.nodup_all : Topic.all.Nodup := by
  decide

namespace Catalog

variable {c : Catalog} {a b : Reference} {topic : Topic}

/-- The topics over which the mean is taken. -/
def selected (c : Catalog) (a b : Reference) (topics : Option (List Topic)) : List Topic :=
  topics.getD (c.sharedTopics a b)

/-- Two jurisdictions have the same rule on a topic. Each has the same rule as itself. -/
def Agree (c : Catalog) (a b : Reference) (topic : Topic) : Prop :=
  ∃ r s, c.rule? a topic = some r ∧ c.rule? b topic = some s ∧
    (a.code.key = b.code.key ∨ (r == s) = true)

def Differ (c : Catalog) (a b : Reference) (topic : Topic) : Prop :=
  ∃ r s, c.rule? a topic = some r ∧ c.rule? b topic = some s ∧ a.code.key ≠ b.code.key ∧
    (r == s) = false

/-- The similarity that a comparison of two jurisdictions on a topic shows. -/
def ComparesAs (c : Catalog) (a b : Reference) (topic : Topic) (s : Similarity) : Prop :=
  ∃ r, Comparison.run c topic [a, b] = .ok r ∧ r.between a b = .ok s

/-- What the similarity of two jurisdictions over topics is. -/
structure Averages (c : Catalog) (a b : Reference) (topics : Option (List Topic)) : Prop where
  symm : (c.similarity a b topics : Rat) = c.similarity b a topics
  nonneg : 0 ≤ (c.similarity a b topics : Rat)
  le_one : (c.similarity a b topics : Rat) ≤ 1
  half : c.selected a b topics = [] → (c.similarity a b topics : Rat) = 1 / 2
  eq_one_iff : c.selected a b topics ≠ [] →
    ((c.similarity a b topics : Rat) = 1 ↔ ∀ topic ∈ c.selected a b topics, c.Agree a b topic)
  eq_zero_iff : c.selected a b topics ≠ [] →
    ((c.similarity a b topics : Rat) = 0 ↔ ∀ topic ∈ c.selected a b topics, c.Differ a b topic)
  /-- Two canonical codes are compared topic by topic, and the mean of that is taken. -/
  eq_mean : c.selected a b topics ≠ [] → a.code.Canonical → b.code.Canonical → a.code ≠ b.code →
    ∃ ss, List.Forall₂ (c.ComparesAs a b) (c.selected a b topics) ss ∧
      (c.similarity a b topics : Rat) = (ss.map Similarity.value).sum / ss.length
  /-- Without a choice all topics are taken on which one of the two has an entry, each once. -/
  selected_none : (c.selected a b none).Nodup ∧ ∀ topic, topic ∈ c.selected a b none ↔
    ∃ e, c.entry? a topic = some e ∨ c.entry? b topic = some e

theorem similarity_eq (topics : Option (List Topic)) : (c.similarity a b topics : Rat) =
    Similarity.mean ((c.selected a b topics).map (c.relation a b)) := rfl

theorem rule?_congr_key (h : a.code.key = b.code.key) (topic : Topic) :
    c.rule? a topic = c.rule? b topic := by
  rw [rule?, rule?]
  unfold entry?
  rw [h]

theorem relation_symm (c : Catalog) (a b : Reference) (topic : Topic) :
    c.relation a b topic = c.relation b a topic := by
  by_cases h : a.code.key = b.code.key
  · rw [relation, if_pos h, relation, if_pos h.symm, rule?_congr_key h]
  · rw [relation, if_neg h, relation, if_neg (Ne.symm h), Similarity.ofRules_symm]

theorem sharedTopics_symm (c : Catalog) (a b : Reference) :
    c.sharedTopics a b = c.sharedTopics b a := by
  refine List.filter_congr fun topic _ => Bool.eq_iff_iff.mpr ?_
  rw [List.contains_iff_mem, List.contains_iff_mem, List.map_append, List.map_append,
    List.mem_append, List.mem_append, or_comm]

/-- Where both have a rule, these decide; a jurisdiction always has the same rule as itself. -/
theorem relation_of_rules {r s : Rule} (hr : c.rule? a topic = some r)
    (hs : c.rule? b topic = some s) : c.relation a b topic =
      if a.code.key = b.code.key ∨ (r == s) = true then .same else .different := by
  by_cases h : a.code.key = b.code.key
  · simp [relation, h, hr]
  · simp [relation, Similarity.ofRules, h, hr, hs]

theorem relation_of_none (h : c.rule? a topic = none ∨ c.rule? b topic = none) :
    c.relation a b topic = .unknown := by
  by_cases hkey : a.code.key = b.code.key
  · have hnone : c.rule? a topic = none := h.elim id ((rule?_congr_key hkey topic).trans ·)
    rw [relation, if_pos hkey, hnone]
    rfl
  · rw [relation, if_neg hkey]
    rcases h with h | h
    · rw [h]
      rfl
    · rw [h, Similarity.ofRules_symm]
      rfl

theorem relation_eq_same_iff : c.relation a b topic = .same ↔ c.Agree a b topic := by
  cases hr : c.rule? a topic with
  | none => simp [relation_of_none (.inl hr), Agree, hr]
  | some r =>
    cases hs : c.rule? b topic with
    | none => simp [relation_of_none (.inr hs), Agree, hs]
    | some s => simp [relation_of_rules hr hs, Agree, hr, hs, or_iff_not_imp_left]

theorem relation_eq_different_iff : c.relation a b topic = .different ↔ c.Differ a b topic := by
  cases hr : c.rule? a topic with
  | none => simp [relation_of_none (.inl hr), Differ, hr]
  | some r =>
    cases hs : c.rule? b topic with
    | none => simp [relation_of_none (.inr hs), Differ, hs]
    | some s => simp [relation_of_rules hr hs, Differ, hr, hs]

/-- Two canonical codes compare as they relate. -/
theorem comparesAs_relation (c : Catalog) (ha : a.code.Canonical) (hb : b.code.Canonical)
    (hne : a.code.key ≠ b.code.key) (topic : Topic) :
    c.ComparesAs a b topic (c.relation a b topic) := by
  let codes := [a, b].map Reference.code
  have hnodup : (codes.map Code.key).Nodup := by simpa [codes] using hne
  have hrun : Comparison.run c topic [a, b] = .ok (Comparison.ofCodes c topic codes) :=
    Comparison.run_of_nodup (Nat.le_refl 2) hnodup
  have hrule (ref : Reference) (href : ref ∈ [a, b]) (hc : ref.code.Canonical) :
      (Comparison.ofCodes c topic codes).rule? ref.code = c.rule? ref topic :=
    (Comparison.rule?_ofCodes_of_mem hnodup (List.mem_map_of_mem href)).trans
      (rule?_congr (Reference.code_spelled hc))
  refine ⟨Comparison.ofCodes c topic codes, hrun, ?_⟩
  have hkeys : a.code.key ∈ (Comparison.ofCodes c topic codes).codes.map Code.key ∧
      b.code.key ∈ (Comparison.ofCodes c topic codes).codes.map Code.key := by
    simp [codes, Comparison.ofCodes]
  rw [Comparison.between_eq rfl, if_pos hkeys, if_neg hne, hrule a (by simp) ha,
    hrule b (by simp) hb, relation, if_neg hne]

theorem mem_sharedTopics {entries : List RuleEntry} {registry : Option Registry}
    (hbuilt : ofEntries entries registry = .ok c) : topic ∈ c.sharedTopics a b ↔
      ∃ e, c.entry? a topic = some e ∨ c.entry? b topic = some e := by
  obtain ⟨hnone, rfl⟩ := ofEntries_eq_ok.mp hbuilt
  have hnodup := (nodup_of_firstRepeat? hnone).1
  have hof (ref : Reference) :
      topic ∈ ((ofDistinct entries registry).ofJurisdiction ref).map (·.topic) ↔
        ∃ e, Catalog.entry? (ofDistinct entries registry) ref topic = some e := by
    simp only [entry?_ofDistinct hnodup, ofJurisdiction_ofDistinct, List.mem_map, List.mem_filter,
      decide_eq_true_eq, RuleEntry.key, Prod.mk.injEq, and_assoc]
  rw [sharedTopics, List.mem_filter, List.contains_iff_mem, List.map_append, List.mem_append,
    hof, hof, and_iff_right (Topic.mem_all topic), exists_or]

/-- The similarity of two jurisdictions of a catalogue is the mean over the topics. -/
theorem similarity_averages {entries : List RuleEntry} {registry : Option Registry}
    (hbuilt : ofEntries entries registry = .ok c) (a b : Reference)
    (topics : Option (List Topic)) : c.Averages a b topics where
  symm := by
    have hselected : c.selected a b topics = c.selected b a topics := by
      rw [selected, selected, sharedTopics_symm]
    rw [similarity_eq, similarity_eq, hselected]
    exact congrArg Similarity.mean (List.map_congr_left fun t _ => relation_symm c a b t)
  nonneg := (Similarity.mean_mem _).1
  le_one := (Similarity.mean_mem _).2
  half hnil := by
    rw [similarity_eq, hnil]
    exact Similarity.mean_nil
  eq_one_iff hne := by
    rw [similarity_eq, Similarity.mean_eq_one_iff (List.map_eq_nil_iff.not.mpr hne)]
    simp only [List.forall_mem_map, relation_eq_same_iff]
  eq_zero_iff hne := by
    rw [similarity_eq, Similarity.mean_eq_zero_iff (List.map_eq_nil_iff.not.mpr hne)]
    simp only [List.forall_mem_map, relation_eq_different_iff]
  eq_mean hne ha hb hcodes := by
    -- References of one key are the same to every policy, so only different ones are compared.
    have hkeys : a.code.key ≠ b.code.key := by
      obtain ⟨s, hs, -⟩ := ha
      obtain ⟨t, ht, -⟩ := hb
      rw [hs, ht] at hcodes ⊢
      exact fun h => hcodes (congrArg Code.text (Code.Key.text.inj h))
    refine ⟨(c.selected a b topics).map (c.relation a b), ?_, ?_⟩
    · rw [List.forall₂_map_right_iff, List.forall₂_same]
      exact fun topic _ => comparesAs_relation c ha hb hkeys topic
    · rw [similarity_eq, Similarity.mean_eq (List.map_eq_nil_iff.not.mpr hne)]
      rfl
  selected_none := ⟨Topic.nodup_all.filter _, fun _ => mem_sharedTopics hbuilt⟩

/-- Two states with one rule on negligence, two on damages caps, and a topic for one of them. -/
def coastalRules : List RuleEntry :=
  [("US-CA", Topic.comparativeNegligence, Rule.pureComparativeNegligence),
    ("US-CA", .damagesCaps, .noDamagesCap), ("US-NY", .damagesCaps, .cap .punitive 250000 []),
    ("US-NY", .comparativeNegligence, .pureComparativeNegligence),
    ("US-NY", .jointAndSeveralLiability, .jointAndSeveralLiability)].map fun e =>
      { jurisdiction := .ofCode e.1, topic := e.2.1, rule := e.2.2 }

/-- A one, a zero and a half. -/
theorem similarity_averages_coastalRules : ∃ c, ofEntries coastalRules none = .ok c ∧
    c.Averages (.text " us-ca") (.known (.ofCode "US-NY")) none ∧
    (c.similarity (.text " us-ca") (.known (.ofCode "US-NY")) none : Rat) = 1 / 2 := by
  have hbuilt : ((ofEntries coastalRules none).toOption.map fun c =>
      (c.similarity (.text " us-ca") (.known (.ofCode "US-NY")) none : Rat)) = some (1 / 2) := by
    decide +kernel
  obtain ⟨c, hc, hvalue⟩ := Checked.exists_of_map_toOption hbuilt
  exact ⟨c, hc, similarity_averages hc _ _ none, hvalue⟩

end Catalog
end ComparativeLaw
