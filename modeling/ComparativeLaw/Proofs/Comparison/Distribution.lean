import ComparativeLaw.Proofs.Catalog.Views
import ComparativeLaw.Proofs.Comparison.Consulting

namespace ComparativeLaw

namespace Tally

variable {α : Type} {t ranking : Tally α}

/-- A ranking of a tally: no rule stands before one with more holders, and rules with equally many
stand as they do in the tally. -/
structure Ranks (ranking t : Tally α) : Prop where
  perm : ranking.Perm t
  sorted : ranking.Pairwise fun a b => b.2.length ≤ a.2.length
  stable : ∀ n, ranking.filter (·.2.length = n) = t.filter (·.2.length = n)

def noFewer (a b : Rule × List α) : Bool := b.2.length ≤ a.2.length

theorem noFewer_trans (a b c : Rule × List α) (hab : noFewer a b = true)
    (hbc : noFewer b c = true) : noFewer a c = true :=
  decide_eq_true (Nat.le_trans (of_decide_eq_true hbc) (of_decide_eq_true hab))

theorem noFewer_total (a b : Rule × List α) : (noFewer a b || noFewer b a) = true := by
  rw [Bool.or_eq_true]
  exact (Nat.le_total b.2.length a.2.length).imp decide_eq_true decide_eq_true

/-- Rules with one number of holders are in order before they are sorted. -/
theorem filter_sublist_ranked (t : Tally α) (n : Nat) :
    (t.filter (·.2.length = n)).Sublist t.ranked := by
  have hequal : ∀ e ∈ t.filter (·.2.length = n), e.2.length = n := by
    intro e he
    simpa using (List.mem_filter.mp he).2
  have hordered : (t.filter (·.2.length = n)).Pairwise fun a b => noFewer a b = true := by
    rw [List.pairwise_iff_forall_sublist]
    intro a b hab
    have hsame : b.2.length = a.2.length :=
      (hequal b (hab.subset (by simp))).trans (hequal a (hab.subset (by simp))).symm
    exact decide_eq_true hsame.le
  exact List.sublist_mergeSort noFewer_trans noFewer_total hordered List.filter_sublist

theorem ranks_ranked (t : Tally α) : Ranks t.ranked t := by
  have hperm : t.ranked.Perm t := List.mergeSort_perm t noFewer
  have hsorted : t.ranked.Pairwise fun a b => noFewer a b = true :=
    List.pairwise_mergeSort noFewer_trans noFewer_total t
  refine ⟨hperm, hsorted.imp of_decide_eq_true, fun n => ?_⟩
  have hsublist := (filter_sublist_ranked t n).filter (·.2.length = n)
  simp only [List.filter_filter, Bool.and_self] at hsublist
  exact (hsublist.eq_of_length (hperm.filter _).length_eq.symm).symm

/-- A ranking starts with the leader. -/
theorem Ranks.head?_eq (h : Ranks ranking t) {others : Tally α} {best : Rule × List α}
    (hlead : t.leading? = some (best, others)) : ranking.head? = some best := by
  obtain ⟨before, after, rfl, -, hbefore, hafter⟩ := exists_of_leading?_eq_some hlead
  -- The leader is the first rule with its number of holders, in the tally and so in the ranking.
  have hfirst : (ranking.filter (·.2.length = best.2.length)).head? = some best := by
    have hnone : before.filter (·.2.length = best.2.length) = [] := by
      rw [List.filter_eq_nil_iff]
      intro e he
      simpa using (hbefore e he).ne
    rw [h.stable, List.filter_append, hnone]
    simp
  cases ranking with
  | nil => cases hfirst
  | cons x ranking =>
    have hle : x.2.length ≤ best.2.length := by
      have hx := h.perm.mem_iff.mp List.mem_cons_self
      rcases List.mem_append.mp hx with hx | hx
      · exact (hbefore x hx).le
      · rcases List.mem_cons.mp hx with rfl | hx
        · exact Nat.le_refl _
        · exact hafter x hx
    have hge : best.2.length ≤ x.2.length := by
      have hbest : best ∈ x :: ranking := h.perm.mem_iff.mpr (by simp)
      rcases List.mem_cons.mp hbest with rfl | hbest
      · exact Nat.le_refl _
      · exact (List.pairwise_cons.mp h.sorted).1 best hbest
    rw [List.filter_cons, if_pos (decide_eq_true (Nat.le_antisymm hle hge))] at hfirst
    exact hfirst

end Tally

namespace Catalog

/-- The jurisdictions with an entry on a topic, by the texts of their codes. -/
def refsOn (c : Catalog) (topic : Topic) : List Reference :=
  (c.ofTopic topic).map fun e => (Reference.known e.jurisdiction).spelled

/-- A comparison that shows the distribution of a topic over a catalogue. -/
structure Distributes (c : Catalog) (topic : Topic) (r : Comparison) : Prop where
  ranks : Tally.Ranks (c.distribution topic) r.counts
  sum_eq : ((c.distribution topic).map (·.2.length)).sum = (c.ofTopic topic).length
  head?_eq : ∃ first, (c.distribution topic).head? = some first ∧ r.majority = some first.1 ∧
    r.majorityCount = first.2.length
  unknown_eq : r.unknown = []

/-- The comparison of all jurisdictions with an entry on a topic. -/
def compared (c : Catalog) (topic : Topic) : Comparison :=
  .ofCodes c topic ((c.ofTopic topic).map (·.jurisdiction.code))

section

variable {entries : List RuleEntry} {registry : Option Registry} {c : Catalog} {topic : Topic}
variable (hbuilt : ofEntries entries registry = .ok c)
variable (hcanonical : ∀ e ∈ entries, e.jurisdiction.code.Canonical)
include hbuilt

theorem nodup_codes_ofTopic (topic : Topic) :
    (((c.ofTopic topic).map (·.jurisdiction.code)).map Code.key).Nodup := by
  rw [List.map_map]
  exact nodup_ofTopic hbuilt topic

include hcanonical

theorem canonical_of_mem_ofTopic {e : RuleEntry} (he : e ∈ c.ofTopic topic) :
    e.jurisdiction.code.Canonical := by
  rw [ofTopic_of_ofEntries hbuilt] at he
  exact hcanonical e (List.mem_filter.mp he).1

theorem run_refsOn (htwo : 2 ≤ (c.ofTopic topic).length) :
    Comparison.run c topic (c.refsOn topic) = .ok (c.compared topic) := by
  have hcodes : (c.refsOn topic).map Reference.code =
      (c.ofTopic topic).map (·.jurisdiction.code) := by
    rw [refsOn, List.map_map]
    exact List.map_congr_left fun e he =>
      Reference.code_spelled (canonical_of_mem_ofTopic hbuilt hcanonical he)
  rw [Comparison.run_of_nodup, hcodes]
  · rfl
  · rwa [refsOn, List.length_map]
  · rw [hcodes]
    exact nodup_codes_ofTopic hbuilt topic

/-- Every entry on a topic is found again under the text of its code. -/
theorem rule?_compared {e : RuleEntry} (he : e ∈ c.ofTopic topic) :
    (c.compared topic).rule? e.jurisdiction.code = some e.rule := by
  have hcode : (Reference.known e.jurisdiction).spelled.code = e.jurisdiction.code :=
    Reference.code_spelled (canonical_of_mem_ofTopic hbuilt hcanonical he)
  have hentry : Catalog.entry? c (Reference.known e.jurisdiction).spelled topic = some e := by
    obtain ⟨hnone, rfl⟩ := ofEntries_eq_ok.mp hbuilt
    rw [ofTopic_ofDistinct] at he
    obtain ⟨hmem, htopic⟩ := List.mem_filter.mp he
    rw [entry?_ofDistinct (nodup_of_firstRepeat? hnone).1, hcode]
    exact ⟨hmem, congrArg (Prod.mk _) (of_decide_eq_true htopic)⟩
  have hrule : c.rule? (Reference.known e.jurisdiction).spelled topic = some e.rule :=
    congrArg (Option.map RuleEntry.rule) hentry
  rw [compared, Comparison.rule?_ofCodes_of_mem (nodup_codes_ofTopic hbuilt topic)
    (List.mem_map_of_mem he)]
  exact hrule

theorem unknown_compared : (c.compared topic).unknown = [] := by
  show ((c.ofTopic topic).map (·.jurisdiction.code)).filter
    (fun code => ((c.compared topic).rule? code).isNone) = []
  rw [List.filter_eq_nil_iff, List.forall_mem_map]
  intro e he
  rw [rule?_compared hbuilt hcanonical he]
  exact Bool.false_ne_true

theorem held_compared : (c.compared topic).held =
    (c.ofTopic topic).map fun e => (e.jurisdiction.code, e.rule) := by
  show ((c.ofTopic topic).map (·.jurisdiction.code)).filterMap
    (fun code => ((c.compared topic).rule? code).map fun r => (code, r)) = _
  rw [List.filterMap_map, ← List.filterMap_eq_map]
  refine List.filterMap_congr fun e he => ?_
  rw [Function.comp_apply, rule?_compared hbuilt hcanonical he]
  rfl

/-- Both count the same rules of the same jurisdictions. -/
theorem counts_compared : (c.compared topic).counts =
    .ofRules ((c.ofTopic topic).map fun e => (e.jurisdiction.code, e.rule)) := by
  rw [← held_compared hbuilt hcanonical]
  rfl

/-- A comparison of all jurisdictions with an entry on a topic agrees with the distribution of the
topic over the catalogue, also about which of equally common rules comes first. -/
theorem run_refsOn_distributes (htwo : 2 ≤ (c.ofTopic topic).length) :
    ∃ r, Comparison.run c topic (c.refsOn topic) = .ok r ∧ c.Distributes topic r := by
  have hcounts : (c.compared topic).counts =
      .ofRules ((c.ofTopic topic).map fun e => (e.jurisdiction.code, e.rule)) :=
    counts_compared hbuilt hcanonical
  have hranks : Tally.Ranks (c.distribution topic) (c.compared topic).counts := by
    rw [distribution, ← hcounts]
    exact Tally.ranks_ranked _
  have hsum : ((c.compared topic).counts.map (·.2.length)).sum = (c.ofTopic topic).length := by
    rw [hcounts, Tally.sum_ofRules, List.length_map]
  refine ⟨c.compared topic, run_refsOn hbuilt hcanonical htwo, hranks,
    (hranks.perm.map _).sum_eq.trans hsum, ?_, unknown_compared hbuilt hcanonical⟩
  cases hlead : (c.compared topic).counts.leading? with
  | none =>
    -- A tally of two entries or more is not empty.
    rw [Tally.leading?_eq_none.mp hlead] at hsum
    rw [← hsum] at htwo
    exact absurd htwo (by decide)
  | some found =>
    have hleader : (c.compared topic).leader = some found.1 :=
      congrArg (Option.map Prod.fst) hlead
    refine ⟨found.1, hranks.head?_eq hlead, ?_, ?_⟩
    · rw [Comparison.majority, hleader]
      rfl
    · rw [Comparison.majorityCount, hleader]
      rfl

end

theorem run_refsOn_distributes_evenlySplit :
    ∃ c, ofEntries Comparison.evenlySplit none = .ok c ∧
      (∀ e ∈ Comparison.evenlySplit, e.jurisdiction.code.Canonical) ∧
      2 ≤ (c.ofTopic .comparativeNegligence).length ∧
      ∃ r, Comparison.run c .comparativeNegligence (c.refsOn .comparativeNegligence) = .ok r ∧
        c.Distributes .comparativeNegligence r := by
  have hbuilt : ofEntries Comparison.evenlySplit none =
      .ok (ofDistinct Comparison.evenlySplit none) := ofEntries_eq_ok.mpr ⟨rfl, rfl⟩
  have hcanonical : ∀ e ∈ Comparison.evenlySplit, e.jurisdiction.code.Canonical := by
    have hself : ∀ s ∈ ["US-NY", "US-CA", "US-FL", "US-TX"], canonicalCode s = s := by
      decide +kernel
    intro e he
    obtain ⟨x, hx, rfl⟩ := List.mem_map.mp he
    exact ⟨x.1, rfl, hself x.1 (List.mem_map_of_mem hx)⟩
  have htwo : 2 ≤ ((ofDistinct Comparison.evenlySplit none).ofTopic
      .comparativeNegligence).length := by
    decide +kernel
  exact ⟨_, hbuilt, hcanonical, htwo, run_refsOn_distributes hbuilt hcanonical htwo⟩

end Catalog
end ComparativeLaw
