import ComparativeLaw.Proofs.Comparison.Tally
import Mathlib.Data.List.Nodup

namespace ComparativeLaw.Comparison

/-- The rules of the jurisdictions, once each in the order of first occurrence. -/
def distinctRules (c : Comparison) : List Rule := (c.codes.filterMap c.rule?).eraseDups

/-- The jurisdictions without a rule, and those with each of the rules, the leading one first. -/
def groups (c : Comparison) : List (List Code) :=
  c.unknown :: (c.majority.toList ++ c.minority.map (·.1)).map c.adopters

/-- What a comparison says about its jurisdictions. -/
structure Partitions (c : Comparison) : Prop where
  /-- Every jurisdiction is in one of the groups, -/
  covers : ∀ code ∈ c.codes, ∃ group ∈ c.groups, code ∈ group
  /-- and in no two of them. -/
  disjoint : c.groups.Pairwise List.Disjoint
  countOf_eq : ∀ r, c.countOf r = (c.adopters r).length
  sum_counts : (c.counts.map (·.2.length)).sum = c.knownCount
  counts_rules : c.counts.map (·.1) = c.distinctRules
  majority_eq_none : c.majority = none ↔ ∀ code ∈ c.codes, code ∈ c.unknown
  /-- The leading rule is the first of those with the highest count. -/
  majority_eq : c.majority =
    c.distinctRules.find? fun r => c.distinctRules.all fun s => c.countOf s ≤ c.countOf r
  majorityCount_eq : ∀ r, c.majority = some r → c.majorityCount = c.countOf r
  minority_le : ∀ e ∈ c.minority, c.countOf e.1 ≤ c.majorityCount
  /-- The others are the remaining rules, in the same order. -/
  minority_rules : c.minority.map (·.1) = c.distinctRules.filter fun r => c.majority.all (· != r)
  /-- No rule is listed twice. -/
  distinct : c.distinctRules.Pairwise fun a b => (a == b) = false

theorem firstRepeated?_eq_none {seen : List Code.Key} {codes : List Code} :
    firstRepeated? seen codes = none ↔
      (codes.map Code.key).Nodup ∧ ∀ code ∈ codes, code.key ∉ seen := by
  induction codes generalizing seen with
  | nil => simp [firstRepeated?]
  | cons code codes ih =>
    rw [firstRepeated?, List.map_cons, List.nodup_cons, List.forall_mem_cons]
    by_cases hseen : code.key ∈ seen
    · have hcontains : seen.contains code.key = true := List.contains_iff_mem.mpr hseen
      rw [if_pos hcontains]
      exact iff_of_false (by simp) fun hall => hall.2.1 hseen
    · have hcontains : ¬ seen.contains code.key = true := fun h =>
        hseen (List.contains_iff_mem.mp h)
      rw [if_neg hcontains, ih]
      constructor
      · rintro ⟨hnodup, hall⟩
        refine ⟨⟨?_, hnodup⟩, hseen, fun x hx hmem => hall x hx (List.mem_cons_of_mem _ hmem)⟩
        intro hmem
        obtain ⟨x, hx, hkey⟩ := List.mem_map.mp hmem
        exact hall x hx (hkey ▸ List.mem_cons_self)
      · rintro ⟨⟨hnew, hnodup⟩, -, hall⟩
        refine ⟨hnodup, fun x hx hmem => ?_⟩
        rcases List.mem_cons.mp hmem with hkey | hmem
        · exact hnew (hkey ▸ List.mem_map_of_mem hx)
        · exact hall x hx hmem

def refsOf (texts : List String) : List Reference := texts.map .text

def codesOf (texts : List String) : List Code := texts.map fun s => .text (canonicalCode s)

theorem distinctCodes_refsOf {texts : List String} (htwo : 2 ≤ texts.length)
    (hnodup : (texts.map canonicalCode).Nodup) :
    distinctCodes (refsOf texts) = .ok (codesOf texts) := by
  have hcodes : (refsOf texts).map Reference.code = codesOf texts := by
    rw [refsOf, codesOf, List.map_map]
    rfl
  have hkeys : ((codesOf texts).map Code.key).Nodup := by
    have hmap : (codesOf texts).map Code.key = (texts.map canonicalCode).map Code.Key.text := by
      rw [codesOf, List.map_map, List.map_map]
      rfl
    rw [hmap]
    exact List.Nodup.map (fun _ _ h => Code.Key.text.inj h) hnodup
  have hnone : firstRepeated? [] (codesOf texts) = none :=
    firstRepeated?_eq_none.mpr ⟨hkeys, fun _ _ => List.not_mem_nil⟩
  have hlength : ¬ (codesOf texts).length < 2 := by
    rw [codesOf, List.length_map]
    omega
  rw [distinctCodes, hcodes]
  simp only [hnone, if_neg hlength]

/-- Each code has the rule that the catalogue holds under it. -/
theorem rule?_ofCodes (catalog : Catalog) (topic : Topic) {texts : List String} {s : String}
    (hs : s ∈ texts) :
    (ofCodes catalog topic (codesOf texts)).rule? (.text (canonicalCode s)) =
      catalog.rule? (.text (canonicalCode s)) topic := by
  let pairs := (codesOf texts).map fun code => (code.key, catalog.rule? (.text code.plain) topic)
  have hagree : ∀ e ∈ pairs, e.1 = .text (canonicalCode s) →
      e.2 = catalog.rule? (.text (canonicalCode s)) topic := by
    intro e he hkey
    obtain ⟨code, hcode, rfl⟩ := List.mem_map.mp he
    obtain ⟨s', -, rfl⟩ := List.mem_map.mp hcode
    rw [← Code.Key.text.inj hkey]
    rfl
  have hget := Table.get?_insertAll [] hagree
  have hmem : Code.Key.text (canonicalCode s) ∈ pairs.map (·.1) := by
    rw [List.map_map, codesOf, List.map_map]
    exact List.mem_map_of_mem hs
  rw [if_pos hmem] at hget
  rw [rule?, ofCodes]
  exact congrArg (Option.getD · none) hget

/-- The jurisdictions with a rule, each with its own. -/
def held (c : Comparison) : List (Code × Rule) :=
  c.codes.filterMap fun code => (c.rule? code).map fun r => (code, r)

/-- A comparison whose parts come from the rules of its codes, none of them with a NaN. -/
structure Computed (c : Comparison) : Prop where
  unknown_eq : c.unknown = c.codes.filter fun code => (c.rule? code).isNone
  counts_eq : c.counts = Tally.ofRules c.held
  leader_eq : c.leader = c.counts.leading?.map (·.1)
  minority_eq : c.minority = (c.counts.leading?.map (·.2)).getD []
  beq_self : ∀ code ∈ c.codes, ∀ r, c.rule? code = some r → (r == r) = true

namespace Computed

variable {c : Comparison}

theorem mem_unknown (h : Computed c) {code : Code} :
    code ∈ c.unknown ↔ code ∈ c.codes ∧ c.rule? code = none := by
  rw [h.unknown_eq, List.mem_filter, Option.isNone_iff_eq_none]

theorem mem_adopters {code : Code} {r : Rule} : code ∈ c.adopters r ↔
    code ∈ c.codes ∧ ∃ own, c.rule? code = some own ∧ (own == r) = true := by
  rw [adopters, List.mem_filter]
  cases c.rule? code <;> simp

theorem beq_self_of_mem_held (h : Computed c) : ∀ e ∈ c.held, (e.2 == e.2) = true := by
  intro e he
  obtain ⟨code, hcode, hrule⟩ := List.mem_filterMap.mp he
  obtain ⟨r, hr, rfl⟩ := Option.map_eq_some_iff.mp hrule
  exact h.beq_self code hcode r hr

theorem rules_held : c.held.map (·.2) = c.codes.filterMap c.rule? := by
  rw [held, List.map_filterMap]
  congr 1
  funext code
  cases c.rule? code <;> rfl

theorem holders_held (r : Rule) : Tally.holders c.held r = c.adopters r := by
  rw [Tally.holders, held, adopters]
  induction c.codes with
  | nil => rfl
  | cons code codes ih =>
    cases hrule : c.rule? code with
    | none => simpa [hrule] using ih
    | some own => by_cases heq : (own == r) = true <;> simpa [hrule, heq] using ih

theorem length_held (h : Computed c) : c.held.length + c.unknown.length = c.codes.length := by
  rw [h.unknown_eq, held]
  induction c.codes with
  | nil => rfl
  | cons code codes ih =>
    cases hrule : c.rule? code with
    | none =>
      simp [hrule]
      omega
    | some own =>
      simp [hrule]
      omega

theorem counts_eq_map (h : Computed c) :
    c.counts = c.distinctRules.map fun r => (r, c.adopters r) := by
  rw [h.counts_eq, Tally.ofRules_eq h.beq_self_of_mem_held, rules_held]
  simp only [holders_held]
  rfl

theorem counts_rules (h : Computed c) : c.counts.map (·.1) = c.distinctRules := by
  rw [h.counts_eq_map, List.map_map]
  exact List.map_id _

theorem countOf_eq (h : Computed c) (r : Rule) : c.countOf r = (c.adopters r).length := by
  rw [countOf, h.counts_eq, Tally.count_ofRules h.beq_self_of_mem_held, holders_held]

theorem countOf_eq_of_mem (h : Computed c) {e : Rule × List Code} (he : e ∈ c.counts) :
    c.countOf e.1 = e.2.length := by
  rw [h.counts_eq_map] at he
  obtain ⟨r, -, rfl⟩ := List.mem_map.mp he
  exact h.countOf_eq r

theorem distinct : c.distinctRules.Pairwise fun a b => (a == b) = false :=
  Tally.pairwise_eraseDups _

/-- A rule that leads the others: more adopters than those before it, no fewer than those after. -/
structure Leads (c : Comparison) (best : Rule × List Code) (before after : Tally Code) : Prop where
  counts_eq : c.counts = before ++ best :: after
  leader_eq : c.leader = some best
  minority_eq : c.minority = before ++ after
  lt_best : ∀ e ∈ before, e.2.length < best.2.length
  le_best : ∀ e ∈ after, e.2.length ≤ best.2.length

theorem cases_leader (h : Computed c) :
    c.distinctRules = [] ∧ c.leader = none ∧ c.minority = [] ∨
      ∃ best before after, Leads c best before after := by
  cases hlead : c.counts.leading? with
  | none =>
    refine .inl ⟨?_, by rw [h.leader_eq, hlead]; rfl, by rw [h.minority_eq, hlead]; rfl⟩
    rw [← h.counts_rules, Tally.leading?_eq_none.mp hlead]
    rfl
  | some found =>
    obtain ⟨best, others⟩ := found
    obtain ⟨before, after, hcounts, hothers, hlt, hle⟩ := Tally.exists_of_leading?_eq_some hlead
    have hleader : c.leader = some best := by
      rw [h.leader_eq, hlead]
      rfl
    have hminority : c.minority = before ++ after := by
      rw [h.minority_eq, hlead]
      exact hothers
    exact .inr ⟨best, before, after, hcounts, hleader, hminority, hlt, hle⟩

section

variable {best : Rule × List Code} {before after : Tally Code}

theorem Leads.majority_eq (hl : Leads c best before after) : c.majority = some best.1 := by
  rw [majority, hl.leader_eq]
  rfl

theorem Leads.majorityCount_eq (hl : Leads c best before after) :
    c.majorityCount = best.2.length := by
  rw [majorityCount, hl.leader_eq]
  rfl

theorem Leads.distinctRules_eq (hl : Leads c best before after) (h : Computed c) :
    c.distinctRules = before.map (·.1) ++ best.1 :: after.map (·.1) := by
  rw [← h.counts_rules, hl.counts_eq, List.map_append, List.map_cons]

theorem Leads.countOf_le (hl : Leads c best before after) (h : Computed c) :
    ∀ e ∈ before ++ best :: after, c.countOf e.1 ≤ best.2.length := by
  intro e he
  rw [h.countOf_eq_of_mem (hl.counts_eq ▸ he)]
  rcases List.mem_append.mp he with he | he
  · exact Nat.le_of_lt (hl.lt_best e he)
  · rcases List.mem_cons.mp he with rfl | he
    · exact Nat.le_refl _
    · exact hl.le_best e he

theorem Leads.countOf_best (hl : Leads c best before after) (h : Computed c) :
    c.countOf best.1 = best.2.length := by
  apply h.countOf_eq_of_mem
  rw [hl.counts_eq]
  exact List.mem_append_right _ List.mem_cons_self

end

/-- The leading rule and the others are all the distinct rules. -/
theorem perm_distinctRules (h : Computed c) :
    (c.majority.toList ++ c.minority.map (·.1)).Perm c.distinctRules := by
  rcases h.cases_leader with ⟨hrules, hleader, hminority⟩ | ⟨best, before, after, hl⟩
  · rw [majority, hleader, hminority, hrules]
    exact List.Perm.refl _
  · rw [hl.distinctRules_eq h, hl.majority_eq, hl.minority_eq, List.map_append]
    have hmiddle : (best.1 :: (before.map (·.1) ++ after.map (·.1))).Perm
        (before.map (·.1) ++ best.1 :: after.map (·.1)) := List.perm_middle.symm
    exact hmiddle

theorem covers (h : Computed c) : ∀ code ∈ c.codes, ∃ group ∈ c.groups, code ∈ group := by
  intro code hcode
  cases hrule : c.rule? code with
  | none => exact ⟨c.unknown, List.mem_cons_self, h.mem_unknown.mpr ⟨hcode, hrule⟩⟩
  | some own =>
    -- The rule that is listed may be another one than its own, but it equals it.
    have hown : own ∈ c.codes.filterMap c.rule? := List.mem_filterMap.mpr ⟨code, hcode, hrule⟩
    obtain ⟨d, hd, hdown⟩ := Tally.exists_mem_eraseDups hown (h.beq_self code hcode own hrule)
    have hgroup : c.adopters d ∈ c.groups :=
      List.mem_cons_of_mem _ (List.mem_map_of_mem (h.perm_distinctRules.mem_iff.mpr hd))
    exact ⟨_, hgroup, mem_adopters.mpr ⟨hcode, own, hrule, BEq.symm hdown⟩⟩

theorem disjoint (h : Computed c) : c.groups.Pairwise List.Disjoint := by
  have hrules : (c.majority.toList ++ c.minority.map (·.1)).Pairwise
      fun a b => (a == b) = false := by
    apply (h.perm_distinctRules.pairwise_iff ?_).mpr distinct
    intro a b hab
    rwa [BEq.comm]
  refine List.pairwise_cons.mpr ⟨?_, List.pairwise_map.mpr (hrules.imp ?_)⟩
  · intro group hgroup code hunknown hadopts
    obtain ⟨r, -, rfl⟩ := List.mem_map.mp hgroup
    obtain ⟨-, own, hown, -⟩ := mem_adopters.mp hadopts
    rw [(h.mem_unknown.mp hunknown).2] at hown
    cases hown
  · -- A rule that equals two of the listed ones would make them equal.
    intro a b hab code ha hb
    obtain ⟨-, own, hown, howna⟩ := mem_adopters.mp ha
    obtain ⟨-, own', hown', hownb⟩ := mem_adopters.mp hb
    rw [hown] at hown'
    cases hown'
    rw [BEq.trans (BEq.symm howna) hownb] at hab
    cases hab

theorem beq_self_of_mem (h : Computed c) {r : Rule} (hr : r ∈ c.distinctRules) :
    (r == r) = true := by
  obtain ⟨code, hcode, hrule⟩ := List.mem_filterMap.mp (Tally.mem_of_mem_eraseDups hr)
  exact h.beq_self code hcode r hrule

theorem minority_rules (h : Computed c) :
    c.minority.map (·.1) = c.distinctRules.filter fun r => c.majority.all (· != r) := by
  rcases h.cases_leader with ⟨hrules, -, hminority⟩ | ⟨best, before, after, hl⟩
  · rw [hrules, hminority]
    rfl
  · have hsplit := hl.distinctRules_eq h
    have hpairs := distinct (c := c)
    rw [hsplit] at hpairs
    obtain ⟨-, htail, hcross⟩ := List.pairwise_append.mp hpairs
    -- Rules that are apart from the leader stay; only the leader itself is dropped.
    have hself : (best.1 == best.1) = true := h.beq_self_of_mem (by simp [hsplit])
    have hdropped : ¬ (best.1 != best.1) = true := by simp [bne, hself]
    have hbefore : (before.map (·.1)).filter (fun r => (best.1 != r)) = before.map (·.1) := by
      rw [List.filter_eq_self]
      intro r hr
      rw [bne, BEq.comm, hcross r hr best.1 List.mem_cons_self]
      rfl
    have hafter : (after.map (·.1)).filter (fun r => (best.1 != r)) = after.map (·.1) := by
      rw [List.filter_eq_self]
      intro r hr
      rw [bne, (List.pairwise_cons.mp htail).1 r hr]
      rfl
    rw [hsplit, hl.majority_eq, hl.minority_eq, List.map_append]
    change _ = (before.map (·.1) ++ best.1 :: after.map (·.1)).filter fun r => best.1 != r
    rw [List.filter_append, List.filter_cons_of_neg hdropped, hbefore, hafter]

theorem sum_counts (h : Computed c) : (c.counts.map (·.2.length)).sum = c.knownCount := by
  have hlength := h.length_held
  rw [h.counts_eq, Tally.sum_ofRules, knownCount]
  omega

theorem majority_eq_none (h : Computed c) :
    c.majority = none ↔ ∀ code ∈ c.codes, code ∈ c.unknown := by
  have hnone : c.majority = none ↔ c.distinctRules = [] := by
    rcases h.cases_leader with ⟨hrules, hleader, -⟩ | ⟨best, before, after, hl⟩
    · simp [majority, hleader, hrules]
    · simp [hl.majority_eq, hl.distinctRules_eq h]
  rw [hnone]
  constructor
  · intro hrules code hcode
    cases hrule : c.rule? code with
    | none => exact h.mem_unknown.mpr ⟨hcode, hrule⟩
    | some own =>
      have hown : own ∈ c.codes.filterMap c.rule? := List.mem_filterMap.mpr ⟨code, hcode, hrule⟩
      obtain ⟨d, hd, -⟩ := Tally.exists_mem_eraseDups hown (h.beq_self code hcode own hrule)
      have hempty : c.distinctRules = [] := hrules
      rw [distinctRules] at hempty
      rw [hempty] at hd
      exact absurd hd List.not_mem_nil
  · intro hall
    rw [distinctRules, List.filterMap_eq_nil_iff.mpr fun code hcode =>
      (h.mem_unknown.mp (hall code hcode)).2]
    rfl

theorem majority_eq (h : Computed c) : c.majority =
    c.distinctRules.find? fun r => c.distinctRules.all fun s => c.countOf s ≤ c.countOf r := by
  rcases h.cases_leader with ⟨hrules, hleader, -⟩ | ⟨best, before, after, hl⟩
  · rw [majority, hleader, hrules]
    rfl
  · have hsplit := hl.distinctRules_eq h
    rw [hl.majority_eq, eq_comm, List.find?_eq_some_iff_append]
    refine ⟨?_, before.map (·.1), after.map (·.1), hsplit, ?_⟩
    · rw [List.all_eq_true, ← h.counts_rules, hl.counts_eq]
      intro s hs
      obtain ⟨e, he, rfl⟩ := List.mem_map.mp hs
      rw [decide_eq_true_eq, hl.countOf_best h]
      exact hl.countOf_le h e he
    · -- A rule before the leading one has fewer adopters, so it is not the highest.
      intro r hr
      obtain ⟨e, he, rfl⟩ := List.mem_map.mp hr
      have hlt := hl.lt_best e he
      have hcount : c.countOf e.1 = e.2.length :=
        h.countOf_eq_of_mem (hl.counts_eq ▸ List.mem_append_left _ he)
      rw [Bool.not_eq_true', List.all_eq_false]
      refine ⟨best.1, by simp [hsplit], ?_⟩
      rw [decide_eq_true_eq, hl.countOf_best h, hcount]
      omega

theorem majorityCount_eq (h : Computed c) (r : Rule) (hr : c.majority = some r) :
    c.majorityCount = c.countOf r := by
  rcases h.cases_leader with ⟨-, hnone, -⟩ | ⟨best, before, after, hl⟩
  · rw [majority, hnone] at hr
    cases hr
  · rw [hl.majority_eq] at hr
    cases hr
    rw [hl.majorityCount_eq, hl.countOf_best h]

theorem minority_le (h : Computed c) : ∀ e ∈ c.minority, c.countOf e.1 ≤ c.majorityCount := by
  intro e he
  rcases h.cases_leader with ⟨-, -, hminority⟩ | ⟨best, before, after, hl⟩
  · rw [hminority] at he
    exact absurd he List.not_mem_nil
  · rw [hl.minority_eq] at he
    rw [hl.majorityCount_eq]
    apply hl.countOf_le h
    rcases List.mem_append.mp he with he | he
    · exact List.mem_append_left _ he
    · exact List.mem_append_right _ (List.mem_cons_of_mem _ he)

theorem partitions (h : Computed c) : c.Partitions where
  covers := h.covers
  disjoint := h.disjoint
  countOf_eq := h.countOf_eq
  sum_counts := h.sum_counts
  counts_rules := h.counts_rules
  majority_eq_none := h.majority_eq_none
  majority_eq := h.majority_eq
  majorityCount_eq := h.majorityCount_eq
  minority_le := h.minority_le
  minority_rules := h.minority_rules
  distinct := distinct

end Computed

/-- At least two code texts that are distinct in canonical form are compared by the rules of the
catalogue, and the comparison shares them out. -/
theorem run_partitions (catalog : Catalog) (topic : Topic) (texts : List String)
    (hrules : ∀ e ∈ catalog.entries, e.rule.hasNaN = false) (htwo : 2 ≤ texts.length)
    (hdistinct : (texts.map canonicalCode).Nodup) :
    ∃ c, run catalog topic (refsOf texts) = .ok c ∧ c.codes = codesOf texts ∧
      (∀ s ∈ texts, c.rule? (.text (canonicalCode s)) =
        catalog.rule? (.text (canonicalCode s)) topic) ∧ c.Partitions := by
  refine ⟨ofCodes catalog topic (codesOf texts), ?_, rfl,
    fun s hs => rule?_ofCodes catalog topic hs, Computed.partitions ⟨rfl, rfl, rfl, rfl, ?_⟩⟩
  · rw [run, distinctCodes_refsOf htwo hdistinct]
    rfl
  · intro code hcode r hr
    obtain ⟨s, hs, rfl⟩ := List.mem_map.mp hcode
    rw [rule?_ofCodes catalog topic hs] at hr
    obtain ⟨e, he, rfl⟩ := Option.map_eq_some_iff.mp hr
    exact Rule.beq_self (hrules e (Table.mem_values_of_get? he))

/-- Two rules on comparative negligence, each in two states. -/
def evenlySplit : List RuleEntry :=
  [("US-NY", .modifiedComparative50), ("US-CA", .pureComparativeNegligence),
    ("US-FL", .pureComparativeNegligence), ("US-TX", .modifiedComparative50)].map fun e =>
      { jurisdiction := .ofCode e.1, topic := .comparativeNegligence, rule := e.2 }

/-- Four of their codes and one without an entry. -/
def splitTexts : List String := ["atlantis", " us-ca", "US-NY", "us-tx ", "Us-Fl"]

theorem run_partitions_evenlySplit : ∃ catalog, Catalog.ofEntries evenlySplit none = .ok catalog ∧
    (∀ e ∈ catalog.entries, e.rule.hasNaN = false) ∧ 2 ≤ splitTexts.length ∧
    (splitTexts.map canonicalCode).Nodup ∧
    ∃ c, run catalog .comparativeNegligence (refsOf splitTexts) = .ok c ∧
      c.codes = codesOf splitTexts ∧
      (∀ s ∈ splitTexts, c.rule? (.text (canonicalCode s)) =
        catalog.rule? (.text (canonicalCode s)) .comparativeNegligence) ∧ c.Partitions := by
  have hbuilt : ((Catalog.ofEntries evenlySplit none).toOption.map fun catalog =>
      catalog.entries.all fun e => !e.rule.hasNaN) = some true := by decide +kernel
  cases hcatalog : Catalog.ofEntries evenlySplit none with
  | error failure =>
    rw [hcatalog] at hbuilt
    cases hbuilt
  | ok catalog =>
    rw [hcatalog] at hbuilt
    have hrules : ∀ e ∈ catalog.entries, e.rule.hasNaN = false := by
      simpa [Except.toOption] using hbuilt
    have hdistinct : (splitTexts.map canonicalCode).Nodup := by decide +kernel
    exact ⟨catalog, rfl, hrules, by decide, hdistinct,
      run_partitions catalog _ _ hrules (by decide) hdistinct⟩

end ComparativeLaw.Comparison
