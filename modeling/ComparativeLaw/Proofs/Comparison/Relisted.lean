import ComparativeLaw.Proofs.Checked
import ComparativeLaw.Proofs.Comparison.Partition
import Mathlib.Data.List.Rotate

namespace ComparativeLaw

theorem Similarity.getElem?_matrix {rules : List (Option Rule)} {i j : Nat} {a b : Option Rule}
    (hi : rules[i]? = some a) (hj : rules[j]? = some b) :
    ((matrix rules)[i]?.bind fun row => row[j]?) = some (if i = j then same else ofRules a b) := by
  rw [matrix, List.getElem?_mapIdx, hi, Option.map_some, Option.bind_some, List.getElem?_mapIdx, hj,
    Option.map_some]

namespace Comparison

variable {c c' : Comparison}

theorem rule?_of_key {code code' : Code} (h : code.key = code'.key) :
    c.rule? code = c.rule? code' := by
  rw [rule?, h, rule?]

/-- Under the key of a compared code stands the rule of that code. -/
theorem getElem?_rules {i : Nat} {ref : Reference}
    (h : (c.codes.map Code.key).idxOf? ref.code.key = some i) :
    (c.codes.map c.rule?)[i]? = some (c.rule? ref.code) := by
  obtain ⟨hlt, hkey, -⟩ := List.idxOf?_eq_some_iff.mp h
  rw [List.length_map] at hlt
  rw [List.getElem_map] at hkey
  rw [List.getElem?_map, List.getElem?_eq_getElem hlt, Option.map_some, rule?_of_key hkey]

/-- The similarity of two jurisdictions comes from their rules, wherever they are listed. -/
theorem between_eq (hs : c.similarity = Similarity.matrix (c.codes.map c.rule?)) (a b : Reference) :
    c.between a b =
      if a.code.key ∈ c.codes.map Code.key ∧ b.code.key ∈ c.codes.map Code.key then
        .ok (if a.code.key = b.code.key then .same else .ofRules (c.rule? a.code) (c.rule? b.code))
      else .error .notCompared := by
  cases hi : (c.codes.map Code.key).idxOf? a.code.key with
  | none =>
    rw [if_neg fun h => List.idxOf?_eq_none_iff.mp hi h.1]
    simp only [between, hi]
  | some i =>
    cases hj : (c.codes.map Code.key).idxOf? b.code.key with
    | none =>
      rw [if_neg fun h => List.idxOf?_eq_none_iff.mp hj h.2]
      simp only [between, hi, hj]
    | some j =>
      obtain ⟨hlt, hkey, -⟩ := List.idxOf?_eq_some_iff.mp hi
      obtain ⟨hlt', hkey', -⟩ := List.idxOf?_eq_some_iff.mp hj
      have hmem : a.code.key ∈ c.codes.map Code.key ∧ b.code.key ∈ c.codes.map Code.key :=
        ⟨hkey ▸ List.getElem_mem hlt, hkey' ▸ List.getElem_mem hlt'⟩
      -- Two keys have one place exactly if they are the same.
      have hplace : i = j ↔ a.code.key = b.code.key := by
        constructor
        · rintro rfl
          exact hkey.symm.trans hkey'
        · intro hsame
          rw [hsame, hj] at hi
          exact (Option.some.inj hi).symm
      have hentry := Similarity.getElem?_matrix (getElem?_rules hi) (getElem?_rules hj)
      rw [if_pos hmem]
      simp only [between, hi, hj, hs, hentry, hplace, Option.getD_some]

/-- The rules of a comparison, the leading one first. -/
def listed (c : Comparison) : List Rule := c.majority.toList ++ c.minority.map (·.1)

/-- Rules that are the same but for the order and the writing of each. -/
structure SameRules (rules rules' : List Rule) : Prop where
  subset : ∀ r ∈ rules, ∃ s ∈ rules', (r == s) = true
  superset : ∀ s ∈ rules', ∃ r ∈ rules, (r == s) = true

/-- Several rules have the highest count. -/
def TopShared (c : Comparison) : Prop :=
  ∃ r ∈ c.listed, ∃ s ∈ c.listed, (r == s) = false ∧ c.countOf r = c.majorityCount ∧
    c.countOf s = c.majorityCount

/-- The same codes with the same rules, in another order. -/
structure Rearranges (c c' : Comparison) : Prop where
  codes : c.codes.Perm c'.codes
  rule?_eq : ∀ code ∈ c.codes, c.rule? code = c'.rule? code

theorem Rearranges.symm (h : Rearranges c c') : Rearranges c' c :=
  ⟨h.codes.symm, fun code hcode => (h.rule?_eq code (h.codes.mem_iff.mpr hcode)).symm⟩

namespace Computed

theorem mem_listed (h : Computed c) {r : Rule} : r ∈ c.listed ↔ r ∈ c.distinctRules :=
  h.perm_distinctRules.mem_iff

theorem mem_listed_of_majority {r : Rule} (hr : c.majority = some r) : r ∈ c.listed := by
  rw [listed, hr]
  exact List.mem_cons_self

theorem countOf_congr (h : Computed c) {r s : Rule} (hrs : (r == s) = true) :
    c.countOf r = c.countOf s := by
  have hadopters : c.adopters r = c.adopters s := by
    refine List.filter_congr fun code _ => ?_
    cases c.rule? code with
    | none => rfl
    | some own =>
      show (own == r) = (own == s)
      exact BEq.congr_right hrs
  rw [h.countOf_eq, h.countOf_eq, hadopters]

theorem countOf_le_majorityCount (h : Computed c) {r : Rule} (hr : r ∈ c.listed) :
    c.countOf r ≤ c.majorityCount := by
  rcases List.mem_append.mp hr with hr | hr
  · exact Nat.le_of_eq (h.majorityCount_eq r (Option.mem_toList.mp hr)).symm
  · obtain ⟨e, he, rfl⟩ := List.mem_map.mp hr
    exact h.minority_le e he

end Computed

namespace Rearranges

section

variable (h : Rearranges c c') (hc : Computed c) (hc' : Computed c')
include h

theorem adopters_perm (r : Rule) : (c.adopters r).Perm (c'.adopters r) := by
  have hsame : c.adopters r = c.codes.filter fun code => c'.rule? code == some r :=
    List.filter_congr fun code hcode => by rw [h.rule?_eq code hcode]
  rw [hsame]
  exact h.codes.filter _

include hc hc'

theorem countOf_eq (r : Rule) : c.countOf r = c'.countOf r := by
  rw [hc.countOf_eq, hc'.countOf_eq, (h.adopters_perm r).length_eq]

theorem unknown_perm : c.unknown.Perm c'.unknown := by
  have hsame : c.unknown = c.codes.filter fun code => (c'.rule? code).isNone := by
    rw [hc.unknown_eq]
    exact List.filter_congr fun code hcode => by rw [h.rule?_eq code hcode]
  rw [hsame, hc'.unknown_eq]
  exact h.codes.filter _

/-- Each rule that is found is found in the other order, perhaps in another writing. -/
theorem exists_listed {r : Rule} (hr : r ∈ c.listed) : ∃ s ∈ c'.listed, (r == s) = true := by
  obtain ⟨code, hcode, hrule⟩ :=
    List.mem_filterMap.mp (Tally.mem_of_mem_eraseDups (hc.mem_listed.mp hr))
  have hcode' : code ∈ c'.codes := h.codes.mem_iff.mp hcode
  have hrule' : c'.rule? code = some r := (h.rule?_eq code hcode).symm.trans hrule
  obtain ⟨s, hs, hsr⟩ := Tally.exists_mem_eraseDups (List.mem_filterMap.mpr ⟨code, hcode', hrule'⟩)
    (hc'.beq_self code hcode' r hrule')
  exact ⟨s, hc'.mem_listed.mpr hs, BEq.symm hsr⟩

theorem majorityCount_le : c.majorityCount ≤ c'.majorityCount := by
  cases hr : c.majority with
  | none =>
    have hleader : c.leader = none := Option.map_eq_none_iff.mp hr
    rw [majorityCount, hleader]
    exact Nat.zero_le _
  | some r =>
    obtain ⟨s, hs, hrs⟩ := h.exists_listed hc hc' (Computed.mem_listed_of_majority hr)
    calc c.majorityCount
      _ = c.countOf r := hc.majorityCount_eq r hr
      _ = c'.countOf r := h.countOf_eq hc hc' r
      _ = c'.countOf s := hc'.countOf_congr hrs
      _ ≤ c'.majorityCount := hc'.countOf_le_majorityCount hs

theorem majority_eq_none (hr : c.majority = none) : c'.majority = none := by
  rw [hc.majority_eq_none] at hr
  rw [hc'.majority_eq_none]
  intro code hcode
  have hcode : code ∈ c.codes := h.codes.mem_iff.mpr hcode
  exact (h.unknown_perm hc hc').mem_iff.mp (hr code hcode)

end

theorem majorityCount_eq (h : Rearranges c c') (hc : Computed c) (hc' : Computed c') :
    c.majorityCount = c'.majorityCount :=
  Nat.le_antisymm (h.majorityCount_le hc hc') (h.symm.majorityCount_le hc' hc)

/-- A rule that alone has the highest count leads in every order. -/
theorem majority_beq (h : Rearranges c c') (hc : Computed c) (hc' : Computed c')
    (hshared : ¬ c.TopShared) : (c.majority == c'.majority) = true := by
  cases hr : c.majority with
  | none =>
    rw [h.majority_eq_none hc hc' hr]
    rfl
  | some r =>
    cases hs : c'.majority with
    | none =>
      rw [h.symm.majority_eq_none hc' hc hs] at hr
      cases hr
    | some s =>
      -- The rule that leads the other order is found here with the same count.
      obtain ⟨t, ht, hst⟩ := h.symm.exists_listed hc' hc (Computed.mem_listed_of_majority hs)
      have htop : c.countOf t = c.majorityCount := by
        rw [← hc.countOf_congr hst, h.countOf_eq hc hc', ← hc'.majorityCount_eq s hs,
          h.majorityCount_eq hc hc']
      by_contra hne
      have hne : ¬ (r == s) = true := hne
      refine hshared ⟨r, Computed.mem_listed_of_majority hr, t, ht, ?_,
        (hc.majorityCount_eq r hr).symm, htop⟩
      exact Bool.eq_false_iff.mpr fun hrt => hne (BEq.trans hrt (BEq.symm hst))

theorem between_eq (h : Rearranges c c')
    (hs : c.similarity = Similarity.matrix (c.codes.map c.rule?))
    (hs' : c'.similarity = Similarity.matrix (c'.codes.map c'.rule?)) (a b : Reference) :
    c.between a b = c'.between a b := by
  have hkeys (key : Code.Key) : key ∈ c.codes.map Code.key ↔ key ∈ c'.codes.map Code.key :=
    (h.codes.map _).mem_iff
  have hrule (ref : Reference) (hmem : ref.code.key ∈ c.codes.map Code.key) :
      c.rule? ref.code = c'.rule? ref.code := by
    obtain ⟨code, hcode, hkey⟩ := List.mem_map.mp hmem
    rw [← rule?_of_key hkey, h.rule?_eq code hcode, rule?_of_key hkey]
  rw [Comparison.between_eq hs, Comparison.between_eq hs']
  simp only [← hkeys]
  split
  · next hmem => rw [hrule a hmem.1, hrule b hmem.2]
  · rfl

end Rearranges

/-- Comparisons that differ at most in which of the most common rules leads. -/
structure AgreesUpToTies (c c' : Comparison) : Prop where
  countOf : ∀ r, c.countOf r = c'.countOf r
  majorityCount : c.majorityCount = c'.majorityCount
  unknown : c.unknown.Perm c'.unknown
  listed : SameRules c.listed c'.listed
  between : ∀ a b, c.between a b = c'.between a b
  majority : ¬ c.TopShared → (c.majority == c'.majority) = true

theorem Rearranges.agreesUpToTies (h : Rearranges c c') (hc : Computed c) (hc' : Computed c')
    (hs : c.similarity = Similarity.matrix (c.codes.map c.rule?))
    (hs' : c'.similarity = Similarity.matrix (c'.codes.map c'.rule?)) : c.AgreesUpToTies c' where
  countOf := h.countOf_eq hc hc'
  majorityCount := h.majorityCount_eq hc hc'
  unknown := h.unknown_perm hc hc'
  listed := by
    refine ⟨fun r hr => h.exists_listed hc hc' hr, fun s hs => ?_⟩
    obtain ⟨r, hr, hsr⟩ := h.symm.exists_listed hc' hc hs
    exact ⟨r, hr, BEq.symm hsr⟩
  between := h.between_eq hs hs'
  majority := h.majority_beq hc hc'

theorem computed_ofCodes {catalog : Catalog} (hrules : ∀ e ∈ catalog.entries, e.rule.hasNaN = false)
    (topic : Topic) (texts : List String) : Computed (ofCodes catalog topic (codesOf texts)) := by
  refine ⟨rfl, rfl, rfl, rfl, ?_⟩
  intro code hcode r hr
  obtain ⟨s, hs, rfl⟩ := List.mem_map.mp hcode
  rw [rule?_ofCodes catalog topic hs] at hr
  obtain ⟨e, he, rfl⟩ := Option.map_eq_some_iff.mp hr
  exact Rule.beq_self (hrules e (Table.mem_values_of_get? he))

theorem rearranges_ofCodes (catalog : Catalog) (topic : Topic) {texts texts' : List String}
    (hp : texts.Perm texts') : Rearranges (ofCodes catalog topic (codesOf texts))
      (ofCodes catalog topic (codesOf texts')) := by
  refine ⟨hp.map _, fun code hcode => ?_⟩
  obtain ⟨s, hs, rfl⟩ := List.mem_map.mp hcode
  rw [rule?_ofCodes catalog topic hs, rule?_ofCodes catalog topic (hp.mem_iff.mp hs)]

/-- Distinct codes come of no other texts. -/
theorem of_distinctCodes_refsOf {texts : List String} {codes : List Code}
    (h : distinctCodes (refsOf texts) = .ok codes) :
    2 ≤ texts.length ∧ (texts.map canonicalCode).Nodup := by
  have hcodes : (refsOf texts).map Reference.code = codesOf texts := by
    rw [refsOf, codesOf, List.map_map]
    rfl
  simp only [distinctCodes, hcodes] at h
  cases hrepeated : firstRepeated? [] (codesOf texts) with
  | some code =>
    rw [hrepeated] at h
    cases h
  | none =>
    simp only [hrepeated] at h
    split at h
    · cases h
    · next hlength =>
      have hkeys := (firstRepeated?_eq_none.mp hrepeated).1
      rw [codesOf, List.length_map] at hlength
      rw [codesOf, List.map_map] at hkeys
      refine ⟨Nat.le_of_not_lt hlength, List.Nodup.of_map Code.Key.text ?_⟩
      rw [List.map_map]
      exact hkeys

theorem of_run_refsOf {catalog : Catalog} {topic : Topic} {texts : List String} {c : Comparison}
    (h : run catalog topic (refsOf texts) = .ok c) :
    2 ≤ texts.length ∧ (texts.map canonicalCode).Nodup := by
  obtain ⟨codes, hcodes, -⟩ := Checked.map_eq_ok.mp h
  exact of_distinctCodes_refsOf hcodes

/-- At least two code texts that differ as codes are compared in every order, and the comparisons
agree up to ties at the top. Other texts are compared in no order. -/
theorem run_relisted (catalog : Catalog) (topic : Topic) {texts texts' : List String}
    (hrules : ∀ e ∈ catalog.entries, e.rule.hasNaN = false) (hp : texts.Perm texts') :
    (2 ≤ texts.length ∧ (texts.map canonicalCode).Nodup →
      ∃ c c', run catalog topic (refsOf texts) = .ok c ∧
        run catalog topic (refsOf texts') = .ok c' ∧ c.AgreesUpToTies c') ∧
    (¬ (2 ≤ texts.length ∧ (texts.map canonicalCode).Nodup) →
      ∀ c, run catalog topic (refsOf texts) ≠ .ok c ∧ run catalog topic (refsOf texts') ≠ .ok c) := by
  have hlength : texts.length = texts'.length := hp.length_eq
  have hnodup : (texts.map canonicalCode).Nodup ↔ (texts'.map canonicalCode).Nodup :=
    (hp.map _).nodup_iff
  constructor
  · rintro ⟨htwo, hdistinct⟩
    refine ⟨ofCodes catalog topic (codesOf texts), ofCodes catalog topic (codesOf texts'), ?_, ?_, ?_⟩
    · rw [run, distinctCodes_refsOf htwo hdistinct]
      rfl
    · rw [run, distinctCodes_refsOf (hlength ▸ htwo) (hnodup.mp hdistinct)]
      rfl
    · exact (rearranges_ofCodes catalog topic hp).agreesUpToTies
        (computed_ofCodes hrules topic texts) (computed_ofCodes hrules topic texts') rfl rfl
  · intro hnot c
    refine ⟨fun h => hnot (of_run_refsOf h), fun h => hnot ?_⟩
    obtain ⟨htwo, hdistinct⟩ := of_run_refsOf h
    exact ⟨hlength ▸ htwo, hnodup.mpr hdistinct⟩

/-- Two rules lead the split states, and the other one is the majority from the second state on. -/
theorem run_relisted_evenlySplit : ∃ catalog, Catalog.ofEntries evenlySplit none = .ok catalog ∧
    ∃ c c', run catalog .comparativeNegligence (refsOf splitTexts) = .ok c ∧
      run catalog .comparativeNegligence (refsOf (splitTexts.rotate 2)) = .ok c' ∧
      c.AgreesUpToTies c' ∧ (c.majority == c'.majority) = false := by
  have hbuilt : ((Catalog.ofEntries evenlySplit none).toOption.map fun catalog =>
      (catalog.entries.all (fun e => !e.rule.hasNaN),
        (run catalog .comparativeNegligence (refsOf splitTexts)).toOption.bind Comparison.majority ==
          (run catalog .comparativeNegligence
            (refsOf (splitTexts.rotate 2))).toOption.bind Comparison.majority)) =
      some (true, false) := by decide +kernel
  obtain ⟨catalog, hcatalog, hview⟩ := Checked.exists_of_map_toOption hbuilt
  obtain ⟨hall, hmajority⟩ := Prod.mk.inj hview
  have hrules : ∀ e ∈ catalog.entries, e.rule.hasNaN = false := by simpa using hall
  have hdistinct : (splitTexts.map canonicalCode).Nodup := by decide +kernel
  obtain ⟨c, c', hc, hc', hagrees⟩ := (run_relisted catalog .comparativeNegligence hrules
    (List.rotate_perm splitTexts 2).symm).1 ⟨by decide, hdistinct⟩
  rw [hc, hc'] at hmajority
  exact ⟨catalog, hcatalog, c, c', hc, hc', hagrees, hmajority⟩

end Comparison
end ComparativeLaw
