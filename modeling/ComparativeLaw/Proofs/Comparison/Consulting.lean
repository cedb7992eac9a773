import ComparativeLaw.Proofs.Catalog.Views
import ComparativeLaw.Proofs.Comparison.Partition
import Mathlib.Algebra.Order.BigOperators.Group.List
import Mathlib.Algebra.Order.Group.Nat

namespace ComparativeLaw

/-- Items whose keys are among distinct ones are counted key by key. -/
theorem countP_mem_eq_sum {α κ : Type} [DecidableEq κ] (key : α → κ) {ks : List κ}
    (hn : ks.Nodup) (xs : List α) :
    xs.countP (fun x => key x ∈ ks) = (ks.map fun k => xs.countP fun x => key x = k).sum := by
  induction ks with
  | nil => simp
  | cons k ks ih =>
    obtain ⟨hk, hn⟩ := List.nodup_cons.mp hn
    -- No item has both this key and one of the others.
    have hsplit : xs.countP (fun x => key x ∈ k :: ks) =
        xs.countP (fun x => key x = k) + xs.countP (fun x => key x ∈ ks) := by
      clear ih
      induction xs with
      | nil => rfl
      | cons x xs ih =>
        rw [List.countP_cons, List.countP_cons, List.countP_cons, ih]
        by_cases hx : key x = k
        · simp [hx, hk]
          omega
        · simp [hx]
          omega
    rw [hsplit, ih hn, List.map_cons, List.sum_cons]

theorem countP_key_le_one {α κ : Type} [DecidableEq κ] {key : α → κ} {xs : List α}
    (hn : (xs.map key).Nodup) (k : κ) : xs.countP (fun x => key x = k) ≤ 1 := by
  have hcount := List.nodup_iff_count_le_one.mp hn k
  rw [List.count, List.countP_map] at hcount
  exact hcount

namespace Catalog

variable {entries : List RuleEntry} {registry : Option Registry} {c : Catalog} {topic : Topic}

theorem ofTopic_of_ofEntries (h : ofEntries entries registry = .ok c) (topic : Topic) :
    c.ofTopic topic = entries.filter (·.topic = topic) := by
  obtain ⟨-, rfl⟩ := ofEntries_eq_ok.mp h
  exact ofTopic_ofDistinct registry topic

theorem nodup_ofTopic (h : ofEntries entries registry = .ok c) (topic : Topic) :
    ((c.ofTopic topic).map fun e => e.jurisdiction.code.key).Nodup := by
  obtain ⟨hnone, -⟩ := ofEntries_eq_ok.mp h
  have hkeys : ((entries.filter (·.topic = topic)).map RuleEntry.key).Nodup :=
    (nodup_of_firstRepeat? hnone).1.sublist (List.filter_sublist.map _)
  -- On one topic, entries with distinct keys have distinct codes.
  have hpairs : (entries.filter (·.topic = topic)).map RuleEntry.key =
      ((entries.filter (·.topic = topic)).map fun e => e.jurisdiction.code.key).map (·, topic) := by
    rw [List.map_map]
    refine List.map_congr_left fun e he => ?_
    have htopic : e.topic = topic := by simpa using (List.mem_filter.mp he).2
    rw [RuleEntry.key, htopic]
    rfl
  rw [ofTopic_of_ofEntries h]
  exact List.Nodup.of_map _ (hpairs ▸ hkeys)

/-- A reference has a rule on a topic exactly if an entry on the topic has its code. -/
theorem isSome_rule? (h : ofEntries entries registry = .ok c) (ref : Reference) (topic : Topic) :
    (c.rule? ref topic).isSome = true ↔
      ref.code.key ∈ (c.ofTopic topic).map fun e => e.jurisdiction.code.key := by
  rw [ofTopic_of_ofEntries h]
  obtain ⟨hnone, rfl⟩ := ofEntries_eq_ok.mp h
  have hentry (e : RuleEntry) : Catalog.entry? (ofDistinct entries registry) ref topic = some e ↔
      e ∈ entries ∧ e.key = (ref.code.key, topic) :=
    entry?_ofDistinct (nodup_of_firstRepeat? hnone).1 registry
  rw [rule?, Option.isSome_map, Option.isSome_iff_exists]
  simp only [hentry, List.mem_map, List.mem_filter, RuleEntry.key, Prod.mk.injEq, decide_eq_true_eq]
  constructor
  · rintro ⟨e, he, hkey, htopic⟩
    exact ⟨e, ⟨he, htopic⟩, hkey⟩
  · rintro ⟨e, ⟨he, htopic⟩, hkey⟩
    exact ⟨e, he, hkey, htopic⟩

end Catalog

/-- The text by which a comparison looks a jurisdiction up. -/
def Reference.spelled (ref : Reference) : Reference := .text ref.code.plain

theorem Reference.code_spelled {ref : Reference} (h : ref.code.Canonical) :
    ref.spelled.code = ref.code := by
  obtain ⟨s, hcode, hs⟩ := h
  rw [spelled, hcode]
  exact congrArg Code.text hs

theorem Catalog.rule?_congr {c : Catalog} {topic : Topic} {a b : Reference}
    (h : a.code = b.code) : c.rule? a topic = c.rule? b topic := by
  rw [rule?, entry?, h]
  rfl

namespace Comparison

variable {catalog : Catalog} {topic : Topic} {refs : List Reference} {c : Comparison}

/-- The references for which an entry is consulted. -/
def consulting (refs : List Reference) (e : RuleEntry) : List Reference :=
  refs.filter fun ref => ref.spelled.code.key = e.jurisdiction.code.key

/-- Every reference is answered as the catalogue answers it, and no more jurisdictions are counted
than the catalogue has entries on the topic. -/
structure Agrees (catalog : Catalog) (topic : Topic) (refs : List Reference) (c : Comparison) :
    Prop where
  byCode_eq : ∀ ref ∈ refs, c.byCode.get? ref.code.key = some (catalog.rule? ref topic)
  once : ∀ e ∈ catalog.ofTopic topic, (consulting refs e).length ≤ 1
  sum_le : (c.counts.map (·.2.length)).sum ≤ (catalog.ofTopic topic).length

/-- What a comparison takes from a catalogue. -/
structure Consults (catalog : Catalog) (topic : Topic) (refs : List Reference) (c : Comparison) :
    Prop where
  byCode_eq : ∀ ref ∈ refs, c.byCode.get? ref.code.key = some (catalog.rule? ref.spelled topic)
  sum_counts : (c.counts.map (·.2.length)).sum =
    ((catalog.ofTopic topic).map fun e => (consulting refs e).length).sum
  agrees : (∀ ref ∈ refs, ref.code.Canonical) → Agrees catalog topic refs c

/-- The references with a rule on a topic, entry by entry. -/
theorem countP_isSome_rule? {entries : List RuleEntry} {registry : Option Registry}
    (hbuilt : Catalog.ofEntries entries registry = .ok catalog) (topic : Topic)
    (refs : List Reference) :
    (refs.countP fun ref => (catalog.rule? ref.spelled topic).isSome) =
      ((catalog.ofTopic topic).map fun e => (consulting refs e).length).sum := by
  have hmem : (refs.countP fun ref => (catalog.rule? ref.spelled topic).isSome) =
      refs.countP fun ref => ref.spelled.code.key ∈
        (catalog.ofTopic topic).map fun e => e.jurisdiction.code.key :=
    List.countP_congr fun ref _ =>
      (Catalog.isSome_rule? hbuilt ref.spelled topic).trans decide_eq_true_iff.symm
  rw [hmem, countP_mem_eq_sum _ (Catalog.nodup_ofTopic hbuilt topic), List.map_map]
  simp only [consulting, List.countP_eq_length_filter]
  rfl

theorem of_run (h : run catalog topic refs = .ok c) :
    ((refs.map Reference.code).map Code.key).Nodup ∧
      ofCodes catalog topic (refs.map Reference.code) = c := by
  obtain ⟨codes, hcodes, rfl⟩ := Checked.map_eq_ok.mp h
  simp only [distinctCodes] at hcodes
  split at hcodes
  · cases hcodes
  · next hnone =>
    split at hcodes
    · cases hcodes
    · cases hcodes
      exact ⟨(firstRepeated?_eq_none.mp hnone).1, rfl⟩

theorem run_of_nodup (htwo : 2 ≤ refs.length)
    (hn : ((refs.map Reference.code).map Code.key).Nodup) :
    run catalog topic refs = .ok (ofCodes catalog topic (refs.map Reference.code)) := by
  have hnone : firstRepeated? [] (refs.map Reference.code) = none :=
    firstRepeated?_eq_none.mpr ⟨hn, fun _ _ => List.not_mem_nil⟩
  have hlength : ¬ (refs.map Reference.code).length < 2 := by
    rw [List.length_map]
    omega
  rw [run, distinctCodes]
  simp only [hnone, if_neg hlength]
  rfl

section Codes

variable {codes : List Code}

theorem byCode_ofCodes (hn : (codes.map Code.key).Nodup) :
    (ofCodes catalog topic codes).byCode =
      codes.map fun code => (code.key, catalog.rule? (.text code.plain) topic) := by
  refine Table.ofList_of_nodup ?_
  rw [List.map_map]
  exact hn

theorem get?_byCode (hn : (codes.map Code.key).Nodup) {code : Code} (hcode : code ∈ codes) :
    (ofCodes catalog topic codes).byCode.get? code.key =
      some (catalog.rule? (.text code.plain) topic) := by
  rw [byCode_ofCodes hn]
  refine Table.get?_of_mem ?_ (List.mem_map_of_mem hcode)
  rw [Table.keys, List.map_map]
  exact hn

theorem rule?_ofCodes_of_mem (hn : (codes.map Code.key).Nodup) {code : Code}
    (hcode : code ∈ codes) :
    (ofCodes catalog topic codes).rule? code = catalog.rule? (.text code.plain) topic := by
  rw [rule?, get?_byCode hn hcode]
  rfl

/-- As many jurisdictions are counted as have a rule under the text of their code. -/
theorem sum_counts_ofCodes (hn : (codes.map Code.key).Nodup) :
    ((ofCodes catalog topic codes).counts.map (·.2.length)).sum =
      codes.countP fun code => (catalog.rule? (.text code.plain) topic).isSome := by
  have hcounts : (ofCodes catalog topic codes).counts =
      Tally.ofRules (ofCodes catalog topic codes).held := rfl
  have hcodes : (ofCodes catalog topic codes).codes = codes := rfl
  rw [hcounts, Tally.sum_ofRules, held, hcodes, List.length_filterMap_eq_countP]
  refine List.countP_congr fun code hcode => ?_
  rw [rule?_ofCodes_of_mem hn hcode, Option.isSome_map]

end Codes

/-- A comparison takes what the catalogue has under the text of each code. With canonical codes it
agrees with the catalogue about every reference and counts no entry twice. -/
theorem run_consults {entries : List RuleEntry} {registry : Option Registry}
    (hbuilt : Catalog.ofEntries entries registry = .ok catalog)
    (hrun : run catalog topic refs = .ok c) : Consults catalog topic refs c := by
  obtain ⟨hn, rfl⟩ := of_run hrun
  have hbyCode : ∀ ref ∈ refs,
      (ofCodes catalog topic (refs.map Reference.code)).byCode.get? ref.code.key =
        some (catalog.rule? ref.spelled topic) :=
    fun ref href => get?_byCode hn (List.mem_map_of_mem href)
  have hsum : ((ofCodes catalog topic (refs.map Reference.code)).counts.map (·.2.length)).sum =
      ((catalog.ofTopic topic).map fun e => (consulting refs e).length).sum := by
    rw [sum_counts_ofCodes hn, List.countP_map]
    exact countP_isSome_rule? hbuilt topic refs
  refine ⟨hbyCode, hsum, fun hcanonical => ?_⟩
  -- References that are looked up as they are have distinct codes there too.
  have hkeys : (refs.map fun ref => ref.spelled.code.key).Nodup := by
    rw [List.map_map] at hn
    rwa [List.map_congr_left fun ref href =>
      congrArg Code.key (Reference.code_spelled (hcanonical ref href))]
  have honce : ∀ e ∈ catalog.ofTopic topic, (consulting refs e).length ≤ 1 := by
    intro e _
    rw [consulting, ← List.countP_eq_length_filter]
    exact countP_key_le_one hkeys _
  refine ⟨fun ref href => ?_, honce, ?_⟩
  · rw [hbyCode ref href, Catalog.rule?_congr (Reference.code_spelled (hcanonical ref href))]
  · have hall : ∀ n ∈ (catalog.ofTopic topic).map fun e => (consulting refs e).length, n ≤ 1 := by
      intro n hn'
      obtain ⟨e, he, rfl⟩ := List.mem_map.mp hn'
      exact honce e he
    calc ((ofCodes catalog topic (refs.map Reference.code)).counts.map (·.2.length)).sum
        = ((catalog.ofTopic topic).map fun e => (consulting refs e).length).sum := hsum
      _ ≤ ((catalog.ofTopic topic).map fun e => (consulting refs e).length).length • 1 :=
          List.sum_le_card_nsmul _ 1 hall
      _ = (catalog.ofTopic topic).length := (nsmul_one _).trans (List.length_map _)

def soleRule : List RuleEntry :=
  [{ jurisdiction := .ofCode "US-CA", topic := .comparativeNegligence,
     rule := .pureComparativeNegligence }]

theorem ofEntries_soleRule :
    Catalog.ofEntries soleRule none = .ok (.ofDistinct soleRule none) :=
  Catalog.ofEntries_eq_ok.mpr ⟨rfl, rfl⟩

/-- The state by a text, among others, one of them by itself. -/
def canonicalRefs : List Reference :=
  [.text " us-ca ", .known (.ofCode "US-NY"), .text "atlantis"]

/-- The state by itself, with a code that is not canonical, and by a text. -/
def doubledRefs : List Reference := [.known (.ofCode "us-ca"), .text "US-CA"]

theorem run_consults_canonicalRefs :
    ∃ catalog c, Catalog.ofEntries soleRule none = .ok catalog ∧
      run catalog .comparativeNegligence canonicalRefs = .ok c ∧
      (∀ ref ∈ canonicalRefs, ref.code.Canonical) ∧
      Agrees catalog .comparativeNegligence canonicalRefs c := by
  have hok : (run (.ofDistinct soleRule none) .comparativeNegligence canonicalRefs).isOk = true :=
    by decide +kernel
  obtain ⟨c, hrun⟩ := Checked.exists_of_isOk hok
  have hcanonical : ∀ ref ∈ canonicalRefs, ref.code.Canonical := by
    have hself : canonicalCode "US-NY" = "US-NY" := by decide +kernel
    simp only [canonicalRefs, List.forall_mem_cons]
    exact ⟨Code.canonical_canonicalCode _, ⟨_, rfl, hself⟩, Code.canonical_canonicalCode _,
      fun _ h => absurd h List.not_mem_nil⟩
  exact ⟨_, c, ofEntries_soleRule, hrun, hcanonical,
    (run_consults ofEntries_soleRule hrun).agrees hcanonical⟩

/-- The only entry is counted for both references, though the catalogue has none for the first. -/
theorem run_counts_twice :
    ∃ catalog c, Catalog.ofEntries soleRule none = .ok catalog ∧
      run catalog .comparativeNegligence doubledRefs = .ok c ∧
      (∃ ref ∈ doubledRefs,
        c.byCode.get? ref.code.key ≠ some (catalog.rule? ref .comparativeNegligence)) ∧
      (catalog.ofTopic .comparativeNegligence).length < (c.counts.map (·.2.length)).sum := by
  have hok : (run (.ofDistinct soleRule none) .comparativeNegligence doubledRefs).isOk = true :=
    by decide +kernel
  obtain ⟨c, hrun⟩ := Checked.exists_of_isOk hok
  obtain ⟨-, rfl⟩ := of_run hrun
  refine ⟨_, _, ofEntries_soleRule, hrun, ⟨.known (.ofCode "us-ca"), List.mem_cons_self, ?_⟩, ?_⟩
  · intro hsame
    have hview := congrArg (Option.map Option.isSome) hsame
    exact absurd hview (by decide +kernel)
  · decide +kernel

end Comparison
end ComparativeLaw
