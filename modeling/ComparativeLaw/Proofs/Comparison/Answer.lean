import ComparativeLaw.Engine.Basic
import ComparativeLaw.Proofs.Comparison.Partition
import ComparativeLaw.Proofs.Rule.Worded
import ComparativeLaw.Report

namespace ComparativeLaw

open Checked

namespace Tally

variable {α : Type} {P : Rule → Prop}

theorem forall_join {holder : α} {r : Rule} (hr : P r) {t : Tally α} (h : ∀ e ∈ t, P e.1) :
    ∀ e ∈ t.join holder r, P e.1 := by
  induction t with
  | nil => simpa [join] using hr
  | cons e t ih =>
    obtain ⟨he, ht⟩ := List.forall_mem_cons.mp h
    rw [join]
    split
    · exact List.forall_mem_cons.mpr ⟨he, ht⟩
    · exact List.forall_mem_cons.mpr ⟨he, ih ht⟩

theorem forall_ofRules {held : List (α × Rule)} (h : ∀ e ∈ held, P e.2) :
    ∀ e ∈ ofRules held, P e.1 := by
  induction held using List.reverseRecOn with
  | nil => exact fun e he => nomatch he
  | append_singleton held e ih =>
    rw [ofRules, List.foldl_append]
    refine forall_join (h e (List.mem_append_right _ List.mem_cons_self)) ?_
    exact ih fun e' he' => h e' (List.mem_append_left _ he')

end Tally

namespace Comparison

variable {catalog : Catalog} {topic : Topic} {texts : List String} {c : Comparison}

/-- A comparison of codes that are texts, with rules in words. -/
structure Worded (c : Comparison) : Prop where
  codes : ∀ code ∈ c.codes, code.isText = true
  counts : ∀ e ∈ c.counts, e.1.Worded
  majority : ∀ r, c.majority = some r → r.Worded

theorem code_refsOf {code : Code} (h : code ∈ (refsOf texts).map Reference.code) :
    code.isText = true := by
  rw [refsOf, List.map_map] at h
  obtain ⟨s, -, rfl⟩ := List.mem_map.mp h
  rfl

theorem rule?_worded (hc : catalog.Worded) {codes : List Code} {code : Code} {r : Rule}
    (h : (ofCodes catalog topic codes).rule? code = some r) : r.Worded := by
  have hall : ∀ e ∈ (ofCodes catalog topic codes).byCode, ∀ r ∈ e.2, r.Worded := by
    apply Table.forall_mem_ofList
    intro e he r hr
    obtain ⟨code, -, rfl⟩ := List.mem_map.mp he
    exact hc.rule hr
  rw [rule?] at h
  cases hget : (ofCodes catalog topic codes).byCode.get? code.key with
  | none =>
    rw [hget] at h
    cases h
  | some own =>
    rw [hget] at h
    exact hall _ (Table.mem_of_get? hget) r h

theorem worded_ofCodes (hc : catalog.Worded) {codes : List Code}
    (htexts : ∀ code ∈ codes, code.isText = true) : (ofCodes catalog topic codes).Worded := by
  have hcounts : ∀ e ∈ (ofCodes catalog topic codes).counts, e.1.Worded := by
    apply Tally.forall_ofRules
    intro e he
    obtain ⟨code, -, hrule⟩ := List.mem_filterMap.mp he
    obtain ⟨r, hr, rfl⟩ := Option.map_eq_some_iff.mp hrule
    exact rule?_worded hc hr
  constructor
  case codes => exact htexts
  case counts => exact hcounts
  case majority =>
    intro r hr
    obtain ⟨_, hleader, rfl⟩ := Option.map_eq_some_iff.mp hr
    obtain ⟨⟨best, others⟩, hleading, rfl⟩ := Option.map_eq_some_iff.mp hleader
    -- The leader is one of the rules that are counted.
    have hleading : (ofCodes catalog topic codes).counts.leading? = some (best, others) := hleading
    obtain ⟨before, after, hsplit, -⟩ := Tally.exists_of_leading?_eq_some hleading
    have hmem : best ∈ (ofCodes catalog topic codes).counts := by
      rw [hsplit]
      exact List.mem_append_right _ List.mem_cons_self
    exact hcounts best hmem

theorem Worded.checkPlain (h : c.Worded) : c.checkPlain = .ok () :=
  if_pos (List.all_eq_true.mpr fun e he => (h.counts e he).isPlain)

theorem Worded.exists_toJson (h : c.Worded) : ∃ j, c.toJson = .ok j := by
  have hlabel : ∃ label, c.majority.mapM Rule.label? = .ok label := by
    cases hr : c.majority with
    | none => exact ⟨none, rfl⟩
    | some r =>
      refine ⟨some r.label, ?_⟩
      rw [Option.mapM_some, (h.majority r hr).label?_eq]
      rfl
  obtain ⟨label, hlabel⟩ := hlabel
  exact ⟨_, bind_eq_ok.mpr ⟨label, hlabel, rfl⟩⟩

theorem Worded.exists_report (h : c.Worded) : ∃ s, c.report = .ok s := by
  have hcodes : c.codes.all Code.isText = true := List.all_eq_true.mpr h.codes
  have hlabels : c.checkLabels = .ok () := by
    refine forM_eq_ok.mpr fun e he => ?_
    rw [(h.counts e he).label?_eq]
    rfl
  rw [report, hcodes]
  exact ⟨_, bind_eq_ok.mpr ⟨(), hlabels, rfl⟩⟩

/-- A fault for the choice of the jurisdictions. -/
def Misnamed (e : Fault) : Prop := ∃ f, e = .failure f ∧ f.kind = "invalid_comparison"

theorem failsOnly_checkKeys (texts : List String) :
    FailsOnly Misnamed (checkKeys (refsOf texts)) := by
  have hkeyed : ((refsOf texts).map Reference.code).takeWhile Code.isKey =
      (refsOf texts).map Reference.code := by
    rw [List.takeWhile_eq_self_iff]
    intro code hcode
    cases code with
    | text s => rfl
    | value j => cases code_refsOf hcode
  intro e he
  rw [checkKeys, hkeyed] at he
  split at he
  · cases he
    exact ⟨_, rfl, rfl⟩
  · rw [if_neg (Nat.lt_irrefl _)] at he
    cases he

theorem failsOnly_distinctCodes (refs : List Reference) :
    FailsOnly (fun f => f.kind = "invalid_comparison") (distinctCodes refs) := by
  intro f hf
  simp only [distinctCodes] at hf
  split at hf
  · cases hf
    rfl
  · split at hf
    · cases hf
      rfl
    · cases hf

theorem eq_of_distinctCodes {refs : List Reference} {codes : List Code}
    (h : distinctCodes refs = .ok codes) : codes = refs.map Reference.code := by
  simp only [distinctCodes] at h
  split at h
  · cases h
  · split at h
    · cases h
    · cases h
      rfl

theorem worded_of_run (hc : catalog.Worded) (h : run catalog topic (refsOf texts) = .ok c) :
    c.Worded := by
  obtain ⟨codes, hcodes, rfl⟩ := map_eq_ok.mp h
  rw [eq_of_distinctCodes hcodes]
  exact worded_ofCodes hc fun code => code_refsOf

end Comparison

namespace Engine

open Comparison

variable {α : Type} {e : Engine α} {topic : Topic} {texts : List String}

theorem worded_of_compare (hc : e.catalog.Worded) {c : Comparison}
    (h : e.compare topic (refsOf texts) = .ok c) : c.Worded := by
  obtain ⟨_, -, h⟩ := bind_eq_ok.mp h
  obtain ⟨c', hrun, h⟩ := bind_eq_ok.mp h
  obtain ⟨_, -, h⟩ := bind_eq_ok.mp h
  cases h
  exact worded_of_run hc (ok_of_mapError.mp hrun)

theorem failsOnly_compare (hc : e.catalog.Worded) (topic : Topic) (texts : List String) :
    FailsOnly Misnamed (e.compare topic (refsOf texts)) := by
  refine (failsOnly_checkKeys texts).bind fun _ _ => ?_
  have hrun : FailsOnly Misnamed
      ((Comparison.run e.catalog topic (refsOf texts)).mapError .failure) :=
    (failsOnly_distinctCodes _).map.mapError fun f hf => ⟨f, rfl, hf⟩
  refine hrun.bind fun c hok => ?_
  rw [(worded_of_run hc (ok_of_mapError.mp hok)).checkPlain]
  exact .ok

end Engine
end ComparativeLaw
