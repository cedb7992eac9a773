import ComparativeLaw.Feed.Rules
import ComparativeLaw.Proofs.Checked
import ComparativeLaw.Proofs.Engine.Building
import ComparativeLaw.Proofs.Table

namespace ComparativeLaw

open Checked

namespace Rule

/-- A rule whose conditions, if it has any, are texts. -/
def Worded : Rule → Prop
  | cap _ _ conditions => ∀ c ∈ conditions, ∃ s, c = .text s
  | _ => True

variable {r : Rule}

theorem Worded.isPlain (h : r.Worded) : r.isPlain = true := by
  cases r with
  | cap damages amount conditions =>
    refine List.all_eq_true.mpr fun c hc => ?_
    obtain ⟨s, rfl⟩ := h c hc
    rfl
  | _ => rfl

theorem Worded.label?_eq (h : r.Worded) : r.label? = .ok r.label := by
  cases r with
  | cap damages amount conditions =>
    have hread : conditions.mapM Json.toText = .ok (conditions.map Json.plain) := by
      refine mapM_eq_ok_map fun c hc => ?_
      obtain ⟨s, rfl⟩ := h c hc
      rfl
    rw [label?, hread]
    rfl
  | _ => rfl

end Rule

namespace Feed

variable {entries : List RuleEntry}

theorem Payload.worded_of_rule {p : Payload} {r : Rule} (h : p.rule = .ok r) : r.Worded := by
  cases p with
  | cap damages amount conditions =>
    cases h
    intro c hc
    obtain ⟨s, -, rfl⟩ := List.mem_map.mp hc
    exact ⟨s, rfl⟩
  | _ =>
    simp only [rule, Rule.ofFlag, Rule.ofThreshold, Rule.ofCustom] at h
    split at h
    · cases h
    · cases h
      trivial

theorem RuleRecord.worded_of_entry {registry : Registry} {position : Nat} {record : RuleRecord}
    {e : RuleEntry} (h : record.entry registry position = .ok e) : e.rule.Worded := by
  unfold entry at h
  split at h
  · cases h
  · split at h
    · cases h
    · next rule hrule =>
      cases h
      exact record.payload.worded_of_rule hrule

theorem worded_of_entriesFrom {registry : Registry} {position : Nat} {records : List RuleRecord}
    (h : entriesFrom registry position records = .ok entries) : ∀ e ∈ entries, e.rule.Worded := by
  induction records generalizing position entries with
  | nil =>
    cases h
    exact fun e he => nomatch he
  | cons record records ih =>
    obtain ⟨e, he, h⟩ := bind_eq_ok.mp h
    obtain ⟨rest, hrest, h⟩ := bind_eq_ok.mp h
    cases h
    rw [List.forall_mem_cons]
    exact ⟨RuleRecord.worded_of_entry he, ih hrest⟩

theorem worded_of_parseRules {payload : Json} {given : Option Registry} {source : Option Json}
    {registry : Registry} (h : parseRules payload given source = .ok (entries, registry)) :
    ∀ e ∈ entries, e.rule.Worded := by
  unfold parseRules at h
  split at h
  · cases h
  · obtain ⟨entries', hentries, h⟩ := bind_eq_ok.mp (ok_of_mapError.mp h)
    cases h
    exact worded_of_entriesFrom hentries

end Feed

namespace Catalog

/-- A catalogue whose rules can all be told apart and have labels. -/
def Worded (c : Catalog) : Prop := ∀ e ∈ c.entries, e.rule.Worded

variable {c : Catalog} {entries : List RuleEntry}

theorem Worded.rule (h : c.Worded) {ref : Reference} {topic : Topic} {r : Rule}
    (hr : c.rule? ref topic = some r) : r.Worded := by
  obtain ⟨e, he, rfl⟩ := Option.map_eq_some_iff.mp hr
  exact h e (List.mem_map_of_mem (Table.mem_of_get? he))

theorem worded_of_build {registry : Option Registry} (h : build entries registry = .ok c)
    (hworded : ∀ e ∈ entries, e.rule.Worded) : c.Worded := by
  let keyed := entries.takeWhile fun e => e.jurisdiction.code.isKey
  obtain ⟨built, hbuilt, h⟩ := bind_eq_ok.mp h
  have hbuilt : ofEntries keyed registry = .ok built := ok_of_mapError.mp hbuilt
  rw [ofEntries_eq] at hbuilt
  split at h
  · cases h
  · cases h
    split at hbuilt
    · cases hbuilt
    · next hnone =>
      cases hbuilt
      -- Filing keeps the entries that can be keyed, and each of them was given.
      intro e he
      rw [entries_ofDistinct hnone] at he
      exact hworded e ((List.takeWhile_prefix _).subset he)

end Catalog
end ComparativeLaw
