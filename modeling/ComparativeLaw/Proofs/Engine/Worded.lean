import ComparativeLaw.DataRoot
import ComparativeLaw.Engine.Call
import ComparativeLaw.Proofs.Rule.Worded

namespace ComparativeLaw

open Checked

namespace Feed

/-- The rules of a file are in words. -/
theorem worded_of_loadRules {path : String} {node : Node} {given : Option Registry}
    {entries : List RuleEntry} {registry : Registry}
    (h : loadRules path node given = .ok (entries, registry)) : ∀ e ∈ entries, e.rule.Worded := by
  obtain ⟨bytes, -, h⟩ := bind_eq_ok.mp h
  obtain ⟨s, -, h⟩ := bind_eq_ok.mp h
  obtain ⟨payload, -, h⟩ := bind_eq_ok.mp h
  exact worded_of_parseRules (ok_of_mapError.mp h)

end Feed

namespace Call

variable {α : Type}

/-- A call that brings only rules in words, if it brings any. -/
def Worded : Call α → Prop
  | .reload entries => ∀ e ∈ entries, e.rule.Worded
  | _ => True

end Call

namespace Engine

variable {α : Type} {e e' : Engine α} {c : Call α} {entries : List RuleEntry}

theorem worded_of_ofData [Scalar α] {policy : Policy α} {registry : Registry}
    {decisions : List Decision} (h : ofData policy registry entries decisions = .ok e)
    (hentries : ∀ entry ∈ entries, entry.rule.Worded) : e.catalog.Worded := by
  obtain ⟨catalog, hcatalog, h⟩ := bind_eq_ok.mp h
  obtain ⟨index, -, h⟩ := bind_eq_ok.mp h
  cases h
  exact Catalog.worded_of_build hcatalog hentries

theorem worded_of_reload (h : e.reload entries = .ok e')
    (hentries : ∀ entry ∈ entries, entry.rule.Worded) : e'.catalog.Worded := by
  obtain ⟨catalog, hcatalog, h⟩ := bind_eq_ok.mp h
  cases h
  exact Catalog.worded_of_build hcatalog hentries

/-- No call brings in a rule that is not in words, unless a reload does. -/
theorem worded_step [Scalar α] (h : e.catalog.Worded) (hc : c.Worded) :
    (e.step c).1.catalog.Worded := by
  cases c with
  | reload entries =>
    rw [step]
    cases hreload : e.reload entries with
    | error fault => exact h
    | ok e' => exact worded_of_reload hreload hc
  | rebuild decisions =>
    rw [step, rebuild]
    cases CaseIndex.ofList decisions with
    | error fault => exact h
    | ok index => exact h
  | _ => exact h

/-- The rules of an engine are in words for as long as those of every reload are. -/
theorem worded_run [Scalar α] (h : e.catalog.Worded) {calls : List (Call α)}
    (hc : ∀ c ∈ calls, c.Worded) : (e.run calls).1.catalog.Worded := by
  -- On the calls, with the engine general.
  induction calls generalizing e with
  | nil => exact h
  | cons c calls ih =>
    obtain ⟨hfirst, hrest⟩ := List.forall_mem_cons.mp hc
    exact ih (worded_step h hfirst) hrest

end Engine

namespace DataRoot

variable {α : Type} [Scalar α]

theorem worded_of_readRules {files : List (String × Feed.Node)} {registry registry' : Registry}
    {entries : List RuleEntry} (h : readRules registry files = .ok (entries, registry')) :
    ∀ e ∈ entries, e.rule.Worded := by
  induction files generalizing registry entries with
  | nil =>
    cases h
    exact List.forall_mem_nil _
  | cons file files ih =>
    obtain ⟨⟨first, between⟩, hload, h⟩ := bind_eq_ok.mp h
    obtain ⟨⟨rest, _⟩, hread, h⟩ := bind_eq_ok.mp h
    cases h
    exact List.forall_mem_append.mpr ⟨Feed.worded_of_loadRules hload, ih hread⟩

/-- The rules of a feed are in words, so those of an engine over the feeds of a root are. -/
theorem worded_of_engine {root : DataRoot} {policy : Policy α} {e : Engine α}
    (h : root.engine policy = .ok e) : e.catalog.Worded := by
  obtain ⟨⟨entries, registry⟩, hread, h⟩ := bind_eq_ok.mp h
  obtain ⟨decisions, -, h⟩ := bind_eq_ok.mp h
  exact Engine.worded_of_ofData h (worded_of_readRules hread)

end DataRoot
end ComparativeLaw
