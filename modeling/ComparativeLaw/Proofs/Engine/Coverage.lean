import ComparativeLaw.Proofs.Engine.Snapshot
import ComparativeLaw.Proofs.Jurisdiction.Merging
import ComparativeLaw.Proofs.Rule.Worded

namespace ComparativeLaw

/-- What an engine comes to have under a catalogue is its registry with the newcomers last. -/
theorem Registry.table_covering (r : Registry) {entries : List RuleEntry}
    (hc : ∀ e ∈ entries, e.jurisdiction.code.Canonical) :
    (r.covering entries).table = r.table ++ r.newcomers entries := by
  calc (r.covering entries).table
      = r.table.insertAll (keyed (Catalog.registryFor (EntryViews.namedBy entries []) r).toList) :=
        r.table_merged _
    -- The catalogue's registry starts with what the engine has already.
    _ = r.table.insertAll (r.table ++ r.newcomers entries) := by
        rw [keyed_toList, r.table_registryFor hc]
    _ = r.table.insertAll (r.newcomers entries) := by
        rw [Table.insertAll_append, Table.insertAll_of_subset r.nodup (List.Subset.refl _)]
    _ = r.table ++ r.newcomers entries :=
        Table.insertAll_of_nodup (r.nodup_append_newcomers entries)

namespace Catalog

variable {entries : List RuleEntry}

/-- A catalogue of entries with canonical codes, over some registry or none. -/
def Canonical (c : Catalog) : Prop :=
  ∃ (entries : List RuleEntry) (given : Option Registry),
    (∀ e ∈ entries, e.jurisdiction.code.Canonical) ∧ ofEntries entries given = .ok c

/-- The registry of a catalogue has the code of each entry, whatever registry was given. -/
theorem mem_registry_ofDistinct (hc : ∀ e ∈ entries, e.jurisdiction.code.Canonical)
    (given : Option Registry) {e : RuleEntry} (he : e ∈ entries) :
    e.jurisdiction.code.key ∈ (ofDistinct entries given).registry.table.keys := by
  cases given with
  | none =>
    have htable : (Registry.ofList (EntryViews.namedBy entries []).values).table =
        EntryViews.namedBy entries [] := by
      show Table.ofList (Registry.keyed _) = _
      rw [EntryViews.keyed_values_namedBy]
      exact Table.ofList_of_nodup (EntryViews.nodup_keys_namedBy entries)
    show _ ∈ (Registry.ofList (EntryViews.namedBy entries []).values).table.keys
    rw [htable, EntryViews.keys_namedBy, List.mem_eraseDups]
    exact List.mem_map_of_mem he
  | some r =>
    show _ ∈ (registryFor (EntryViews.namedBy entries []) (some r)).table.keys
    rw [r.table_registryFor hc]
    exact Registry.mem_keys_append_newcomers _ he

end Catalog

namespace Call

variable {α : Type}

/-- A call whose entries have canonical codes. -/
def Canonical : Call α → Prop
  | .reload entries => ∀ e ∈ entries, e.jurisdiction.code.Canonical
  | _ => True

end Call

namespace Engine

variable {α : Type} [Scalar α] {e : Engine α} {c : Call α}

/-- The registry resolves the code of each entry of the catalogue. -/
def Covered (e : Engine α) : Prop :=
  ∀ x ∈ e.catalog.entries, ∃ s j,
    x.jurisdiction.code = .text s ∧ e.registry.resolve (.text s) = .ok j

/-- The codes that a successful reload names and the registry lacks, in first-seen order. -/
def newCodes (e : Engine α) (c : Call α) : List Code.Key :=
  match c with
  | .reload entries =>
    if (e.step c).2.isOk then
      (entries.map fun x => x.jurisdiction.code.key).eraseDups.filter (· ∉ e.registry.table.keys)
    else []
  | _ => []

/-- What a call does to the registry. -/
structure Extends (e : Engine α) (c : Call α) : Prop where
  covers : (e.step c).1.Covered
  keeps : ∀ ref j, e.registry.resolve ref = .ok j → (e.step c).1.registry.resolve ref = .ok j
  order : (e.step c).1.registry.table.keys = e.registry.table.keys ++ e.newCodes c

/-- What every call keeps: the registry has all codes of a canonical catalogue. -/
structure Covering (e : Engine α) : Prop where
  canonical : ∀ x ∈ e.catalog.entries, x.jurisdiction.code.Canonical
  mem : ∀ x ∈ e.catalog.entries, x.jurisdiction.code.key ∈ e.registry.table.keys

omit [Scalar α] in
/-- Canonical codes that are in the registry are resolved by their texts. -/
theorem Covering.covered (h : e.Covering) : e.Covered := by
  intro x hx
  obtain ⟨s, hcode, hs⟩ := h.canonical x hx
  have hkey : (Reference.text s).code.key = x.jurisdiction.code.key := by
    rw [hcode]
    exact congrArg Code.Key.text hs
  obtain ⟨j, hj⟩ := Registry.exists_resolve (hkey ▸ h.mem x hx)
  exact ⟨s, j, hcode, hj⟩

/-- A call replaces the catalogue by that of distinct entries and covers it, or it leaves the
catalogue and the registry as they are. -/
theorem step_cases (e : Engine α) (hc : c.Canonical) :
    ((e.step c).1.catalog = e.catalog ∧ (e.step c).1.registry = e.registry ∧ e.newCodes c = []) ∨
    ∃ entries, c = .reload entries ∧ firstRepeat? RuleEntry.key [] entries = none ∧
      (e.step c).1 = { e with
        catalog := .ofDistinct entries (some e.registry)
        registry := e.registry.covering entries } ∧
      ∃ reply, (e.step c).2 = .ok reply := by
  cases c with
  | reload entries =>
    have htexts : ∀ x ∈ entries, x.jurisdiction.code.isText := by
      intro x hx
      obtain ⟨s, hcode, -⟩ := hc x hx
      rw [hcode]
      rfl
    have hbuilt := Catalog.build_eq htexts (some e.registry)
    cases hrepeat : firstRepeat? RuleEntry.key [] entries with
    | some x =>
      rw [hrepeat] at hbuilt
      -- A refused reload leaves the engine as it was, so that nothing is covered anew.
      have hstep : e.step (.reload entries) = (e, .error (.failure
          (.duplicateRuleEntry x.jurisdiction.code x.topic))) := by
        rw [step, reload, hbuilt]
        rfl
      refine .inl ⟨by rw [hstep], by rw [hstep], ?_⟩
      rw [newCodes, hstep]
      rfl
    | none =>
      rw [hrepeat] at hbuilt
      refine .inr ⟨entries, rfl, hrepeat, ?_⟩
      rw [step, reload, hbuilt]
      exact ⟨rfl, _, rfl⟩
  | rebuild decisions =>
    refine .inl ?_
    rw [step, rebuild]
    cases CaseIndex.ofList decisions with
    | error f => exact ⟨rfl, rfl, rfl⟩
    | ok ix => exact ⟨rfl, rfl, rfl⟩
  | _ => exact .inl ⟨rfl, rfl, rfl⟩

theorem Covering.step (h : e.Covering) (hc : c.Canonical) :
    (e.step c).1.Covering ∧ e.Extends c := by
  -- A refused reload is among the calls that change neither the catalogue nor the registry.
  rcases e.step_cases hc with ⟨hcatalog, hregistry, hnew⟩ | ⟨entries, rfl, hnone, hstep, _, hreply⟩
  · have hafter : (e.step c).1.Covering := by
      constructor <;> simp only [hregistry, hcatalog]
      exacts [h.canonical, h.mem]
    refine ⟨hafter, hafter.covered, ?_, ?_⟩
    · rw [hregistry]
      exact fun _ _ hj => hj
    · rw [hregistry, hnew, List.append_nil]
  · have htable : (e.step (.reload entries)).1.registry.table =
        e.registry.table ++ e.registry.newcomers entries := by
      rw [hstep]
      exact Registry.table_covering _ hc
    have hentries : (e.step (.reload entries)).1.catalog.entries = entries := by
      rw [hstep]
      exact Catalog.entries_ofDistinct hnone _
    have hafter : (e.step (.reload entries)).1.Covering := by
      refine ⟨fun x hx => hc x (hentries ▸ hx), fun x hx => ?_⟩
      rw [htable]
      exact Registry.mem_keys_append_newcomers _ (hentries ▸ hx)
    refine ⟨hafter, hafter.covered, fun _ _ => Registry.resolve_of_append htable, ?_⟩
    rw [htable, Table.keys_append, Registry.keys_newcomers]
    simp only [newCodes, hreply]
    rfl

omit [Scalar α] in
/-- An engine covers the catalogue that it is built over. -/
theorem covering_of (policy : Policy α) {catalog : Option Catalog} (index : CaseIndex)
    (given : Option Registry) (hcatalog : ∀ c ∈ catalog, c.Canonical) :
    (of policy catalog index given).Covering := by
  cases catalog with
  | none =>
    have hempty (x : RuleEntry) (hx : x ∈ (Catalog.mk {} ∅).entries) : False :=
      List.not_mem_nil hx
    exact ⟨fun x hx => (hempty x hx).elim, fun x hx => (hempty x hx).elim⟩
  | some c =>
    obtain ⟨entries, listed, hc, hbuilt⟩ := hcatalog c rfl
    obtain ⟨hnone, rfl⟩ := Catalog.ofEntries_eq_ok.mp hbuilt
    have hentries : (Catalog.ofDistinct entries listed).entries = entries :=
      Catalog.entries_ofDistinct hnone _
    refine ⟨fun x hx => hc x (hentries ▸ hx), fun x hx => ?_⟩
    have hin := Catalog.mem_registry_ofDistinct hc listed (hentries ▸ hx : x ∈ entries)
    rw [of, Registry.table_merged]
    exact Table.mem_keys_insertAll.mpr (.inr (Registry.keyed_toList _ ▸ hin))

/-- Every run of calls keeps the registry over the catalogue. -/
theorem covering_run (h : e.Covering) {calls : List (Call α)} (hc : ∀ c ∈ calls, c.Canonical) :
    (e.run calls).1.Covering := by
  -- On the calls, with the engine general.
  induction calls generalizing e with
  | nil => exact h
  | cons c calls ih =>
    obtain ⟨hfirst, hrest⟩ := List.forall_mem_cons.mp hc
    exact ih (h.step hfirst).1 hrest

/-- The registry covers the catalogue from the start and after every call, a refused one included.
What resolves before a call resolves to the same jurisdiction after it, and the new codes of a
reload come last, in the order in which they are first seen. -/
theorem registry_covers (policy : Policy α) {catalog : Option Catalog} (index : CaseIndex)
    (given : Option Registry) (hcatalog : ∀ c ∈ catalog, c.Canonical)
    {calls : List (Call α)} (hcalls : ∀ c ∈ calls, c.Canonical) :
    (of policy catalog index given).Covered ∧
    ∀ before c after, calls = before ++ c :: after →
      ((of policy catalog index given).run before).1.Extends c := by
  have hstart := covering_of policy index given hcatalog
  refine ⟨hstart.covered, ?_⟩
  rintro before c after rfl
  obtain ⟨hbefore, hrest⟩ := List.forall_mem_append.mp hcalls
  exact ((covering_run hstart hbefore).step (hrest c List.mem_cons_self)).2

theorem canonical_negligenceEntry (code : String) (h : canonicalCode code = code) :
    (negligenceEntry code).jurisdiction.code.Canonical :=
  ⟨code, rfl, h⟩

def newYork : Jurisdiction := { code := "US-NY", name := "New York" }

def californian : Catalog := .ofDistinct [negligenceEntry "US-CA"] none

theorem canonical_californian : californian.Canonical := by
  refine ⟨[negligenceEntry "US-CA"], none, ?_, Catalog.ofEntries_eq_ok.mpr ⟨rfl, rfl⟩⟩
  simpa using canonical_negligenceEntry "US-CA" (by decide +kernel)

/-- An engine over one rule, with a registry of another state. -/
def twoStates : Engine Rat :=
  of (.ofEnvironment []) (some californian) {} (some (Registry.ofList [newYork]))

/-- Reloads that overlap with each other and with the registry; the second one is refused. -/
def overlappingReloads : List (Call Rat) :=
  [.reload [negligenceEntry "US-TX", negligenceEntry "US-NY"],
    .reload [negligenceEntry "US-WA", negligenceEntry "US-WA"],
    .reload [negligenceEntry "US-OR", negligenceEntry "US-TX", negligenceEntry "US-AK"]]

/-- Two of three reloads go through, and the registry grows by what they name. -/
theorem registry_covers_overlappingReloads :
    (∀ c ∈ some californian, c.Canonical) ∧ (∀ c ∈ overlappingReloads, c.Canonical) ∧
    (twoStates.run overlappingReloads).2.map sizeOf? = [some 2, none, some 3] ∧
    (twoStates.run overlappingReloads).1.registry.table.keys =
      [.text "US-NY", .text "US-CA", .text "US-TX", .text "US-OR", .text "US-AK"] ∧
    twoStates.Covered ∧ ∀ before c after, overlappingReloads = before ++ c :: after →
      (twoStates.run before).1.Extends c := by
  have hcatalog : ∀ c ∈ some californian, c.Canonical := by
    rintro c ⟨⟩
    exact canonical_californian
  have hcalls : ∀ c ∈ overlappingReloads, c.Canonical := by
    have hcodes : ∀ code ∈ ["US-TX", "US-NY", "US-WA", "US-OR", "US-AK"],
        canonicalCode code = code := by decide +kernel
    simp [overlappingReloads, Call.Canonical, canonical_negligenceEntry, hcodes]
  exact ⟨hcatalog, hcalls, by decide +kernel, by decide +kernel,
    registry_covers _ _ (some (.ofList [newYork])) hcatalog hcalls⟩

end Engine
end ComparativeLaw
