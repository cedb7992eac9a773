import ComparativeLaw.Proofs.Engine.Building
import ComparativeLaw.Proofs.Jurisdiction.Canonical

namespace ComparativeLaw

/-- A text that is its own canonical form. -/
def Code.Canonical (c : Code) : Prop := ∃ s, c = .text s ∧ canonicalCode s = s

theorem Code.canonical_canonicalCode (s : String) : Code.Canonical (.text (canonicalCode s)) :=
  ⟨_, rfl, canonicalCode_canonicalCode s⟩

theorem Code.is_iff {c : Code} {s : String} : c.is s = true ↔ c.key = .text s := by
  cases c <;> simp [is, text?, key]

namespace Registry

variable {r : Registry} {js : List Jurisdiction} {ref : Reference} {j : Jurisdiction}

theorem map_fst_keyed (js : List Jurisdiction) :
    (keyed js).map (·.1) = js.map fun j => j.code.key :=
  List.map_map

theorem keyed_values {t : Table Code.Key Jurisdiction} (h : ∀ e ∈ t, e.2.code.key = e.1) :
    keyed t.values = t := by
  have hid : ∀ e ∈ t, (e.2.code.key, e.2) = id e := fun e he => by rw [h e he]; rfl
  rw [keyed, Table.values, List.map_map]
  exact (List.map_congr_left hid).trans (List.map_id _)

/-- Keying the jurisdictions of a registry gives its table back, since each is under its own code.
-/
theorem keyed_toList (r : Registry) : keyed r.toList = r.table := keyed_values r.own

theorem table_merged (r : Registry) (js : List Jurisdiction) :
    (r.merged js).table = r.table.insertAll (keyed js) := by
  have hself : Table.ofList r.table = r.table := Table.ofList_of_nodup r.nodup
  have hsplit : keyed (r.toList ++ js) = r.table ++ keyed js := by
    rw [← r.keyed_toList]
    exact List.map_append
  show Table.ofList (keyed (r.toList ++ js)) = _
  rw [hsplit, Table.ofList, Table.insertAll_append, ← Table.ofList, hself]

/-- After a merge the last of the new jurisdictions counts, then the old one. -/
theorem get?_merged (r : Registry) (js : List Jurisdiction) (k : Code.Key) :
    (r.merged js).table.get? k =
      (js.reverse.find? fun j => j.code.key = k).or (r.table.get? k) := by
  rw [r.table_merged, Table.get?_insertAll_last, keyed, ← List.map_reverse, List.find?_map,
    Option.map_map]
  exact congrArg (Option.or · _) Option.map_id'

/-- Merging adds the codes of the jurisdictions and no others. -/
theorem mem_keys_merged {js : List Jurisdiction} {k : Code.Key} :
    k ∈ (r.merged js).table.keys ↔ k ∈ r.table.keys ∨ ∃ j ∈ js, j.code.key = k := by
  rw [r.table_merged, Table.mem_keys_insertAll, map_fst_keyed, List.mem_map]

theorem isEmpty_ofList (js : List Jurisdiction) : (ofList js).isEmpty = js.isEmpty := by
  cases js with
  | nil => rfl
  | cons j js =>
    have hmem : j.code.key ∈ (ofList (j :: js)).table.keys :=
      Table.mem_keys_insertAll.mpr (.inr List.mem_cons_self)
    cases htable : (ofList (j :: js)).table with
    | nil => simp [htable, Table.keys] at hmem
    | cons e t => rw [isEmpty, htable]; rfl

theorem resolve_eq_ok : r.resolve ref = .ok j ↔ r.get? ref = some j := by
  unfold resolve
  split
  · next j' hj => simp [hj]
  · next hj => simp [hj]

theorem exists_resolve (h : ref.code.key ∈ r.table.keys) : ∃ j, r.resolve ref = .ok j := by
  obtain ⟨j, hj⟩ := Option.isSome_iff_exists.mp (Table.isSome_get?.mpr h)
  exact ⟨j, resolve_eq_ok.mpr hj⟩

/-- What a registry has, it keeps when entries are appended to its table. -/
theorem resolve_of_append {r' : Registry} {new : Table Code.Key Jurisdiction}
    (h : r'.table = r.table ++ new) (hj : r.resolve ref = .ok j) : r'.resolve ref = .ok j := by
  rw [resolve_eq_ok] at hj ⊢
  rw [get?] at hj ⊢
  rw [h, Table.get?_append, hj, Option.some_or]

end Registry

namespace EntryViews

variable {entries : List RuleEntry}

theorem namedBy_snoc (entries : List RuleEntry) (e : RuleEntry) :
    namedBy (entries ++ [e]) [] =
      (namedBy entries []).alter e.jurisdiction.code.key id e.jurisdiction :=
  List.foldl_append

/-- The codes that entries name, each at its first place. -/
theorem keys_namedBy (entries : List RuleEntry) :
    (namedBy entries []).keys = (entries.map fun e => e.jurisdiction.code.key).eraseDups := by
  induction entries using List.reverseRecOn with
  | nil => rfl
  | append_singleton entries e ih =>
    rw [namedBy_snoc, Table.alter, Table.keys_insert, ih, List.map_append, List.map_singleton,
      Table.eraseDups_snoc]
    simp only [List.mem_eraseDups]

/-- Each jurisdiction that entries name is that of an entry and stands under its own code. -/
theorem of_mem_namedBy {e : Code.Key × Jurisdiction} (h : e ∈ namedBy entries []) :
    e.2.code.key = e.1 ∧ ∃ x ∈ entries, x.jurisdiction = e.2 := by
  induction entries using List.reverseRecOn generalizing e with
  | nil => cases h
  | append_singleton entries x ih =>
    rw [namedBy_snoc, Table.alter] at h
    refine Table.forall_mem_insert (P := fun e => e.2.code.key = e.1 ∧
      ∃ y ∈ entries ++ [x], y.jurisdiction = e.2) (fun e he => ?_) ?_ e h
    · obtain ⟨hkey, y, hy, hj⟩ := ih he
      exact ⟨hkey, y, List.mem_append_left _ hy, hj⟩
    · -- A code that is named already keeps its jurisdiction.
      cases hget : (namedBy entries []).get? x.jurisdiction.code.key with
      | none => exact ⟨rfl, x, List.mem_append_right _ List.mem_cons_self, rfl⟩
      | some j =>
        obtain ⟨hkey, y, hy, hj⟩ := ih (Table.mem_of_get? hget)
        exact ⟨hkey, y, List.mem_append_left _ hy, hj⟩

theorem keyed_values_namedBy (entries : List RuleEntry) :
    Registry.keyed (namedBy entries []).values = namedBy entries [] :=
  Registry.keyed_values fun _ he => (of_mem_namedBy he).1

theorem nodup_keys_namedBy (entries : List RuleEntry) : (namedBy entries []).keys.Nodup := by
  induction entries using List.reverseRecOn with
  | nil => exact List.nodup_nil
  | append_singleton entries e ih =>
    rw [namedBy_snoc]
    exact Table.nodup_keys_insert ih _ _

end EntryViews

namespace Registry

variable {r : Registry} {entries : List RuleEntry}

/-- The jurisdictions that entries name and a registry lacks, in the order in which they are first
named. -/
def newcomers (r : Registry) (entries : List RuleEntry) : Table Code.Key Jurisdiction :=
  (EntryViews.namedBy entries []).filter fun e => e.1 ∉ r.table.keys

/-- The codes that entries name and a registry lacks, each at its first place. -/
theorem keys_newcomers (r : Registry) (entries : List RuleEntry) :
    (r.newcomers entries).keys =
      (entries.map fun e => e.jurisdiction.code.key).eraseDups.filter (· ∉ r.table.keys) := by
  rw [← EntryViews.keys_namedBy]
  simp only [newcomers, Table.keys, List.filter_map]
  rfl

theorem mem_keys_newcomers {k : Code.Key} : k ∈ (r.newcomers entries).keys ↔
    k ∉ r.table.keys ∧ ∃ e ∈ entries, e.jurisdiction.code.key = k := by
  rw [keys_newcomers, List.mem_filter, List.mem_eraseDups, List.mem_map, and_comm]
  simp

/-- The registry with the newcomers has the codes of all entries. -/
theorem mem_keys_append_newcomers (r : Registry) {e : RuleEntry} (he : e ∈ entries) :
    e.jurisdiction.code.key ∈ (r.table ++ r.newcomers entries).keys := by
  rw [Table.keys_append, List.mem_append]
  by_cases hin : e.jurisdiction.code.key ∈ r.table.keys
  · exact .inl hin
  · exact .inr (mem_keys_newcomers.mpr ⟨hin, e, he, rfl⟩)

/-- What a registry lacks can be put last. -/
theorem nodup_append_newcomers (r : Registry) (entries : List RuleEntry) :
    (r.table ++ r.newcomers entries).keys.Nodup := by
  have hnew : (r.newcomers entries).keys.Nodup :=
    (EntryViews.nodup_keys_namedBy entries).sublist (List.filter_sublist.map _)
  rw [Table.keys_append]
  refine List.nodup_append.mpr ⟨r.nodup, hnew, fun a ha b hb => ?_⟩
  rintro rfl
  exact (mem_keys_newcomers.mp hb).1 ha

theorem lacks_eq {c : Code} (hc : c.Canonical) (r : Registry) :
    Catalog.lacks r c = decide (c.key ∉ r.table.keys) := by
  obtain ⟨s, rfl, hs⟩ := hc
  have hkey : (Reference.text s).code.key = Code.Key.text s := congrArg Code.Key.text hs
  rw [Catalog.lacks, knows, contains, hkey, decide_not]
  exact congrArg _ (Bool.eq_iff_iff.mpr ((Table.contains_iff _ _).trans decide_eq_true_iff.symm))

/-- What a catalogue looks for in its registry and does not find. -/
theorem keyed_missing (r : Registry) (hc : ∀ e ∈ entries, e.jurisdiction.code.Canonical) :
    keyed ((EntryViews.namedBy entries []).values.filter fun j => Catalog.lacks r j.code) =
      r.newcomers entries := by
  have hlacks : ∀ e ∈ EntryViews.namedBy entries [],
      ((fun j => Catalog.lacks r j.code) ∘ Prod.snd) e = decide (e.1 ∉ r.table.keys) := by
    intro e he
    obtain ⟨hkey, x, hx, hj⟩ := EntryViews.of_mem_namedBy he
    rw [← hkey]
    -- Only for a canonical code is the text that is looked for the key of the jurisdiction.
    exact lacks_eq (hj ▸ hc x hx) r
  rw [Table.values, List.filter_map, List.filter_congr hlacks]
  exact keyed_values fun e he => (EntryViews.of_mem_namedBy (List.mem_of_mem_filter he)).1

/-- The registry of a catalogue is the given one with the newcomers last. -/
theorem table_registryFor (r : Registry) (hc : ∀ e ∈ entries, e.jurisdiction.code.Canonical) :
    (Catalog.registryFor (EntryViews.namedBy entries []) (some r)).table =
      r.table ++ r.newcomers entries := by
  have hmissing := keyed_missing r hc
  rw [Catalog.registryFor]
  split
  · next hnil =>
    rw [hnil] at hmissing
    rw [← hmissing]
    exact (List.append_nil _).symm
  · rw [r.table_merged, hmissing]
    exact Table.insertAll_of_nodup (r.nodup_append_newcomers entries)

/-- The codes of the jurisdictions in a table, under their keys. -/
def codesIn (t : Table Code.Key Jurisdiction) : Table Code.Key Code :=
  t.map fun e => (e.1, e.2.code)

/-- A registry in which each code is written as its jurisdiction has it. -/
def Plain (r : Registry) : Prop := r.written = codesIn r.table

/-- A plain registry is determined by its table. -/
theorem Plain.ext {r r' : Registry} (h : r.Plain) (h' : r'.Plain) (htable : r.table = r'.table) :
    r = r' := by
  have hwritten : r.written = r'.written := by rw [h, h', htable]
  cases r
  cases r'
  cases htable
  cases hwritten
  rfl

theorem codesIn_insert (t : Table Code.Key Jurisdiction) (k : Code.Key) (j : Jurisdiction) :
    codesIn (t.insert k j) = (codesIn t).insert k j.code := by
  induction t with
  | nil => rfl
  | cons e t ih =>
    by_cases hk : e.1 = k
    · simp [codesIn, Table.insert, hk]
    · simp only [codesIn] at ih
      simp [codesIn, Table.insert, hk, ih]

/-- A text is written in one way only, so that it may be written again. -/
theorem codesIn_insert_text {t : Table Code.Key Jurisdiction} (h : ∀ e ∈ t, e.2.code.key = e.1)
    (hj : j.code.isText = true) :
    codesIn (t.insert j.code.key j) = (codesIn t).alter j.code.key id j.code := by
  have hcode : ((codesIn t).get? j.code.key).getD j.code = j.code := by
    cases hget : (codesIn t).get? j.code.key with
    | none => rfl
    | some c =>
      obtain ⟨e, he, heq⟩ := List.mem_map.mp (Table.mem_of_get? hget)
      obtain ⟨hkey, rfl⟩ := Prod.mk.inj heq
      obtain ⟨s, hs⟩ := Option.isSome_iff_exists.mp hj
      have hs : j.code.key = .text s := Code.is_iff.mp (decide_eq_true hs)
      have hc : e.2.code.key = .text s := by rw [h e he, hkey, hs]
      rw [Option.getD_some, code_eq_of_key hc, code_eq_of_key hs]
  rw [codesIn_insert, Table.alter, id, hcode]

/-- A merge writes a code that is new and leaves the others as they were written. -/
theorem codesIn_insertAll {t : Table Code.Key Jurisdiction} (h : ∀ e ∈ t, e.2.code.key = e.1)
    (hjs : ∀ j ∈ js, j.code.isText = true) :
    codesIn (t.insertAll (keyed js)) =
      (js.map (·.code)).foldl (fun w c => w.alter c.key id c) (codesIn t) := by
  -- With the table general: each text goes in under its own key and keeps it keyed.
  induction js generalizing t with
  | nil => rfl
  | cons j js ih =>
    obtain ⟨hj, hjs⟩ := List.forall_mem_cons.mp hjs
    have hstep : t.insertAll (keyed (j :: js)) = (t.insert j.code.key j).insertAll (keyed js) := rfl
    have hkeyed : ∀ e ∈ t.insert j.code.key j, e.2.code.key = e.1 :=
      Table.forall_mem_insert (P := fun e : Code.Key × Jurisdiction => e.2.code.key = e.1) h rfl
    rw [hstep, ih hkeyed hjs, codesIn_insert_text h hj, List.map_cons, List.foldl_cons]

/-- Codes that all differ are written in their order. -/
theorem foldl_alter_of_nodup {w : Table Code.Key Code} {codes : List Code}
    (h : (w.keys ++ codes.map Code.key).Nodup) :
    codes.foldl (fun w c => w.alter c.key id c) w = w ++ codes.map fun c => (c.key, c) := by
  induction codes generalizing w with
  | nil => exact (List.append_nil w).symm
  | cons c codes ih =>
    have hfresh : c.key ∉ w.keys := by
      intro hin
      exact (List.nodup_append.mp h).2.2 _ hin _ List.mem_cons_self rfl
    have hnone : w.get? c.key = none := by
      rw [← Option.not_isSome_iff_eq_none, Table.isSome_get?]
      exact hfresh
    have hstep : w.alter c.key id c = w ++ [(c.key, c)] := by
      rw [Table.alter, hnone]
      exact Table.insert_of_not_mem hfresh c
    have hrest : ((w ++ [(c.key, c)]).keys ++ codes.map Code.key).Nodup := by
      rw [Table.keys_append, List.append_assoc]
      exact h
    rw [List.foldl_cons, hstep, ih hrest, List.append_assoc]
    rfl

theorem firstWritten_toList (r : Registry) :
    firstWritten (r.toList.map (·.code)) = codesIn r.table := by
  have hkeys : (r.toList.map (·.code)).map Code.key = r.table.keys := by
    have hkeyed := congrArg (List.map Prod.fst) r.keyed_toList
    rw [map_fst_keyed] at hkeyed
    rw [List.map_map]
    exact hkeyed
  have hnodup : (Table.keys ([] : Table Code.Key Code) ++
      (r.toList.map (·.code)).map Code.key).Nodup := by
    rw [hkeys]
    exact r.nodup
  rw [firstWritten, foldl_alter_of_nodup hnodup, List.nil_append]
  conv_rhs => rw [codesIn, ← r.keyed_toList]
  simp only [keyed, List.map_map]
  rfl

/-- A merge of codes that are texts leaves a plain registry, whatever was there before. -/
theorem plain_merged (r : Registry) (hjs : ∀ j ∈ js, j.code.isText = true) :
    (r.merged js).Plain := by
  show firstWritten ((r.toList ++ js).map (·.code)) = codesIn (r.merged js).table
  rw [r.table_merged, codesIn_insertAll r.own hjs, ← r.firstWritten_toList, firstWritten,
    List.map_append, List.foldl_append]
  rfl

theorem plain_ofList (hjs : ∀ j ∈ js, j.code.isText = true) : (ofList js).Plain :=
  plain_merged (ofList []) hjs

theorem plain_known : known.Plain := by
  apply plain_ofList
  decide +kernel

theorem Plain.merged_nil (h : r.Plain) : r.merged [] = r := by
  apply (plain_merged r (fun _ hj => absurd hj List.not_mem_nil)).ext h
  rw [r.table_merged]
  rfl

/-- To merge jurisdictions and then more of them is to merge all of them at once. -/
theorem table_merged_merged (r : Registry) (js ks : List Jurisdiction) :
    ((r.merged js).merged ks).table = (r.merged (js ++ ks)).table := by
  rw [table_merged, table_merged, table_merged, ← Table.insertAll_append]
  exact congrArg _ List.map_append.symm

/-- Where all codes are texts, the registry as a whole is the same. -/
theorem merged_merged {ks : List Jurisdiction} (r : Registry)
    (hjs : ∀ j ∈ js, j.code.isText = true) (hks : ∀ j ∈ ks, j.code.isText = true) :
    (r.merged js).merged ks = r.merged (js ++ ks) := by
  have hboth : ∀ j ∈ js ++ ks, j.code.isText = true := List.forall_mem_append.mpr ⟨hjs, hks⟩
  apply (plain_merged (r.merged js) hks).ext (plain_merged r hboth)
  exact r.table_merged_merged js ks

/-- A code that is not merged is looked up as before. -/
theorem get?_merged_of_ne (r : Registry) (hjs : ∀ j ∈ js, j.code.key ≠ ref.code.key) :
    (r.merged js).get? ref = r.get? ref := by
  have hnone : js.reverse.find? (fun j => j.code.key = ref.code.key) = none := by
    rw [List.find?_eq_none]
    intro j hj
    simpa using hjs j (List.mem_reverse.mp hj)
  rw [get?, get?_merged, hnone, Option.none_or, get?]

theorem orKnown_of_not_isEmpty (h : r.isEmpty = false) : orKnown (some r) = r :=
  if_neg (Bool.eq_false_iff.mp h)

theorem isEmpty_merged (h : r.isEmpty = false) (js : List Jurisdiction) :
    (r.merged js).isEmpty = false := by
  have hne : r.toList ≠ [] := by
    intro hnil
    have htable : r.table = [] := List.map_eq_nil_iff.mp hnil
    rw [isEmpty, htable] at h
    cases h
  rw [merged, isEmpty_ofList]
  exact List.isEmpty_eq_false_iff.mpr (List.append_ne_nil_of_left_ne_nil hne js)

/-- The registry that a reading consults is never empty. -/
theorem isEmpty_orKnown (r : Option Registry) : (orKnown r).isEmpty = false := by
  have hknown : known.isEmpty = false := by decide +kernel
  cases r with
  | none => exact hknown
  | some r =>
    rw [orKnown]
    split
    · exact hknown
    · next h => exact Bool.eq_false_iff.mpr h

end Registry
end ComparativeLaw
