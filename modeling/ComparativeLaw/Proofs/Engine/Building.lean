import ComparativeLaw.Catalog
import ComparativeLaw.Proofs.CaseLaw.Filing
import Mathlib.Data.List.Induction
import Mathlib.Data.List.TakeWhile

namespace ComparativeLaw

section

variable {α κ : Type} [DecidableEq κ]

/-- The first item whose key is seen already, or is that of an item before it. -/
def firstRepeat? (key : α → κ) : List κ → List α → Option α
  | _, [] => none
  | seen, x :: xs => if key x ∈ seen then some x else firstRepeat? key (seen ++ [key x]) xs

variable {key : α → κ} {seen : List κ} {x : α}

theorem firstRepeat?_of_mem (h : key x ∈ seen) (xs : List α) :
    firstRepeat? key seen (x :: xs) = some x :=
  if_pos h

theorem firstRepeat?_of_not_mem (h : key x ∉ seen) (xs : List α) :
    firstRepeat? key seen (x :: xs) = firstRepeat? key (seen ++ [key x]) xs :=
  if_neg h

theorem firstRepeat?_cons_eq_none {xs : List α} (h : firstRepeat? key seen (x :: xs) = none) :
    key x ∉ seen ∧ firstRepeat? key (seen ++ [key x]) xs = none := by
  by_cases hx : key x ∈ seen
  · rw [firstRepeat?_of_mem hx] at h
    cases h
  · rw [firstRepeat?_of_not_mem hx] at h
    exact ⟨hx, h⟩

theorem firstRepeat?_of_nodup {xs : List α} (h : (seen ++ xs.map key).Nodup) :
    firstRepeat? key seen xs = none := by
  induction xs generalizing seen with
  | nil => rfl
  | cons x xs ih =>
    have hx : key x ∉ seen := by
      intro hin
      rw [List.nodup_append] at h
      exact h.2.2 (key x) hin (key x) List.mem_cons_self rfl
    rw [firstRepeat?_of_not_mem hx]
    apply ih
    rwa [List.append_assoc]

/-- Without a repeat all keys differ. -/
theorem nodup_of_firstRepeat? {xs : List α} (h : firstRepeat? key seen xs = none) :
    (xs.map key).Nodup ∧ ∀ x ∈ xs, key x ∉ seen := by
  induction xs generalizing seen with
  | nil => exact ⟨List.nodup_nil, fun _ hx => absurd hx List.not_mem_nil⟩
  | cons x xs ih =>
    obtain ⟨hx, hrest⟩ := firstRepeat?_cons_eq_none h
    obtain ⟨hnodup, hfresh⟩ := ih hrest
    refine ⟨List.nodup_cons.mpr ⟨fun hin => ?_, hnodup⟩, List.forall_mem_cons.mpr ⟨hx, ?_⟩⟩
    · obtain ⟨y, hy, hkey⟩ := List.mem_map.mp hin
      exact hfresh y hy (hkey ▸ List.mem_append_right _ List.mem_cons_self)
    · exact fun y hy hin => hfresh y hy (List.mem_append_left _ hin)

/-- The item that is found stands after distinct new ones, and its key is seen by then. -/
theorem firstRepeat?_eq_some {xs : List α} : firstRepeat? key seen xs = some x ↔
    ∃ before after, xs = before ++ x :: after ∧ firstRepeat? key seen before = none ∧
      key x ∈ seen ++ before.map key := by
  -- On the list: an item that is seen is found, any other one goes to the items before.
  induction xs generalizing seen with
  | nil =>
    refine iff_of_false (fun h => nomatch h) ?_
    rintro ⟨before, after, hsplit, -⟩
    exact absurd hsplit.symm (List.append_ne_nil_of_right_ne_nil before (List.cons_ne_nil x after))
  | cons y xs ih =>
    by_cases hy : key y ∈ seen
    · rw [firstRepeat?_of_mem hy]
      constructor
      · intro h
        cases h
        exact ⟨[], xs, rfl, rfl, List.mem_append_left _ hy⟩
      · rintro ⟨before, after, hsplit, hnone, -⟩
        cases before with
        | nil => exact congrArg some (List.cons.inj hsplit).1
        | cons z before =>
          rw [← (List.cons.inj hsplit).1, firstRepeat?_of_mem hy] at hnone
          cases hnone
    · rw [firstRepeat?_of_not_mem hy, ih]
      constructor
      · rintro ⟨before, after, rfl, hnone, hx⟩
        refine ⟨y :: before, after, rfl, (firstRepeat?_of_not_mem hy before).trans hnone, ?_⟩
        rwa [List.append_assoc] at hx
      · rintro ⟨before, after, hsplit, hnone, hx⟩
        cases before with
        | nil =>
          rw [← (List.cons.inj hsplit).1, List.map_nil, List.append_nil] at hx
          exact absurd hx hy
        | cons z before =>
          obtain ⟨rfl, rfl⟩ := List.cons.inj hsplit
          rw [firstRepeat?_of_not_mem hy] at hnone
          refine ⟨before, after, rfl, hnone, ?_⟩
          rwa [List.append_assoc]

end

namespace EntryViews

def file (v : EntryViews) (e : RuleEntry) : EntryViews where
  byKey := v.byKey.insert e.key e
  byTopic := v.byTopic.alter e.topic (· ++ [e]) []
  byCode := v.byCode.alter e.jurisdiction.code.key (· ++ [e]) []
  named := v.named.alter e.jurisdiction.code.key id e.jurisdiction

/-- The jurisdictions that entries name, each as the first of them does. -/
def namedBy (entries : List RuleEntry) (named : Table Code.Key Jurisdiction) :
    Table Code.Key Jurisdiction :=
  entries.foldl (fun t e => t.alter e.jurisdiction.code.key id e.jurisdiction) named

variable {v : EntryViews} {e : RuleEntry} {entries : List RuleEntry}

theorem add_of_mem (h : e.key ∈ v.byKey.keys) :
    v.add e = .error (.duplicateRuleEntry e.jurisdiction.code e.topic) :=
  if_pos ((Table.contains_iff _ _).mpr h)

theorem add_of_not_mem (h : e.key ∉ v.byKey.keys) : v.add e = .ok (v.file e) :=
  if_neg fun hc => h ((Table.contains_iff _ _).mp hc)

/-- A new entry goes last. -/
theorem byKey_file (h : e.key ∉ v.byKey.keys) : (v.file e).byKey = v.byKey ++ [(e.key, e)] :=
  Table.insert_of_not_mem h e

theorem keys_file (h : e.key ∉ v.byKey.keys) :
    (v.file e).byKey.keys = v.byKey.keys ++ [e.key] := by
  rw [byKey_file h, Table.keys, List.map_append]
  rfl

/-- Filing fails at the first repeated key, and only there. -/
theorem foldlM_add : entries.foldlM add v =
    match firstRepeat? RuleEntry.key v.byKey.keys entries with
    | some e => .error (.duplicateRuleEntry e.jurisdiction.code e.topic)
    | none => .ok (entries.foldl file v) := by
  -- On the entries; the keys that are seen are always those of the views.
  induction entries generalizing v with
  | nil => rfl
  | cons e entries ih =>
    rw [List.foldlM_cons]
    by_cases h : e.key ∈ v.byKey.keys
    · rw [add_of_mem h, firstRepeat?_of_mem h]
      rfl
    · rw [add_of_not_mem h, firstRepeat?_of_not_mem h, ← keys_file h]
      exact ih

theorem byKey_foldl_file (hnone : firstRepeat? RuleEntry.key v.byKey.keys entries = none) :
    (entries.foldl file v).byKey = v.byKey ++ entries.map fun e => (e.key, e) := by
  induction entries generalizing v with
  | nil => exact (List.append_nil _).symm
  | cons e entries ih =>
    obtain ⟨h, hrest⟩ := firstRepeat?_cons_eq_none hnone
    rw [← keys_file h] at hrest
    rw [List.foldl_cons, ih hrest, byKey_file h, List.append_assoc]
    rfl

section

variable {κ : Type} [DecidableEq κ] (view : EntryViews → Table κ (List RuleEntry))
  {key : RuleEntry → κ} (hview : ∀ v e, view (v.file e) = (view v).alter (key e) (· ++ [e]) [])
include hview

/-- In a view that files each entry last under a key, those with one key stand in their order. -/
theorem get?_view_foldl_file (k : κ) : ((view (entries.foldl file v)).get? k).getD [] =
    ((view v).get? k).getD [] ++ entries.filter (key · = k) := by
  induction entries generalizing v with
  | nil => exact (List.append_nil _).symm
  | cons e entries ih =>
    rw [List.foldl_cons, ih, hview, Table.alter, Table.get?_insert]
    by_cases h : key e = k <;> simp [h]

/-- A view has the keys of the entries that are filed and no others. -/
theorem mem_keys_view_foldl_file {k : κ} : k ∈ (view (entries.foldl file v)).keys ↔
    k ∈ (view v).keys ∨ ∃ e ∈ entries, key e = k := by
  induction entries generalizing v with
  | nil => simp
  | cons e entries ih =>
    have hfirst : k ∈ (view (v.file e)).keys ↔ k ∈ (view v).keys ∨ key e = k := by
      rw [hview, Table.alter, Table.keys_insert]
      split
      · next hin => exact ⟨.inl, fun h => h.elim id fun hk => hk ▸ hin⟩
      · rw [List.mem_append, List.mem_singleton, eq_comm (a := k)]
    rw [List.foldl_cons, ih, hfirst, or_assoc]
    simp only [List.mem_cons, exists_eq_or_imp]

end

/-- Under each topic the entries stand in the order in which they are filed. -/
theorem byTopic_foldl_file (topic : Topic) :
    ((entries.foldl file v).byTopic.get? topic).getD [] =
      (v.byTopic.get? topic).getD [] ++ entries.filter (·.topic = topic) :=
  get?_view_foldl_file EntryViews.byTopic (fun _ _ => rfl) topic

theorem byCode_foldl_file (k : Code.Key) :
    ((entries.foldl file v).byCode.get? k).getD [] =
      (v.byCode.get? k).getD [] ++ entries.filter (·.jurisdiction.code.key = k) :=
  get?_view_foldl_file EntryViews.byCode (fun _ _ => rfl) k

theorem named_foldl_file : (entries.foldl file v).named = namedBy entries v.named := by
  induction entries generalizing v with
  | nil => rfl
  | cons e entries ih => exact ih

end EntryViews

namespace Catalog

def ofDistinct (entries : List RuleEntry) (registry : Option Registry) : Catalog :=
  { entries.foldl EntryViews.file {} with
    registry := registryFor (EntryViews.namedBy entries []) registry }

/-- A catalogue is refused for its first repeated key. -/
theorem ofEntries_eq (entries : List RuleEntry) (registry : Option Registry) :
    ofEntries entries registry = match firstRepeat? RuleEntry.key [] entries with
      | some e => .error (.duplicateRuleEntry e.jurisdiction.code e.topic)
      | none => .ok (ofDistinct entries registry) := by
  have hviews : entries.foldlM EntryViews.add {} = _ := EntryViews.foldlM_add
  rw [ofEntries, EntryViews.ofList, hviews, Table.keys, List.map_nil]
  split
  · rfl
  · rw [ofDistinct, ← EntryViews.named_foldl_file (v := {})]
    rfl

theorem ofEntries_eq_ok {entries : List RuleEntry} {registry : Option Registry} {c : Catalog} :
    ofEntries entries registry = .ok c ↔
      firstRepeat? RuleEntry.key [] entries = none ∧ ofDistinct entries registry = c := by
  rw [ofEntries_eq]
  split
  · next hsome => simp [hsome]
  · next hnone => simp [hnone]

/-- Entries whose codes are texts can all be kept. -/
theorem build_eq {entries : List RuleEntry} (htexts : ∀ e ∈ entries, e.jurisdiction.code.isText)
    (registry : Option Registry) :
    build entries registry = match firstRepeat? RuleEntry.key [] entries with
      | some e => .error (.failure (.duplicateRuleEntry e.jurisdiction.code e.topic))
      | none => .ok (ofDistinct entries registry) := by
  have hkeyed : entries.takeWhile (fun e => e.jurisdiction.code.isKey) = entries := by
    rw [List.takeWhile_eq_self_iff]
    intro e he
    have htext := htexts e he
    cases hcode : e.jurisdiction.code with
    | text s => rfl
    | value j => simp [hcode, Code.isText, Code.text?] at htext
  rw [build, hkeyed, ofEntries_eq]
  split
  · rfl
  · exact if_neg (Nat.lt_irrefl entries.length)

theorem size_ofDistinct {entries : List RuleEntry}
    (hnone : firstRepeat? RuleEntry.key [] entries = none) (registry : Option Registry) :
    (ofDistinct entries registry).size = entries.length := by
  have hkeys : (entries.foldl EntryViews.file {}).byKey = _ := EntryViews.byKey_foldl_file hnone
  rw [size, ofDistinct, hkeys, List.nil_append, List.length_map]

/-- A catalogue lists its entries in the order in which they were filed. -/
theorem entries_ofDistinct {entries : List RuleEntry}
    (hnone : firstRepeat? RuleEntry.key [] entries = none) (registry : Option Registry) :
    (ofDistinct entries registry).entries = entries := by
  have hfiled : (entries.foldl EntryViews.file {}).byKey = _ := EntryViews.byKey_foldl_file hnone
  rw [Catalog.entries, ofDistinct, hfiled, List.nil_append, Table.values, List.map_map]
  exact List.map_id entries

end Catalog

namespace Decision

def Typed (d : Decision) : Prop := ∀ j ∈ d.statutes, ∃ s, j = .text s

end Decision

namespace CaseIndex

variable {ix ix' : CaseIndex} {d : Decision} {ds : List Decision}

def ids (ix : CaseIndex) : List String := ix.toList.map (·.id)

theorem length_toList (ix : CaseIndex) : ix.toList.length = ix.size := List.length_map _

theorem fileStatutes_of_texts {id : String} {js : List Json} {p : Postings}
    (htexts : ∀ j ∈ js, ∃ s, j = .text s) : (fileStatutes id js p).2 = .ok () := by
  induction js generalizing p with
  | nil => rfl
  | cons j js ih =>
    obtain ⟨s, rfl⟩ := htexts j List.mem_cons_self
    exact ih fun j hj => htexts j (List.mem_cons_of_mem _ hj)

/-- Filing statutes can break, but nothing about it is reported. -/
theorem fileStatutes_ne_failure (id : String) (js : List Json) (p : Postings) (f : Failure) :
    (fileStatutes id js p).2 ≠ .error (.failure f) := by
  fun_induction fileStatutes id js p with
  | case1 p =>
    intro h
    cases h
  | case2 s rest p ih => exact ih
  | case3 j rest p hj =>
    intro h
    cases h

/-- A refused decision leaves the index alone; a statute that is no text is not a refusal. -/
theorem add_of_failure {f : Failure} (h : (ix.add d).2 = .error (.failure f)) :
    (ix.add d).1 = ix := by
  unfold add at h ⊢
  split
  · rfl
  · next hnew =>
    rw [if_neg hnew] at h
    exact absurd h (fileStatutes_ne_failure _ _ _ _)

/-- A decision whose identifier is known is refused. -/
theorem Filed.add_of_mem (h : Filed ix) (hd : d.id ∈ ix.ids) :
    ix.add d = (ix, .error (.failure (.duplicateId d.id))) :=
  add_of_stored (h.keys_decisions ▸ hd)

theorem Filed.add_of_not_mem (h : Filed ix) (ht : d.Typed) (hd : d.id ∉ ix.ids) :
    (ix.add d).2 = .ok () := by
  rw [add_of_new (h.keys_decisions ▸ hd)]
  exact fileStatutes_of_texts ht

/-- A new decision goes last. -/
theorem Filed.toList_add_of_not_mem (h : Filed ix) (hd : d.id ∉ ix.ids) :
    (ix.add d).1.toList = ix.toList ++ [d] := by
  rw [h.toList_add, Decision.keepNew]
  exact if_neg hd

theorem Filed.ids_add_of_not_mem (h : Filed ix) (hd : d.id ∉ ix.ids) :
    (ix.add d).1.ids = ix.ids ++ [d.id] := by
  rw [ids, h.toList_add_of_not_mem hd, List.map_append]
  rfl

theorem addAll_cons_ok (hok : (ix.add d).2 = .ok ()) (ds : List Decision) :
    ix.addAll (d :: ds) = (ix.add d).1.addAll ds := by
  rw [addAll]
  split
  · next hadd => rw [hadd]
  · next hadd => rw [hadd] at hok; cases hok

theorem addAll_cons_error {e : Fault} (herror : (ix.add d).2 = .error e) (ds : List Decision) :
    ix.addAll (d :: ds) = .error e := by
  rw [addAll]
  split
  · next hadd => rw [hadd] at herror; cases herror
  · next hadd => rw [hadd] at herror; cases herror; rfl

/-- Adding fails at the first repeated identifier, and only there. -/
theorem Filed.addAll_eq (h : Filed ix) (ht : ∀ d ∈ ds, d.Typed) :
    ix.addAll ds = match firstRepeat? Decision.id ix.ids ds with
      | some d => .error (.failure (.duplicateId d.id))
      | none => .ok (ix.addEach ds) := by
  -- On the decisions; the identifiers that are seen are always those of the index.
  induction ds generalizing ix with
  | nil => rfl
  | cons d ds ih =>
    by_cases hd : d.id ∈ ix.ids
    · rw [firstRepeat?_of_mem hd, addAll_cons_error (congrArg Prod.snd (h.add_of_mem hd))]
    · have hadd := h.add_of_not_mem (ht d List.mem_cons_self) hd
      rw [firstRepeat?_of_not_mem hd, addAll_cons_ok hadd, ← h.ids_add_of_not_mem hd,
        ih (h.add d) fun d hd => ht d (List.mem_cons_of_mem _ hd)]
      rfl

/-- An index is refused for its first repeated identifier. -/
theorem ofList_eq (ht : ∀ d ∈ ds, d.Typed) :
    ofList ds = match firstRepeat? Decision.id [] ds with
      | some d => .error (.failure (.duplicateId d.id))
      | none => .ok (addEach {} ds) :=
  filed_empty.addAll_eq ht

/-- Additions that all succeed put the decisions last, in order. -/
theorem Filed.of_addAll (h : Filed ix) (hok : ix.addAll ds = .ok ix') :
    Filed ix' ∧ ix'.toList = ix.toList ++ ds := by
  induction ds generalizing ix with
  | nil =>
    cases hok
    exact ⟨h, (List.append_nil _).symm⟩
  | cons d ds ih =>
    cases hadd : (ix.add d).2 with
    | error e =>
      rw [addAll_cons_error hadd] at hok
      cases hok
    | ok =>
      rw [addAll_cons_ok hadd] at hok
      have hd : d.id ∉ ix.ids := by
        intro hd
        rw [h.add_of_mem hd] at hadd
        cases hadd
      obtain ⟨hfiled, hlist⟩ := ih (h.add d) hok
      rw [h.toList_add_of_not_mem hd, List.append_assoc] at hlist
      exact ⟨hfiled, hlist⟩

theorem filed_of_ofList (hok : ofList ds = .ok ix) : Filed ix ∧ ix.toList = ds :=
  filed_empty.of_addAll hok

/-- Decisions whose identifiers differ can all be added. -/
theorem ofList_of_nodup (ht : ∀ d ∈ ds, d.Typed) (hn : (ds.map (·.id)).Nodup) :
    ∃ ix, ofList ds = .ok ix := by
  have hnone : firstRepeat? Decision.id [] ds = none := firstRepeat?_of_nodup hn
  rw [ofList_eq ht, hnone]
  exact ⟨_, rfl⟩

/-- Decisions can be added in pieces. -/
theorem addAll_append {xs ys : List Decision} :
    ix.addAll (xs ++ ys) = ix.addAll xs >>= fun ix => ix.addAll ys := by
  induction xs generalizing ix with
  | nil => rfl
  | cons d xs ih =>
    cases hadd : (ix.add d).2 with
    | error e =>
      rw [List.cons_append, addAll_cons_error hadd, addAll_cons_error hadd]
      rfl
    | ok => rw [List.cons_append, addAll_cons_ok hadd, addAll_cons_ok hadd, ih]

theorem ofList_snoc (hok : ofList ds = .ok ix) (hadd : (ix.add d).2 = .ok ()) :
    ofList (ds ++ [d]) = .ok (ix.add d).1 := by
  rw [ofList, addAll_append, ← ofList, hok]
  exact addAll_cons_ok hadd []

/-- An index that is reached by additions, refused ones included, is the one that its decisions
build. -/
theorem ofList_toList_addEach (ht : ∀ d ∈ ds, d.Typed) :
    ofList (addEach {} ds).toList = .ok (addEach {} ds) := by
  induction ds using List.reverseRecOn with
  | nil => rfl
  | append_singleton ds d ih =>
    have hbefore := ih fun d hd => ht d (List.mem_append_left _ hd)
    have hfiled := (filed_empty.addEach ds).1
    have hstep : addEach {} (ds ++ [d]) = ((addEach {} ds).add d).1 := List.foldl_append
    rw [hstep]
    by_cases hd : d.id ∈ (addEach {} ds).ids
    · -- What is refused is neither in the index nor among its decisions.
      rw [hfiled.add_of_mem hd]
      exact hbefore
    · have hadd := hfiled.add_of_not_mem (ht d (List.mem_append_right _ List.mem_cons_self)) hd
      rw [hfiled.toList_add_of_not_mem hd]
      exact ofList_snoc hbefore hadd

end CaseIndex
end ComparativeLaw
